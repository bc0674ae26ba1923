import Intake.Proofs.Consumer.Deeds

/-! # Notes make no difference

A consumer only ever adds to its notes and never looks at them. So two consumers that differ in
what they noted before do the same from then on, and note the same. `Consumer.noting` puts notes
in front of those of a consumer; every event commutes with it, and so does every history.
-/

namespace Intake

namespace Replay

variable {σ ε α : Type} {step? : σ → ε → Option σ} {f : σ → σ}

/-- A change of the state that commutes with every event commutes with every history. -/
theorem after?_map (commutes : ∀ s event, step? (f s) event = (step? s event).map f) (s : σ)
    (events : List ε) : after? step? (f s) events = (after? step? s events).map f := by
  induction events generalizing s with
  | nil => rfl
  | cons event rest ih =>
    rw [after?, after?, commutes]
    cases step? s event with
    | none => rfl
    | some next => exact ih next

/-- What is noted at an event and does not depend on the change is the same along the history. -/
theorem gather_map (commutes : ∀ s event, step? (f s) event = (step? s event).map f)
    {note : σ → ε → List α} (same : ∀ s event, note (f s) event = note s event) (s : σ)
    (events : List ε) : gather step? note (f s) events = gather step? note s events := by
  unfold gather
  induction events generalizing s with
  | nil => rfl
  | cons event rest ih =>
    rw [transitions, transitions, commutes]
    cases step? s event with
    | none => rfl
    | some next =>
      simp only [Option.map_some, List.flatMap_cons, same]
      rw [ih next]

end Replay

namespace Consumer

variable {β : Type} {c c' : Consumer β}

/-- The consumer, had it noted something else before. -/
def noting (earlier : List Note) (c : Consumer β) : Consumer β :=
  { c with notes := earlier ++ c.notes }

/-- The readings among some notes. -/
def readingsIn (notes : List Note) : Readings :=
  notes.filterMap fun note => match note with
    | .meter m => some m
    | .log _ => none

/-- The consumer without its notes. -/
def unnoted (c : Consumer β) : Consumer β := { c with notes := [] }

@[simp] theorem unnoted_noting (earlier : List Note) (c : Consumer β) :
    (c.noting earlier).unnoted = c.unnoted := rfl

theorem noting_unnoted (c : Consumer β) : c.unnoted.noting c.notes = c := by
  rw [noting, unnoted, List.append_nil]

section

variable (earlier : List Note) (c : Consumer β)

/-! ## The steps of the loop -/

private theorem noting_log (e : LogEntry) :
    (c.noting earlier).log e = (c.log e).noting earlier := by
  simp only [noting, log, List.append_assoc]

private theorem noting_meter (m : Meter) :
    (c.noting earlier).meter m = (c.meter m).noting earlier := by
  simp only [noting, meter, List.append_assoc]

private theorem noting_report (fault : Fault) :
    (c.noting earlier).report fault = (c.report fault).noting earlier := by
  have same : (c.noting earlier).errors = c.errors := rfl
  unfold report
  rw [same]
  cases c.errors.push? fault with
  | some errors => exact noting_meter earlier { c with errors } _
  | none =>
    dsimp only
    rw [noting_log, noting_meter]
    rfl

private theorem noting_closed (channel : Channel) (closure : Closure) :
    (c.noting earlier).closed channel closure = (c.closed channel closure).noting earlier := by
  unfold closed
  dsimp only
  rw [noting_log, noting_meter, noting_report]
  rfl

private theorem noting_streamEnded (channel : Channel) (resumeAt : Nat) :
    (c.noting earlier).streamEnded channel resumeAt =
      (c.streamEnded channel resumeAt).noting earlier := by
  unfold streamEnded
  dsimp only
  rw [noting_log, noting_report]
  rfl

private theorem noting_receive (channel : Channel) (d : Delivery β) :
    (c.noting earlier).receive channel d = (c.receive channel d).noting earlier := by
  simp only [receive, noting, meter, log, List.append_assoc]
  rfl

private theorem noting_leased (now : Nat) (result : Except ChannelFault Channel) :
    (c.noting earlier).leased now result = (c.leased now result).noting earlier := by
  cases result with
  | ok channel => exact noting_meter earlier { c with phase := _ } _
  | error fault =>
    unfold leased
    dsimp only
    rw [noting_meter, noting_log, noting_report]
    rfl

private theorem noting_limited (channel : Channel) (result : Except ChannelFault Unit) :
    (c.noting earlier).limited channel result = (c.limited channel result).noting earlier := by
  have same : (c.noting earlier).settings.prefetch? = c.settings.prefetch? := rfl
  unfold limited
  cases result with
  | ok => rfl
  | error fault =>
    dsimp only
    rw [same]
    cases limit : c.settings.prefetch? with
    | none => rfl
    | some prefetch =>
      have logged := noting_log earlier { c with phase := .opening channel }
        (.prefetchFailed channel.id fault)
      dsimp only
      rw [← noting_report, ← logged]
      rfl

private theorem noting_opened (channel : Channel) (result : Except ChannelFault Unit) :
    (c.noting earlier).opened channel result = (c.opened channel result).noting earlier := by
  cases result with
  | ok => exact noting_log earlier { c with phase := .streaming channel true } _
  | error fault =>
    unfold opened
    dsimp only
    rw [noting_log, noting_report]
    rfl

private theorem noting_restored (channel : Channel) (ending : Ending)
    (result : Except ChannelFault Unit) : (c.noting earlier).restored channel ending result =
      (c.restored channel ending result).noting earlier := by
  cases result with
  | ok => rfl
  | error fault => exact noting_log earlier { c with phase := .releasing channel ending } _

private theorem noting_drain : (c.noting earlier).drain = c.drain.noting earlier := by
  have same : (c.noting earlier).immediate = c.immediate := rfl
  unfold drain
  rw [same]
  split
  · rfl
  · exact noting_log earlier { c with phase := .emptying } _

private theorem noting_park (immediate : Bool) :
    (c.noting earlier).park immediate = (c.park immediate).noting earlier :=
  noting_log earlier { c with
    phase := .idle, parked := true, started := false, stopRequested := false, immediate := false
    running := false } _

private theorem noting_stream? (now : Nat) (channel : Channel) (watching : Bool)
    (notice : Glance Closure) (arrival : Glance (Delivery β)) :
    (c.noting earlier).stream? now channel watching notice arrival =
      (c.stream? now channel watching notice arrival).map (noting earlier) := by
  have same : (c.noting earlier).choose watching notice arrival =
      c.choose watching notice arrival := rfl
  unfold stream?
  rw [same]
  cases c.choose watching notice arrival with
  | closure closure => exact congrArg some (noting_closed earlier c.unreserve channel closure)
  | exhausted =>
    exact congrArg some
      (noting_log earlier { c.unreserve with phase := .streaming channel false } _)
  | delivery d =>
    have pending : (c.noting earlier).stopSignal = c.stopSignal := rfl
    dsimp only
    rw [receive_stopSignal, receive_stopSignal, pending, noting_receive]
    split <;> rfl
  | streamEnd =>
    cases watching with
    | true => rfl
    | false =>
      let requested : Consumer β := { c with allowance := c.allowance.request }
      have ended := noting_streamEnded earlier requested.unreserve channel
        (now + c.settings.idlePause.toNat)
      simp only [Bool.false_eq_true, if_false]
      exact congrArg some ended
  | stop => rfl
  | wait =>
    have allowance : (c.noting earlier).allowance = c.allowance := rfl
    dsimp only
    rw [allowance]
    split <;> rfl

private theorem noting_linger? (now : Nat) (channel : Channel) (resumeAt : Nat)
    (notice : Glance Closure) : (c.noting earlier).linger? now channel resumeAt notice =
      (c.linger? now channel resumeAt notice).map (noting earlier) := by
  cases notice with
  | item closure => exact congrArg some (noting_closed earlier c channel closure)
  | quiet =>
    unfold linger?
    by_cases due : resumeAt ≤ now
    · rw [if_pos due, if_pos due, noting_streamEnded]
      rfl
    · rw [if_neg due, if_neg due]
      rfl
  | _ => exact congrArg some (noting_streamEnded earlier c channel resumeAt)

theorem noting_proceed? (now : Nat) (answer : Answer β) :
    (c.noting earlier).proceed? now answer = (c.proceed? now answer).map (noting earlier) := by
  have same : (c.noting earlier).phase = c.phase := rfl
  unfold proceed?
  rw [same]
  split
  case h_1 => rfl
  case h_2 =>
    cases signal : c.stopSignal with
    | true => simp [noting, signal, log]
    | false => simp [noting, signal]
  case h_3 => exact congrArg some (noting_leased ..)
  case h_4 => exact congrArg some (noting_limited ..)
  case h_5 => exact congrArg some (noting_opened ..)
  case h_6 => exact noting_stream? ..
  case h_7 => exact noting_linger? ..
  case h_8 => exact congrArg some (noting_restored ..)
  case h_9 => rfl
  case h_10 => split <;> rfl
  case h_11 => exact congrArg some (noting_drain ..)
  case h_12 =>
    have count : (c.noting earlier).inFlight = c.inFlight := rfl
    rw [count]
    split <;> rfl
  case h_13 => exact congrArg some (noting_park ..)
  case h_14 => rfl

/-! ## Calls -/

theorem noting_start : (c.noting earlier).start = c.start.map id (noting earlier) := by
  have started : (c.noting earlier).started = c.started := rfl
  have parked : (c.noting earlier).flushErrors.2.parked = c.flushErrors.2.parked := rfl
  unfold start
  dsimp only
  rw [started, parked]
  split
  · rfl
  · split
    · have logged := noting_log earlier c.flushErrors.2
        (.starting c.settings.queue c.settings.name c.flushErrors.1)
      exact congrArg (fun c : Consumer β => (Except.ok (), { c with
        parked := false, stopSignal := false, phase := .checking, started := true
        running := true })) logged
    · rfl

theorem noting_stop (immediate : Bool) :
    (c.noting earlier).stop immediate = (c.stop immediate).map id (noting earlier) := by
  have vain {c : Consumer β} (on : c.started = true) (none : c.hasReceiver = false) :
      c.stop immediate = (.ok (), { c with immediate, stopRequested := true }) := by
    have unheard : (!{ c with immediate, stopRequested := true }.hasReceiver) = true := by
      change (!c.hasReceiver) = true
      rw [none]
      rfl
    rw [stop, if_pos on]
    dsimp only
    rw [if_pos unheard]
  have same : (c.noting earlier).started = c.started := rfl
  cases on : c.started with
  | false =>
    rw [stop_of_stopped on, stop_of_stopped (same.trans on)]
    rfl
  | true =>
    cases receiver : c.hasReceiver with
    | false =>
      rw [vain on receiver, vain (same.trans on) receiver]
      rfl
    | true =>
      have logged := noting_log earlier
        { c with immediate, stopRequested := true, stopSignal := true }
        (if c.stopSignal then .stopPending else .stopRequested c.settings.queue immediate)
      rw [stop_of_started on receiver, stop_of_started (same.trans on) receiver]
      exact congrArg (Prod.mk _) logged

private theorem noting_perform (a : Act) :
    (c.noting earlier).perform a = (c.perform a).noting earlier := by
  cases a with
  | start => exact congrArg Prod.snd (noting_start earlier c)
  | stop immediate => exact congrArg Prod.snd (noting_stop earlier c immediate)
  | flushStop =>
    have parked : (c.noting earlier).parked = c.parked := rfl
    unfold perform flushStop
    dsimp only
    rw [parked]
    split <;> rfl
  | use side u =>
    cases side with
    | messages =>
      rw [perform_use_messages, perform_use_messages]
      rfl
    | errors =>
      rw [perform_use_errors, perform_use_errors]
      rfl

/-! ## Events -/

private theorem noting_arrived (number : Nat) (messages : Queue (Message β)) :
    (c.noting earlier).arrived number messages = (c.arrived number messages).noting earlier := by
  simp only [arrived, noting, meter, List.append_assoc]
  rfl

theorem noting_forward? (number : Nat) :
    (c.noting earlier).forward? number = (c.forward? number).map (noting earlier) := by
  have found : (c.noting earlier).dispatch? number = c.dispatch? number := rfl
  have messages : (c.noting earlier).messages = c.messages := rfl
  unfold forward?
  rw [found, messages]
  cases c.dispatch? number with
  | none => rfl
  | some d =>
    simp only [Option.bind_some, noting_arrived]
    split
    · rfl
    · split
      · rfl
      · split <;> rfl

theorem noting_step? (e : Event β) :
    (c.noting earlier).step? e = (c.step? e).map (noting earlier) := by
  cases e with
  | act a => exact congrArg some (noting_perform earlier c a)
  | proceed now answer => exact noting_proceed? earlier c now answer
  | forward number => exact noting_forward? earlier c number

private theorem noting_told (c' : Consumer β) :
    (c.noting earlier).told (c'.noting earlier) = c.told c' := by
  have notes : (earlier ++ c'.notes).drop (earlier ++ c.notes).length =
      c'.notes.drop c.notes.length := by
    rw [List.length_append, ← List.drop_drop, List.drop_left]
  simp only [told, noting, notes]

theorem noting_deeds (e : Event β) : (c.noting earlier).deeds e = c.deeds e := by
  have launch (next : Consumer β) : launched ⟨c.noting earlier, e, next.noting earlier⟩ =
      launched ⟨c, e, next⟩ := by
    unfold launched
    rw [noting_start]
    rfl
  unfold deeds
  rw [noting_step?]
  cases c.step? e with
  | none => rfl
  | some next =>
    simp only [Option.map_some, launch, noting_told]
    rfl

theorem metered_noting : (c.noting earlier).metered = readingsIn earlier ++ c.metered :=
  List.filterMap_append

/-- What is counted at an event does not depend on what was counted before. -/
theorem drop_metered_noting (c' : Consumer β) :
    (c'.noting earlier).metered.drop (c.noting earlier).metered.length =
      c'.metered.drop c.metered.length := by
  rw [metered_noting, metered_noting, List.length_append, ← List.drop_drop, List.drop_left]

end

end Consumer

end Intake
