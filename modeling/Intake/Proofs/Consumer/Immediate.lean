import Intake.Proofs.Consumer.Draining

/-! # Immediate stops

Whether a loop waits for what is in flight is decided once, when it has given its channel back: by
the last stop that was accepted until then. An immediate one is obeyed. One that comes while the
loop waits already is accepted too, but the loop waits on.
-/

namespace Intake

namespace Consumer

variable {β : Type} {c c' c₀ : Consumer β} {e : Event β} {now : Nat} {answer : Answer β}

/-- A stop is accepted that wants to wait for deliveries in flight. -/
def relents (t : Transition (Consumer β) (Event β)) : Bool :=
  match t.event with
  | .act (.stop immediate) => !immediate && (t.source.stop immediate).1.isOk
  | _ => false

/-- The loop does not wait, and if it is asked to stop it is asked to hurry. -/
structure Hurried (c : Consumer β) : Prop where
  free : c.phase ≠ .emptying
  immediate : c.stopRequested = true → c.immediate = true

/-! ## One step -/

/-- A loop begins to wait at one place only, and only if the last stop was not immediate. -/
private theorem Advance.waits (advance : Advance c now answer c') (waiting : c'.phase = .emptying) :
    c.phase = .draining ∧ c.immediate = false := by
  have absent {P : Prop} (working : c'.phase.stage = .working) : P := by
    rw [waiting] at working
    cases working
  cases advance with
  | stopBeforeLease phase signal => cases waiting
  | seek phase silent => cases waiting
  | lease phase => exact absent (leased_stage ..)
  | limit phase => exact absent (limited_stage ..)
  | subscribe phase => exact absent (opened_stage ..)
  | closure phase chosen => exact absent (leave_stage _ _ nofun)
  | exhausted phase chosen => cases waiting
  | receive phase chosen silent =>
    rw [receive_phase, phase] at waiting
    cases waiting
  | receiveLast phase chosen signal => cases waiting
  | linger phase chosen => cases waiting
  | streamEnd phase chosen => exact absent (leave_stage _ _ nofun)
  | stop phase chosen => cases waiting
  | reserve phase chosen unreserved => exact absurd (phase.symm.trans waiting) nofun
  | lateClosure phase => exact absent (leave_stage _ _ nofun)
  | unexplained phase => exact absent (leave_stage _ _ nofun)
  | outlasted phase due => exact absent (leave_stage _ _ nofun)
  | restore phase =>
    rw [restored_phase] at waiting
    cases waiting
  | @release channel ending _ phase => cases ending <;> cases waiting
  | resume phase due => cases waiting
  | drain phase =>
    refine ⟨phase, Bool.eq_false_iff.mpr ?_⟩
    intro hurried
    rw [Consumer.drain, if_pos hurried] at waiting
    cases waiting
  | empty phase none => cases waiting
  | park phase => cases waiting

/-- A loop that leaves was asked to stop. -/
private theorem Orderly.requested_of_leaving (orderly : c.Orderly)
    (leaving : c.phase.stage = .leaving) :
    c.stopRequested = true := by
  have alive : c.started = true := by
    apply orderly.alive.mpr
    rw [leaving]
    exact nofun
  exact orderly.requested.mpr ⟨alive, .inr leaving⟩

private theorem Hurried.advance (hurried : c.Hurried) (orderly : c.Orderly)
    (advance : Advance c now answer c') : c'.Hurried := by
  constructor
  · intro waiting
    obtain ⟨draining, patient⟩ := advance.waits waiting
    have requested := orderly.requested_of_leaving (by rw [draining]; rfl)
    exact Bool.false_ne_true (patient.symm.trans (hurried.immediate requested))
  · intro requested
    have goesOn : c'.phase ≠ .idle := by
      intro idle
      have after := orderly.turn advance.turn
      have off : c'.started = false := by simp [after.started_eq, idle]
      exact Bool.false_ne_true ((after.unrequested off).symm.trans requested)
    have control := Control.mk.inj (advance.turn.control goesOn)
    have before : c.stopRequested = true := control.2.1.symm.trans requested
    exact control.2.2.1.trans (hurried.immediate before)

private theorem Hurried.step? (hurried : c.Hurried) (orderly : c.Orderly)
    (stepped : c.step? e = some c') (urgent : relents ⟨c, e, c'⟩ = false) : c'.Hurried := by
  cases orderly.happens stepped with
  | startRefused on => exact hurried
  | start off => exact ⟨nofun, hurried.immediate⟩
  | stopRefused off => exact hurried
  | @stop immediate on =>
    have accepted : (c.stop immediate).1.isOk = true := by
      rw [stop_of_started on orderly.hasReceiver]
      rfl
    have hurries : immediate = true := by simpa [relents, accepted] using urgent
    exact ⟨hurried.free, fun _ => hurries⟩
  | flushStop parked => exact ⟨hurried.free, hurried.immediate⟩
  | flushStopInVain unparked => exact hurried
  | useMessages => exact ⟨hurried.free, hurried.immediate⟩
  | useErrors => exact ⟨hurried.free, hurried.immediate⟩
  | proceed advance => exact hurried.advance orderly advance
  | forward hop =>
    have control := Control.mk.inj hop.control
    constructor
    · rw [hop.phase]
      exact hurried.free
    · intro requested
      exact control.2.2.1.trans (hurried.immediate (control.2.1.symm.trans requested))

/-- A loop that waits stays at it until nothing is in flight, whatever stops come. -/
private theorem waits_on (orderly : c.Orderly) (waiting : c.phase = .emptying)
    (stepped : c.step? e = some c') :
    c'.phase = .emptying ∨ c'.phase = .parking false ∧ c.inFlight = 0 := by
  cases orderly.happens stepped with
  | startRefused on => exact .inl waiting
  | start off =>
    have alive := orderly.started_eq
    rw [off, waiting] at alive
    exact absurd alive (by simp)
  | stopRefused off => exact .inl waiting
  | stop on => exact .inl waiting
  | flushStop parked => exact .inl waiting
  | flushStopInVain unparked => exact .inl waiting
  | useMessages => exact .inl waiting
  | useErrors => exact .inl waiting
  | proceed advance =>
    have proceeded := advance.proceed?_eq_some
    simp only [proceed?, waiting, Option.ite_none_right_eq_some, Option.some.injEq] at proceeded
    obtain ⟨none, rfl⟩ := proceeded
    exact .inr ⟨rfl, none⟩
  | forward hop => exact .inl (hop.phase.trans waiting)

/-! ## Histories -/

private theorem hurried_of_after? {events : List (Event β)} (orderly : c₀.Orderly)
    (hurried : c₀.Hurried) (ran : Replay.after? Consumer.step? c₀ events = some c)
    (urgent : ∀ t ∈ Replay.transitions Consumer.step? c₀ events, relents t = false) :
    c.Hurried := by
  refine orderly.induction
    (P := fun events c =>
      (∀ t ∈ Replay.transitions Consumer.step? c₀ events, relents t = false) → c.Hurried)
    ?_ ?_ ran urgent
  · intro _
    exact hurried
  · intro events middle event next orderly' before earlier stepped urgent
    rw [Replay.transitions_concat before stepped] at urgent
    have hurried := earlier fun t member => urgent t (List.mem_append_left _ member)
    exact hurried.step? orderly' stepped (urgent _ (by simp))

/-- An immediate stop that is accepted before the loop waits, and is not taken back by another
stop, keeps the loop from waiting for what is in flight: when it comes to drain, and when it is
about to report its end, it goes on at once. But a loop that waits already has decided: whatever
stop is accepted, it goes on as soon as nothing is in flight and not before. -/
theorem immediate_stop_before_waiting {settings : ConsumerSettings} {pool : PoolSettings}
    {events : List (Event β)} (created : create settings pool = .ok c₀)
    (ran : Replay.after? Consumer.step? c₀ events = some c) :
    (∀ earlier later running, events = earlier ++ .act (.stop true) :: later →
      Replay.after? Consumer.step? c₀ earlier = some running → (running.stop true).1 = .ok () →
      running.phase ≠ .emptying →
      (∀ t ∈ Replay.transitions Consumer.step? (running.stop true).2 later, relents t = false) →
      c.phase ≠ .emptying ∧ (c.stopRequested = true → c.immediate = true)) ∧
    (c.phase = .draining → c.immediate = true → ∀ now answer,
      c.proceed? now answer = some { c with phase := .parking true }) ∧
    (∀ immediate, c.phase = .parking immediate → ∀ now answer,
      c.proceed? now answer = some (c.park immediate)) ∧
    (c.phase = .emptying →
      (∀ now answer, (c.proceed? now answer).isSome = true ↔ c.inFlight = 0) ∧
      ∀ e c', c.step? e = some c' →
        c'.phase = .emptying ∨ c'.phase = .parking false ∧ c.inFlight = 0) := by
  have orderly₀ := orderly_of_create created
  have orderly := orderly₀.after? ran
  refine ⟨?_, ?_, ?_, ?_⟩
  · intro earlier later running same reached accepted free urgent
    subst same
    have orderly' := orderly₀.after? reached
    have on := started_of_stop accepted
    have hurried : (running.stop true).2.Hurried := by
      rw [stop_of_started on orderly'.hasReceiver]
      exact ⟨free, fun _ => rfl⟩
    have after := hurried_of_after? (orderly'.step? (e := .act (.stop true)) rfl) hurried
      (after?_act reached ran) urgent
    exact ⟨after.free, after.immediate⟩
  · intro phase hurried now answer
    simp only [proceed?, phase, Consumer.drain, hurried, if_true]
  · intro immediate phase now answer
    simp only [proceed?, phase]
  · intro waiting
    constructor
    · intro now answer
      simp [proceed?, waiting]
    · intro e c' stepped
      exact waits_on orderly waiting stepped

/-- One message fills the queue and a second delivery is in flight when the consumer is asked to
stop gracefully. -/
def blockedRun : List (Event Nat) :=
  [.act .start, .proceed 0 .nothing, .proceed 0 (.leased (.ok ⟨1, 1⟩)), .proceed 0 (.done (.ok ())),
    .proceed 0 (.seen .quiet (.item ⟨1, 10, false, "", ""⟩)), .forward 0,
    .proceed 0 (.seen .quiet (.item ⟨2, 20, false, "", ""⟩)), .forward 0, .act (.stop false)]

/-- The loop takes the signal, gives its channel back and decides whether to wait. -/
def windingUp : List (Event Nat) :=
  [.proceed 0 (.seen .quiet .quiet), .proceed 0 (.done (.ok ())), .proceed 0 .nothing]

theorem immediate_stop_before_waiting_blocked : ∃ c₀ running c : Consumer Nat,
    create { ConsumerSettings.default with messageBuffer := 1, maxInFlight := 1 } .default =
      .ok c₀ ∧
    Replay.after? Consumer.step? c₀ blockedRun = some running ∧
    (running.stop true).1 = .ok () ∧
    Replay.after? Consumer.step? c₀ (blockedRun ++ .act (.stop true) :: windingUp) = some c ∧
    c.inFlight = 1 ∧ c.phase ≠ .emptying ∧
    ∀ now answer, c.proceed? now answer = some (c.park true) := by
  obtain ⟨c₀, created, blocks, goes⟩ : ∃ c₀ : Consumer Nat,
      create { ConsumerSettings.default with messageBuffer := 1, maxInFlight := 1 } .default =
        .ok c₀ ∧
      (Replay.after? Consumer.step? c₀ blockedRun).any (fun running =>
        (running.stop true).1.isOk && decide (running.phase ≠ .emptying) &&
          (Replay.transitions Consumer.step? (running.stop true).2 windingUp).all
            fun t => !relents t) = true ∧
      (Replay.after? Consumer.step? c₀ (blockedRun ++ .act (.stop true) :: windingUp)).any
        (fun c => decide (c.inFlight = 1 ∧ c.phase = .parking true)) = true :=
    ⟨_, rfl, by decide +kernel, by decide +kernel⟩
  simp only [Option.any_eq_true, Bool.and_eq_true, decide_eq_true_eq, List.all_eq_true,
    Bool.not_eq_true'] at blocks goes
  obtain ⟨running, reached, ⟨ok, free⟩, urgent⟩ := blocks
  obtain ⟨c, ran, one, parking⟩ := goes
  have accepted : (running.stop true).1 = .ok () := by
    cases result : (running.stop true).1 with
    | ok => rfl
    | error fault => simp [result, Except.isOk, Except.toBool] at ok
  obtain ⟨obeyed, _, ends, _⟩ := immediate_stop_before_waiting created ran
  have waitless := (obeyed blockedRun windingUp running rfl reached accepted free urgent).1
  exact ⟨c₀, running, c, created, reached, accepted, ran, one, waitless, ends true parking⟩

/-- If the immediate stop comes when the loop waits already, it is accepted and noted, but neither
the loop nor the delivery in flight can go on: only a reader makes room. -/
theorem immediate_stop_too_late : ∃ c₀ running c : Consumer Nat,
    create { ConsumerSettings.default with messageBuffer := 1, maxInFlight := 1 } .default =
      .ok c₀ ∧
    Replay.after? Consumer.step? c₀ (blockedRun ++ windingUp) = some running ∧
    running.stop true = (.ok (), c) ∧ c.started = true ∧ c.immediate = true ∧
    c.phase = .emptying ∧ c.inFlight = 1 ∧ (∀ now answer, c.proceed? now answer = none) ∧
    ∀ number, c.forward? number = none := by
  obtain ⟨c₀, created, waits⟩ : ∃ c₀ : Consumer Nat,
      create { ConsumerSettings.default with messageBuffer := 1, maxInFlight := 1 } .default =
        .ok c₀ ∧
      (Replay.after? Consumer.step? c₀ (blockedRun ++ windingUp)).any (fun running =>
        (running.stop true).1.isOk &&
          decide ((running.stop true).2.started = true ∧
            (running.stop true).2.immediate = true ∧
            (running.stop true).2.phase = .emptying ∧ (running.stop true).2.inFlight = 1 ∧
            (running.stop true).2.dispatches.map (·.number) = [0] ∧
            (running.stop true).2.messages.granted = [] ∧
            (running.stop true).2.messages.waiting = [0])) = true :=
    ⟨_, rfl, by decide +kernel⟩
  simp only [Option.any_eq_true, Bool.and_eq_true, decide_eq_true_eq] at waits
  obtain ⟨running, reached, ok, on, hurried, waiting, one, numbers, granted, line⟩ := waits
  generalize stopped : running.stop true = result at *
  obtain ⟨outcome, c⟩ := result
  dsimp only at ok on hurried waiting one numbers granted line
  have accepted : outcome = .ok () := by
    cases outcome with
    | ok => rfl
    | error fault => simp [Except.isOk, Except.toBool] at ok
  refine ⟨c₀, running, c, created, reached, by rw [stopped, accepted], on, hurried, waiting, one,
    ?_, ?_⟩
  · intro now answer
    have busy : c.inFlight ≠ 0 := by
      rw [one]
      decide
    simp only [proceed?, waiting, busy, if_false]
  · intro number
    cases found : c.dispatch? number with
    | none => simp [forward?, found]
    | some d =>
      have member : d.number ∈ c.dispatches.map (·.number) :=
        List.mem_map_of_mem (List.mem_of_find?_eq_some found)
      have same : d.number = number := by simpa using List.find?_some found
      rw [numbers, same, List.mem_singleton] at member
      subst member
      simp [forward?, found, granted, line]

end Consumer

end Intake
