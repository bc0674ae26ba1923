import Intake.Proofs.Bodies.Source

/-! # Consumers with other bodies

Neither the loop of a consumer nor what it dispatches looks into a body: every operation commutes
with `Consumer.map`, which puts other bodies in the place of its own.
-/

namespace Intake

variable {β γ : Type}

/-! ## Queues -/

namespace Queue

variable {α α' : Type} (g : α → α') (q : Queue α)

@[simps] def map : Queue α' := { q with items := q.items.map g }

private theorem map_used : (q.map g).used = q.used := by simp only [used, map, List.length_map]

theorem map_length : (q.map g).length = q.length := by
  rw [length, map_isOpen, map_used]
  rfl

theorem map_isEmpty : (q.map g).isEmpty = q.isEmpty := by rw [isEmpty, map_length, isEmpty]

private theorem map_push? (a : α) : (q.map g).push? (g a) = (q.push? a).map (Queue.map g) := by
  unfold push?
  rw [map_used, map_capacity]
  split
  · simp only [Option.map_some, map, List.map_append, List.map_cons, List.map_nil]
  · rfl

private theorem map_fill (sender : Nat) (a : α) :
    (q.map g).fill sender (g a) = (q.fill sender a).map g := by
  simp only [fill, map, List.map_append, List.map_cons, List.map_nil]

private theorem map_pop? : (q.map g).pop? = q.pop?.map (Prod.map g (Queue.map g)) := by
  unfold pop?
  rw [map_items]
  cases q.items <;> rfl

theorem map_take? : (q.map g).take? = q.take?.map (Prod.map g (Queue.map g)) := by
  unfold take?
  rw [map_holder, map_pop?]
  split <;> rfl

private theorem map_flush : (q.map g).flush = q.flush.map (·) (Queue.map g) := by
  unfold flush
  rw [map_holder, map_items, List.length_map]
  split <;> rfl

theorem map_enter (reader : Nat) : (q.map g).enter reader = (q.enter reader).map g := by
  unfold enter
  rw [map_holder]
  split <;> rfl

theorem map_leave (reader : Nat) : (q.map g).leave reader = (q.leave reader).map g := by
  unfold leave
  rw [map_holder, map_line]
  split <;> rfl

theorem map_read? (reader : Nat) :
    (q.map g).read? reader = (q.read? reader).map (Prod.map g (Queue.map g)) := by
  unfold read?
  rw [map_holder, map_pop?]
  split
  · cases q.pop? with
    | none => rfl
    | some got => exact congrArg (fun q => some (g got.1, q)) (map_leave g got.2 reader)
  · rfl

end Queue

/-! ## Consumers -/

@[simps] def Dispatch.map (f : β → γ) (d : Dispatch β) : Dispatch γ :=
  { d with message := d.message.map f }

def Choice.map (f : β → γ) : Choice β → Choice γ
  | .closure c => .closure c
  | .exhausted => .exhausted
  | .delivery d => .delivery (d.map f)
  | .streamEnd => .streamEnd
  | .stop => .stop
  | .wait => .wait

def Answer.map (f : β → γ) : Answer β → Answer γ
  | .nothing => .nothing
  | .leased result => .leased result
  | .done result => .done result
  | .seen notice arrival => .seen notice (arrival.map (Delivery.map f))

namespace Consumer

variable (f : β → γ) (c : Consumer β)

@[simps] def map : Consumer γ := { c with
  dispatches := c.dispatches.map (Dispatch.map f)
  messages := c.messages.map (Message.map f) }

theorem map_create (settings : ConsumerSettings) (pool : PoolSettings) :
    create settings pool = (create settings pool).map (Consumer.map f) := by
  unfold create
  cases settings.validate with
  | error fault => rfl
  | ok =>
    dsimp only
    split <;> rfl

private theorem map_nextNumber : (c.map f).nextNumber = c.nextNumber := by
  unfold nextNumber
  rw [map_dispatches, List.getLast?_map]
  cases c.dispatches.getLast? <;> rfl

/-! ## The steps of the loop -/

private theorem map_log (e : LogEntry) : (c.map f).log e = (c.log e).map f := rfl

private theorem map_meter (m : Meter) : (c.map f).meter m = (c.meter m).map f := rfl

private theorem map_report (fault : Fault) : (c.map f).report fault = (c.report fault).map f := by
  unfold report
  rw [map_errors]
  cases c.errors.push? fault <;> rfl

theorem map_demand : (c.map f).demand = c.demand := rfl

private theorem map_leave (channel : Channel) (ending : Ending) :
    (c.map f).leave channel ending = (c.leave channel ending).map f := rfl

private theorem map_closed (channel : Channel) (closure : Closure) :
    (c.map f).closed channel closure = (c.closed channel closure).map f := by
  unfold closed
  dsimp only
  rw [map_log, map_meter, map_report, map_leave]
  rfl

private theorem map_streamEnded (channel : Channel) (resumeAt : Nat) :
    (c.map f).streamEnded channel resumeAt = (c.streamEnded channel resumeAt).map f := by
  unfold streamEnded
  dsimp only
  rw [map_log, map_report, map_leave]
  rfl

private theorem map_choose (watching : Bool) (notice : Glance Closure)
    (arrival : Glance (Delivery β)) :
    (c.map f).choose watching notice (arrival.map (Delivery.map f)) =
      (c.choose watching notice arrival).map f := by
  unfold choose
  rw [map_allowance, map_stopSignal]
  generalize c.allowance.request.reservation = reservation
  generalize c.stopSignal = pending
  cases watching <;> cases notice <;> cases reservation <;> cases arrival <;> cases pending <;> rfl

private theorem map_receive (channel : Channel) (d : Delivery β) :
    (c.map f).receive channel (d.map f) = (c.receive channel d).map f := by
  let tracked : Consumer β := { c with allowance := c.allowance.request.track }
  let noted := ((tracked.meter .deliveryReceived).meter (.inFlight tracked.inFlight)).log
    (.deliveryReceived channel.id d.tag)
  let last : Dispatch β := ⟨c.nextNumber, .ofDelivery channel (!c.settings.autoAck) d⟩
  have dispatches : (c.map f).dispatches ++ [⟨(c.map f).nextNumber, last.message.map f⟩] =
      (c.dispatches ++ [last]).map (Dispatch.map f) := by
    rw [map_nextNumber, List.map_append]
    rfl
  exact congrArg (fun dispatches => { noted.map f with dispatches }) dispatches

private theorem map_stream? (now : Nat) (channel : Channel) (watching : Bool)
    (notice : Glance Closure) (arrival : Glance (Delivery β)) :
    (c.map f).stream? now channel watching notice (arrival.map (Delivery.map f)) =
      (c.stream? now channel watching notice arrival).map (Consumer.map f) := by
  unfold stream?
  rw [map_choose]
  cases c.choose watching notice arrival with
  | closure closure => exact congrArg some (map_closed f c.unreserve channel closure)
  | exhausted => rfl
  | delivery d =>
    dsimp only [Choice.map]
    rw [map_receive, map_stopSignal]
    split <;> rfl
  | streamEnd =>
    let requested : Consumer β := { c with allowance := c.allowance.request }
    have ended := map_streamEnded f requested.unreserve channel (now + c.settings.idlePause.toNat)
    cases watching with
    | true => rfl
    | false => exact congrArg some ended
  | stop => rfl
  | wait =>
    dsimp only [Choice.map]
    rw [map_allowance]
    split <;> rfl

private theorem map_linger? (now : Nat) (channel : Channel) (resumeAt : Nat)
    (notice : Glance Closure) :
    (c.map f).linger? now channel resumeAt notice =
      (c.linger? now channel resumeAt notice).map (Consumer.map f) := by
  have ended := map_streamEnded f c channel resumeAt
  cases notice with
  | item closure => exact congrArg some (map_closed f c channel closure)
  | quiet =>
    unfold linger?
    dsimp only
    rw [ended]
    split <;> rfl
  | _ => exact congrArg some ended

private theorem map_leased (now : Nat) (result : Except ChannelFault Channel) :
    (c.map f).leased now result = (c.leased now result).map f := by
  cases result with
  | ok channel => rfl
  | error fault =>
    unfold leased
    dsimp only
    rw [map_meter, map_log, map_report]
    rfl

private theorem map_limited (channel : Channel) (result : Except ChannelFault Unit) :
    (c.map f).limited channel result = (c.limited channel result).map f := by
  unfold limited
  cases result with
  | ok => rfl
  | error fault =>
    dsimp only
    rw [map_settings]
    cases c.settings.prefetch? with
    | none => rfl
    | some prefetch =>
      let opening : Consumer β := { c with phase := .opening channel }
      exact map_report f (opening.log (.prefetchFailed channel.id fault)) (.prefetch prefetch fault)

private theorem map_opened (channel : Channel) (result : Except ChannelFault Unit) :
    (c.map f).opened channel result = (c.opened channel result).map f := by
  cases result with
  | ok => rfl
  | error fault =>
    unfold opened
    dsimp only
    rw [map_log, map_report]
    rfl

private theorem map_restored (channel : Channel) (ending : Ending)
    (result : Except ChannelFault Unit) :
    (c.map f).restored channel ending result = (c.restored channel ending result).map f := by
  cases result <;> rfl

private theorem map_drain : (c.map f).drain = c.drain.map f := by
  unfold drain
  rw [map_immediate]
  split <;> rfl

theorem map_proceed? (now : Nat) (answer : Answer β) :
    (c.map f).proceed? now (answer.map f) = (c.proceed? now answer).map (Consumer.map f) := by
  unfold proceed?
  rw [map_phase]
  cases c.phase with
  | idle => rfl
  | checking =>
    dsimp only
    rw [map_stopSignal]
    split <;> rfl
  | acquiring =>
    cases answer with
    | leased result => exact congrArg some (map_leased f c now result)
    | _ => rfl
  | limiting channel =>
    cases answer with
    | done result => exact congrArg some (map_limited f c channel result)
    | _ => rfl
  | opening channel =>
    cases answer with
    | done result => exact congrArg some (map_opened f c channel result)
    | _ => rfl
  | streaming channel watching =>
    cases answer with
    | seen notice arrival => exact map_stream? f c now channel watching notice arrival
    | _ => rfl
  | lingering channel resumeAt =>
    cases answer with
    | seen notice arrival => exact map_linger? f c now channel resumeAt notice
    | _ => rfl
  | restoring channel ending =>
    cases answer with
    | done result => exact congrArg some (map_restored f c channel ending result)
    | _ => rfl
  | releasing channel ending => cases answer <;> rfl
  | pausing channel resumeAt =>
    dsimp only
    split <;> rfl
  | draining => exact congrArg some (map_drain f c)
  | emptying =>
    have same : (c.map f).inFlight = c.inFlight := rfl
    dsimp only
    rw [same]
    split <;> rfl
  | parking immediate => rfl

theorem map_takes (answer : Answer β) : (c.map f).takes (answer.map f) = c.takes answer := by
  unfold takes
  rw [map_phase]
  cases c.phase with
  | streaming channel watching =>
    cases answer with
    | seen notice arrival =>
      dsimp only [Answer.map]
      rw [map_choose]
      cases c.choose watching notice arrival <;> rfl
    | _ => rfl
  | lingering channel resumeAt =>
    cases answer with
    | seen notice arrival => cases notice <;> rfl
    | _ => rfl
  | _ => rfl

/-! ## Dispatched deliveries -/

private theorem map_dispatch? (number : Nat) :
    (c.map f).dispatch? number = (c.dispatch? number).map (Dispatch.map f) := by
  rw [dispatch?, map_dispatches, List.find?_map]
  rfl

private theorem map_arrived (number : Nat) (messages : Queue (Message β)) :
    (c.map f).arrived number (messages.map (Message.map f)) =
      (c.arrived number messages).map f := by
  have left : (c.map f).dispatches.filter (·.number != number) =
      (c.dispatches.filter (·.number != number)).map (Dispatch.map f) := by
    rw [map_dispatches, List.filter_map]
    rfl
  unfold arrived
  dsimp only
  rw [left]
  rfl

theorem map_forward? (number : Nat) :
    (c.map f).forward? number = (c.forward? number).map (Consumer.map f) := by
  unfold forward?
  rw [map_dispatch?]
  cases c.dispatch? number with
  | none => rfl
  | some d =>
    have filled := c.messages.map_fill (Message.map f) number d.message
    have pushed := c.messages.map_push? (Message.map f) d.message
    simp only [Option.map_some, Option.bind_some, map_messages, Queue.map_granted,
      Queue.map_waiting, Dispatch.map_message]
    rw [filled, pushed]
    split
    · exact congrArg some (map_arrived f c number _)
    · split
      · rfl
      · cases c.messages.push? d.message with
        | none => rfl
        | some messages => exact congrArg some (map_arrived f c number messages)

/-! ## Starting and stopping -/

theorem map_flushErrors : (c.map f).flushErrors = c.flushErrors.map (·) (Consumer.map f) := rfl

theorem map_flushMessages :
    (c.map f).flushMessages = c.flushMessages.map (·) (Consumer.map f) := by
  unfold flushMessages
  rw [map_messages, Queue.map_flush]
  rfl

theorem map_start : (c.map f).start = c.start.map (·) (Consumer.map f) := by
  unfold start
  rw [map_started, map_flushErrors]
  split
  · rfl
  · dsimp only [Prod.map]
    rw [map_parked]
    split <;> rfl

theorem map_stop (immediate : Bool) :
    (c.map f).stop immediate = (c.stop immediate).map (·) (Consumer.map f) := by
  unfold stop
  rw [map_started]
  split
  · let asked : Consumer β := { c with immediate, stopRequested := true }
    change (if !asked.hasReceiver then _ else if asked.stopSignal then _ else _) =
      Prod.map _ _ (if !asked.hasReceiver then _ else if asked.stopSignal then _ else _)
    split
    · rfl
    · split <;> rfl
  · rfl

theorem map_flushStop : (c.map f).flushStop = c.flushStop.map f := by
  unfold flushStop
  rw [map_parked]
  split <;> rfl

end Consumer

end Intake
