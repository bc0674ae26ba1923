import Intake.Proofs.Consumer.Conservation
import Intake.Proofs.Consumer.Deeds
import Intake.Proofs.Double.Whole

/-! # The gauge of a consumer

The number of deliveries in flight is counted by the allowance; the gauge is a copy of it, set where
a delivery is taken and where a dispatched one arrives. `Consumer.Gauging` says of every event that
either the number and the gauge stay as they are or the gauge is set to the number, so that the two
agree as soon as there has been a delivery.
-/

namespace Intake

namespace Consumer

variable {β : Type} {c c' : Consumer β} {now : Nat} {answer : Answer β} {e : Event β}

/-- The values that the gauge was set to, in order. -/
def gauges (c : Consumer β) : List Nat := c.metered.filterMap Meter.gauge?

section

variable (c : Consumer β)

@[simp] theorem gauges_log (entry : LogEntry) : (c.log entry).gauges = c.gauges := by
  simp [gauges]

@[simp] theorem gauges_meter (m : Meter) : (c.meter m).gauges = c.gauges ++ m.gauge?.toList := by
  cases m <;> simp [gauges, Meter.gauge?]

@[simp] theorem gauges_report (fault : Fault) : (c.report fault).gauges = c.gauges := by
  unfold report
  cases c.errors.push? fault with
  | some errors => exact (gauges_meter _ _).trans (List.append_nil _)
  | none => simp [Meter.gauge?]

@[simp] theorem gauges_closed (channel : Channel) (closure : Closure) :
    (c.closed channel closure).gauges = c.gauges :=
  (gauges_report _ _).trans (by simp [Meter.gauge?])

@[simp] theorem gauges_streamEnded (channel : Channel) (resumeAt : Nat) :
    (c.streamEnded channel resumeAt).gauges = c.gauges :=
  (gauges_report _ _).trans (gauges_log _ _)

@[simp] theorem gauges_leased (result : Except ChannelFault Channel) :
    (c.leased now result).gauges = c.gauges := by
  cases result with
  | ok channel => exact (gauges_meter _ _).trans (List.append_nil _)
  | error fault => exact (gauges_report _ _).trans (by simp [Meter.gauge?])

@[simp] theorem gauges_limited (channel : Channel) (result : Except ChannelFault Unit) :
    (c.limited channel result).gauges = c.gauges := by
  simp only [limited]
  split
  · rw [gauges_report, gauges_log]
    rfl
  · rfl

@[simp] theorem gauges_opened (channel : Channel) (result : Except ChannelFault Unit) :
    (c.opened channel result).gauges = c.gauges := by
  cases result with
  | ok => exact gauges_log _ _
  | error fault => exact (gauges_report _ _).trans (gauges_log _ _)

@[simp] theorem gauges_restored (channel : Channel) (ending : Ending)
    (result : Except ChannelFault Unit) :
    (c.restored channel ending result).gauges = c.gauges := by
  cases result with
  | ok => rfl
  | error fault => exact gauges_log _ _

@[simp] theorem gauges_receive (channel : Channel) (d : Delivery β) :
    (c.receive channel d).gauges = c.gauges ++ [(c.receive channel d).inFlight] := by
  simp only [gauges, metered_receive, List.filterMap_append, inFlight_receive]
  rfl

@[simp] theorem gauges_arrived (number : Nat) (messages : Queue (Message β)) :
    (c.arrived number messages).gauges =
      c.gauges ++ [(c.arrived number messages).inFlight] := by
  simp only [gauges, metered_arrived, List.filterMap_append, inFlight_arrived]
  rfl

end

/-- A step that takes no delivery does not set the gauge. -/
private theorem Advance.gauges_of_not_arrival (advance : Advance c now answer c')
    (other : c.takes answer ≠ .arrival) : c'.gauges = c.gauges := by
  cases advance with
  | stopBeforeLease | exhausted => exact gauges_log _ _
  | seek | linger | stop | reserve | release | resume | empty => rfl
  | lease => exact gauges_leased _ _
  | limit => exact gauges_limited _ _ _
  | subscribe => exact gauges_opened _ _ _
  | closure => exact gauges_closed c.unreserve _ _
  | receive phase chosen | receiveLast phase chosen =>
    exact absurd (by simp only [takes, phase, chosen]) other
  | streamEnd =>
    rw [gauges_streamEnded]
    rfl
  | lateClosure => exact gauges_closed _ _ _
  | unexplained | outlasted => exact gauges_streamEnded _ _ _
  | restore => exact gauges_restored _ _ _ _
  | drain =>
    unfold Consumer.drain
    split
    · rfl
    · exact gauges_log _ _
  | park => exact gauges_log _ _

/-- What an event does to the number of deliveries in flight and to the gauge. -/
inductive Gauging (c : Consumer β) (e : Event β) (c' : Consumer β) : Prop
  /-- Nothing. -/
  | rests (gauges : c'.gauges = c.gauges) (inFlight : c'.inFlight = c.inFlight)
      (taken : c.taken e = [])
  /-- A delivery comes or one that is under way arrives, and the gauge is set after that. -/
  | sets (gauges : c'.gauges = c.gauges ++ [c'.inFlight])
      (moved : c.taken e ≠ [] ∨ c.dispatches ≠ [])

private theorem Advance.gauging (advance : Advance c now answer c') :
    Gauging c (.proceed now answer) c' := by
  by_cases arrival : c.takes answer = .arrival
  · obtain ⟨channel, watching, notice, item, d, phase, rfl, chosen⟩ := chosen_of_takes arrival
    have taken : c.taken (.proceed now (.seen notice item)) = [(channel, d)] :=
      taken_of_delivery phase chosen
    have moved : c.taken (.proceed now (.seen notice item)) ≠ [] := by
      rw [taken]
      exact List.cons_ne_nil _ _
    have turn := advance.turn
    rw [taken] at turn
    cases turn with
    | receives before silent => exact .sets (gauges_receive c channel d) (.inl moved)
    | receivesLast before signal => exact .sets (gauges_receive c channel d) (.inl moved)
  · have taken : c.taken (.proceed now answer) = [] := taken_eq_nil arrival
    refine .rests (advance.gauges_of_not_arrival arrival) ?_ taken
    have shift := advance.shift
    generalize loaded : c'.load = l at shift
    cases shift with
    | rests => exact congrArg Load.inFlight loaded
    | comes new => exact absurd (taken.symm.trans new) (List.cons_ne_nil _ _).symm

private theorem Hop.gauging {number : Nat} (hop : Hop c number c') :
    Gauging c (.forward number) c' := by
  have underWay {d : Dispatch β} (found : c.dispatch? number = some d) : c.dispatches ≠ [] :=
    List.ne_nil_of_mem (List.mem_of_find?_eq_some found)
  cases hop with
  | fill found granted => exact .sets (c.gauges_arrived number _) (.inr (underWay found))
  | push found notGranted notWaiting room =>
    exact .sets (c.gauges_arrived number _) (.inr (underWay found))
  | await found notGranted notWaiting full => exact .rests rfl rfl rfl

/-- After every event the gauge says how many deliveries are in flight, or it still says what it
said before and the number is the same. -/
private theorem Orderly.gauging (orderly : c.Orderly) (stepped : c.step? e = some c') :
    Gauging c e c' := by
  cases e with
  | act a =>
    obtain ⟨entries, noted, _⟩ := orderly.logs stepped
    refine .rests ?_ ?_ rfl
    · rw [gauges, metered, noted, List.filterMap_append]
      refine congrArg (List.filterMap Meter.gauge?) (List.append_right_eq_self.mpr ?_)
      exact List.filterMap_eq_nil_iff.mpr (by simp)
    · have shift := shift stepped
      generalize loaded : c'.load = l at shift
      cases shift with
      | rests => exact congrArg Load.inFlight loaded
      | comes new => cases new
      | serves => exact congrArg Load.inFlight loaded
  | proceed now answer => exact (Advance.of_proceed? stepped).gauging
  | forward number => exact (Hop.of_forward? stepped).gauging

/-! ## Histories -/

/-- The counters go up with every delivery that is taken and every message that is put on the
queue. -/
private theorem Shift.counts {l : Load β} (shift : Shift c e l) :
    l.received = c.metered.received + (c.taken e).length ∧
      l.enqueued = c.metered.enqueued + (c.enqueued e).length := by
  cases shift with
  | rests taken enqueued =>
    rw [taken, enqueued]
    exact ⟨rfl, rfl⟩
  | comes taken enqueued =>
    rw [taken, enqueued]
    exact ⟨rfl, rfl⟩
  | arrives found items enqueued =>
    rw [enqueued]
    exact ⟨rfl, rfl⟩
  | awaits enqueued =>
    rw [enqueued]
    exact ⟨rfl, rfl⟩
  | serves => exact ⟨rfl, rfl⟩

private theorem counts_of_after? {settings : ConsumerSettings} {pool : PoolSettings}
    {events : List (Event β)} (created : create settings pool = .ok c₀)
    (ran : Replay.after? Consumer.step? c₀ events = some c) :
    c.metered.received = (Replay.gather Consumer.step? taken c₀ events).length ∧
      c.metered.enqueued = (Replay.gather Consumer.step? enqueued c₀ events).length := by
  refine Replay.after?_induction
    (P := fun events c =>
      c.metered.received = (Replay.gather Consumer.step? taken c₀ events).length ∧
        c.metered.enqueued = (Replay.gather Consumer.step? enqueued c₀ events).length) ?_ ?_ ran
  · rw [create_eq_ok created]
    exact ⟨rfl, rfl⟩
  · intro events middle event next before ⟨received, enqueued⟩ stepped
    obtain ⟨received', enqueued'⟩ := (shift stepped).counts
    rw [Replay.gather_concat taken before stepped, Replay.gather_concat Consumer.enqueued before
      stepped, List.length_append, List.length_append, ← received, ← enqueued]
    exact ⟨received', enqueued'⟩

/-- The gauge is set as soon as a delivery was taken, and then it says how many are in flight. -/
private theorem gauge_of_after? {settings : ConsumerSettings} {pool : PoolSettings}
    {events : List (Event β)} (created : create settings pool = .ok c₀)
    (ran : Replay.after? Consumer.step? c₀ events = some c) :
    c.metered.gauge? = if Replay.gather Consumer.step? taken c₀ events = [] then none
      else some c.inFlight := by
  refine (orderly_of_create created).induction
    (P := fun events c => c.gauges.getLast? =
      if Replay.gather Consumer.step? taken c₀ events = [] then none else some c.inFlight)
    ?_ ?_ ran
  · rw [create_eq_ok created]
    rfl
  · intro events middle event next orderly before agrees stepped
    rw [Replay.gather_concat taken before stepped]
    cases orderly.gauging stepped with
    | rests gauges inFlight notTaken =>
      rw [gauges, notTaken, List.append_nil, inFlight]
      exact agrees
    | sets gauges moved =>
      have some : Replay.gather Consumer.step? taken c₀ events ++ middle.taken event ≠ [] := by
        intro none
        obtain ⟨earlier, now⟩ := List.append_eq_nil_iff.mp none
        -- what is under way was taken earlier
        have underWay := (ledger_of_after? created before).2.dispatched
        rw [earlier, List.map_nil, List.nil_perm] at underWay
        obtain ⟨idle, _⟩ := List.append_eq_nil_iff.mp underWay
        exact moved.elim (absurd now) (absurd (List.map_eq_nil_iff.mp idle))
      rw [gauges, List.getLast?_concat, if_neg some]

/-- What the readings of a consumer say of its deliveries, given how many it has taken and how many
of them it has put on its queue of messages. -/
structure Gauged (c : Consumer β) (taken arrived : Nat) (readings : Readings) : Prop where
  received : readings.received = taken
  enqueued : readings.enqueued = arrived
  /-- The gauge is the number in flight as soon as there was a delivery. -/
  gauge : readings.gauge? = if taken = 0 then none else some c.inFlight
  idle : c.inFlight = 0 ↔ arrived = taken
  /-- A number of at most 53 bits is shown without rounding. -/
  shown : taken ≠ 0 → c.inFlight < 2 ^ 53 →
    readings.samples.getLast? = some ⟨"amqp_consumer_in_flight", "", toString c.inFlight⟩

theorem gauged_of_after? {settings : ConsumerSettings} {pool : PoolSettings}
    {events : List (Event β)} (created : create settings pool = .ok c₀)
    (ran : Replay.after? Consumer.step? c₀ events = some c) :
    c.Gauged (Replay.gather Consumer.step? taken c₀ events).length
      (Replay.gather Consumer.step? enqueued c₀ events).length c.metered := by
  obtain ⟨received, enqueued⟩ := counts_of_after? created ran
  have counted : c.metered.received = c.metered.enqueued + c.inFlight :=
    (ledger_of_after? created ran).2.counted
  have gauge : c.metered.gauge? =
      if (Replay.gather Consumer.step? taken c₀ events).length = 0 then none
      else some c.inFlight := by
    simp only [gauge_of_after? created ran, List.length_eq_zero_iff]
  refine ⟨received, enqueued, gauge, ?_, ?_⟩
  · rw [← received, ← enqueued, counted]
    constructor
    · intro none
      rw [none, Nat.add_zero]
    · intro same
      exact Nat.left_eq_add.mp same
  · intro some small
    rw [if_neg some] at gauge
    rw [Readings.samples, gauge, Option.map_some, Option.toList_some, List.getLast?_concat,
      Readings.printGauge_eq small]

end Consumer

end Intake
