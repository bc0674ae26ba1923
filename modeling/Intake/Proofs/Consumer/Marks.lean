import Intake.Proofs.Consumer.Deeds

/-! # What a consumer counts

A consumer counts the leases it asks for, the faults it reports and the closures it sees.
`Consumer.Orderly.marks` says that this is what it does, step by step: its readings are the marks of
its deeds.
-/

namespace Intake

/-- What is both done and counted. -/
inductive Mark where
  | acquired (success : Bool)
  | reported (kind : String)
  | closure
deriving DecidableEq, Repr

def Meter.mark? : Meter → Option Mark
  | .channelAcquired success => some (.acquired success)
  | .errorReported kind | .errorDropped kind => some (.reported kind)
  | .channelClosed => some .closure
  | .deliveryReceived | .messageEnqueued | .inFlight _ => none

def Deed.mark? : Deed → Option Mark
  | .lease (.ok _) => some (.acquired true)
  | .lease (.error _) => some (.acquired false)
  | .report fault => some (.reported fault.kind)
  | .countClosure => some .closure
  | .launch | .limit _ _ _ _ | .subscribe _ _ _ | .release _ _ | .stop | .finish => none

namespace Readings

/-- How many leases were counted that succeeded, or that failed. -/
def acquisitions (readings : Readings) (success : Bool) : Nat :=
  readings.count ("amqp_consumer_channel_acquisitions_total",
    "status=" ++ if success then "success" else "failed")

/-- How many faults of a kind were counted, whether there was room for them or not. -/
def reported (readings : Readings) (kind : String) : Nat :=
  readings.count ("amqp_consumer_errors_total", "kind=" ++ kind) +
    readings.count ("amqp_consumer_errors_dropped_total", "kind=" ++ kind)

/-- How many closures were counted. -/
def closures (readings : Readings) : Nat :=
  readings.count ("amqp_consumer_channel_closures_total", "")

/-- What was counted of what is done. -/
def marks (readings : Readings) : List Mark := readings.filterMap Meter.mark?

/-- A counter of one kind of mark. -/
private theorem count_eq {counter : String × String} {mark : Mark}
    (same : ∀ m : Meter, m.counter? = some counter ↔ m.mark? = some mark) (readings : Readings) :
    readings.count counter = readings.marks.count mark := by
  rw [count, marks, List.count_filterMap]
  exact List.countP_congr fun m _ => by simpa using same m

theorem acquisitions_eq (readings : Readings) (success : Bool) :
    readings.acquisitions success = readings.marks.count (.acquired success) := by
  refine readings.count_eq fun m => ?_
  cases m with
  | channelAcquired success' =>
    cases success <;> cases success' <;> simp [Meter.counter?, Meter.mark?]
  | _ => simp [Meter.counter?, Meter.mark?]

theorem closures_eq (readings : Readings) : readings.closures = readings.marks.count .closure := by
  refine readings.count_eq fun m => ?_
  cases m <;> simp [Meter.counter?, Meter.mark?]

theorem count_reported (readings : Readings) (kind : String) :
    readings.count ("amqp_consumer_errors_total", "kind=" ++ kind) =
      List.count (.errorReported kind) readings := by
  refine List.countP_congr fun m _ => ?_
  cases m <;> simp [Meter.counter?]

theorem count_dropped (readings : Readings) (kind : String) :
    readings.count ("amqp_consumer_errors_dropped_total", "kind=" ++ kind) =
      List.count (.errorDropped kind) readings := by
  refine List.countP_congr fun m _ => ?_
  cases m <;> simp [Meter.counter?]

theorem reported_eq (readings : Readings) (kind : String) :
    readings.reported kind = readings.marks.count (.reported kind) := by
  rw [reported, count_reported, count_dropped, marks, List.count_filterMap]
  induction readings with
  | nil => rfl
  | cons m rest ih =>
    rw [List.count_cons, List.count_cons, List.countP_cons, ← ih]
    cases m <;> simp [Meter.mark?] <;> omega

end Readings

namespace Consumer

variable {β : Type} {c c' c'' : Consumer β} {e : Event β} {now : Nat} {answer : Answer β}
  {ms ms' : List Mark} {ds : List Deed}

/-- So much of what is done is counted. -/
def Marks (c c' : Consumer β) (ms : List Mark) : Prop := c'.metered.marks = c.metered.marks ++ ms

namespace Marks

private theorem nothing (notes : c'.notes = c.notes) : Marks c c' [] := by
  rw [Marks, metered, notes, List.append_nil, metered]

/-- Only notes count. -/
private theorem congr (marks : Marks c c' ms) (notes : c''.notes = c'.notes) : Marks c c'' ms := by
  rw [Marks, metered, notes]
  exact marks

private theorem trans (first : Marks c c' ms) (second : Marks c' c'' ms') :
    Marks c c'' (ms ++ ms') := by
  rw [Marks, second, first, List.append_assoc]

private theorem log (c : Consumer β) (entry : LogEntry) : Marks c (c.log entry) [] := by
  rw [Marks, metered_log, List.append_nil]

private theorem logs {entries : List LogEntry} (noted : c'.notes = c.notes ++ entries.map .log) :
    Marks c c' [] := by
  rw [Marks, metered, noted, List.filterMap_append, List.append_nil, metered]
  refine congrArg Readings.marks (List.append_right_eq_self.mpr (List.filterMap_eq_nil_iff.mpr ?_))
  simp

private theorem meter (c : Consumer β) (m : Meter) : Marks c (c.meter m) m.mark?.toList := by
  rw [Marks, metered_meter, Readings.marks, List.filterMap_append, Readings.marks]
  cases m <;> rfl

private theorem report (c : Consumer β) (fault : Fault) :
    Marks c (c.report fault) [.reported fault.kind] := by
  unfold Consumer.report
  cases c.errors.push? fault with
  | some errors =>
    have queued : Marks c { c with errors } [] := .nothing rfl
    exact queued.trans (.meter _ (.errorReported fault.kind))
  | none => exact (Marks.log c _).trans (.meter _ (.errorDropped fault.kind))

theorem closed (c : Consumer β) (channel : Channel) (closure : Closure) :
    Marks c (c.closed channel closure) [.closure, .reported "channel_closed"] :=
  (Marks.log c _).trans ((Marks.meter _ .channelClosed).trans ((Marks.report _ _).congr rfl))

private theorem streamEnded (c : Consumer β) (channel : Channel) (resumeAt : Nat) :
    Marks c (c.streamEnded channel resumeAt) [.reported "stream_ended"] :=
  (Marks.log c _).trans ((Marks.report _ _).congr rfl)

private theorem leased (c : Consumer β) (now : Nat) (channel : Channel) :
    Marks c (c.leased now (.ok channel)) [.acquired true] :=
  (Marks.meter c (.channelAcquired true)).congr rfl

private theorem missed (c : Consumer β) (now : Nat) (fault : ChannelFault) :
    Marks c (c.leased now (.error fault)) [.acquired false, .reported "acquisition"] :=
  (Marks.meter c (.channelAcquired false)).trans
    ((Marks.log _ _).trans ((Marks.report _ _).congr rfl))

private theorem limited (c : Consumer β) (channel : Channel) (result : Except ChannelFault Unit) :
    Marks c (c.limited channel result)
      ((Deed.limiting c.settings channel result).filterMap Deed.mark?) := by
  have opening : Marks c { c with phase := .opening channel } [] := .nothing rfl
  rw [Deed.limiting_eq]
  unfold Consumer.limited
  cases result with
  | ok => cases c.settings.prefetch? <;> exact opening
  | error fault =>
    cases limit : c.settings.prefetch? with
    | none =>
      simp only [limit]
      exact opening
    | some prefetch =>
      simp only [limit]
      exact opening.trans ((Marks.log _ _).trans (.report _ _))

private theorem opened (c : Consumer β) (channel : Channel) :
    Marks c (c.opened channel (.ok ())) [] :=
  (Marks.log c _).congr rfl

private theorem refused (c : Consumer β) (channel : Channel) (fault : ChannelFault) :
    Marks c (c.opened channel (.error fault)) [.reported "stream_open"] :=
  (Marks.log c _).trans ((Marks.report _ _).congr rfl)

private theorem restored (c : Consumer β) (channel : Channel) (ending : Ending)
    (result : Except ChannelFault Unit) : Marks c (c.restored channel ending result) [] := by
  cases result with
  | ok => exact nothing rfl
  | error fault => exact (Marks.log c _).congr rfl

private theorem receive (c : Consumer β) (channel : Channel) (d : Delivery β) :
    Marks c (c.receive channel d) [] := by
  let tracked : Consumer β := { c with allowance := c.allowance.request.track }
  have reserved : Marks c tracked [] := .nothing rfl
  have counted : Marks c (tracked.meter .deliveryReceived) [] :=
    reserved.trans (.meter _ .deliveryReceived)
  exact (counted.trans (.meter _ (.inFlight tracked.inFlight))).trans
    ((Marks.log _ _).congr rfl)

end Marks

/-! ## The loop -/

/-- The launch of a loop, its end and the stop signals are not counted. -/
private theorem marks_of_deeds (stepped : c.step? e = some c') : (c.deeds e).filterMap Deed.mark? =
    (c.called e).filterMap Deed.mark? ++ (c.told c').filterMap Deed.mark? :=
  filterMap_deeds rfl rfl rfl stepped

/-- Leases are the only calls that are counted. -/
private theorem marks_called (notAcquiring : c.phase ≠ .acquiring) :
    (c.called e).filterMap Deed.mark? = [] := by
  unfold called
  split
  · split
    · exact absurd (phase_of_demand ‹_›) notAcquiring
    all_goals rfl
  · rfl

/-- A step that leases no channel counts what others learn from it. -/
private theorem Marks.goes (stepped : c.proceed? now answer = some c')
    (notAcquiring : c.phase ≠ .acquiring)
    (tells : Tells c c' ds) (marks : Marks c c' (ds.filterMap Deed.mark?)) :
    Marks c c' ((c.deeds (.proceed now answer)).filterMap Deed.mark?) := by
  have step : c.step? (.proceed now answer) = some c' := stepped
  rw [marks_of_deeds step, marks_called notAcquiring, tells.told_eq]
  exact marks

private theorem Advance.marks (advance : Advance c now answer c') :
    Marks c c' ((c.deeds (.proceed now answer)).filterMap Deed.mark?) := by
  have stepped := advance.proceed?_eq_some
  cases advance with
  | stopBeforeLease phase =>
    exact .goes stepped (by simp [phase]) ((Tells.log c rfl).congr rfl rfl)
      ((Marks.log c _).congr rfl)
  | seek phase => exact .goes stepped (by simp [phase]) (.nothing rfl rfl) (.nothing rfl)
  | @lease result phase =>
    have step : c.step? (.proceed now (.leased result)) = some (c.leased now result) := stepped
    rw [marks_of_deeds step]
    cases result with
    | ok channel =>
      rw [(Tells.leased c now channel).told_eq]
      simp only [called, demand, phase]
      exact .leased ..
    | error fault =>
      rw [(Tells.missed c now fault).told_eq]
      simp only [called, demand, phase]
      exact .missed ..
  | limit phase =>
    rw [deeds_of_limit phase]
    exact .limited ..
  | @subscribe channel result phase =>
    cases result with
    | ok => exact .goes stepped (by simp [phase]) (.opened ..) (.opened ..)
    | error fault => exact .goes stepped (by simp [phase]) (.refused ..) (.refused ..)
  | closure phase =>
    exact .goes stepped (by simp [phase]) (Tells.closed c.unreserve _ _)
      (Marks.closed c.unreserve _ _)
  | exhausted phase =>
    exact .goes stepped (by simp [phase]) ((Tells.log c rfl).congr rfl rfl)
      ((Marks.log c _).congr rfl)
  | receive phase => exact .goes stepped (by simp [phase]) (.receive ..) (.receive ..)
  | receiveLast phase =>
    exact .goes stepped (by simp [phase]) ((Tells.receive ..).congr rfl rfl)
      ((Marks.receive ..).congr rfl)
  | linger phase => exact .goes stepped (by simp [phase]) (.nothing rfl rfl) (.nothing rfl)
  | streamEnd phase =>
    let seen : Consumer β := { c with allowance := c.allowance.request }
    exact .goes stepped (by simp [phase]) (Tells.streamEnded seen.unreserve _ _)
      (Marks.streamEnded seen.unreserve _ _)
  | stop phase => exact .goes stepped (by simp [phase]) (.nothing rfl rfl) (.nothing rfl)
  | reserve phase => exact .goes stepped (by simp [phase]) (.nothing rfl rfl) (.nothing rfl)
  | lateClosure phase => exact .goes stepped (by simp [phase]) (.closed ..) (.closed ..)
  | unexplained phase =>
    exact .goes stepped (by simp [phase]) (.streamEnded ..) (.streamEnded ..)
  | outlasted phase =>
    exact .goes stepped (by simp [phase]) (.streamEnded ..) (.streamEnded ..)
  | restore phase => exact .goes stepped (by simp [phase]) (.restored ..) (.restored ..)
  | release phase => exact .goes stepped (by simp [phase]) (.nothing rfl rfl) (.nothing rfl)
  | resume phase => exact .goes stepped (by simp [phase]) (.nothing rfl rfl) (.nothing rfl)
  | drain phase =>
    unfold Consumer.drain at stepped ⊢
    split
    · next hurried =>
      rw [if_pos hurried] at stepped
      exact .goes stepped (by simp [phase]) (.nothing rfl rfl) (.nothing rfl)
    · next patient =>
      rw [if_neg patient] at stepped
      exact .goes stepped (by simp [phase]) ((Tells.log c rfl).congr rfl rfl)
        ((Marks.log c _).congr rfl)
  | empty phase => exact .goes stepped (by simp [phase]) (.nothing rfl rfl) (.nothing rfl)
  | park phase =>
    exact .goes stepped (by simp [phase]) ((Tells.log c rfl).congr rfl rfl)
      ((Marks.log c _).congr rfl)

/-! ## Events -/

/-- A consumer counts what it does. -/
theorem Orderly.marks (orderly : c.Orderly) (stepped : c.step? e = some c') :
    Marks c c' ((c.deeds e).filterMap Deed.mark?) := by
  cases e with
  | act a =>
    obtain ⟨entries, noted, _⟩ := orderly.logs stepped
    rw [marks_of_deeds stepped, orderly.told_act stepped]
    exact .logs noted
  | proceed now answer => exact (Advance.of_proceed? stepped).marks
  | forward number =>
    have hop := Hop.of_forward? stepped
    rw [marks_of_deeds stepped, hop.told]
    have arrives (messages : Queue (Message β)) : Marks c (c.arrived number messages) [] := by
      let sent : Consumer β := { c with
        messages, dispatches := c.dispatches.filter (·.number != number) }
      have left : Marks c sent [] := .nothing rfl
      have counted := left.trans (.meter sent .messageEnqueued)
      exact (counted.congr rfl).trans (.meter _ (.inFlight _))
    cases hop with
    | fill => exact arrives _
    | push => exact arrives _
    | await => exact .nothing rfl

end Consumer

end Intake
