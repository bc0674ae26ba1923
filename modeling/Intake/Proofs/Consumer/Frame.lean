import Intake.Proofs.Consumer.Advance

/-! # What the steps of the loop leave alone

Most of what a loop does changes its phase, its reservation of a permit, the errors and the notes
only. `Control` is what says whether there is a loop and whether it should stop; `Load` is where
the deliveries are and how they were counted. `Turn` sorts the steps of the loop by what they make
of the two.
-/

namespace Intake

namespace Phase

/-- How far a loop is from its end. -/
inductive Stage where
  /-- There is no loop. -/
  | off
  | working
  /-- The loop has taken a stop signal and gives up what it holds. -/
  | leaving
deriving DecidableEq, Repr

def stage : Phase → Stage
  | .idle => .off
  | .restoring _ .stopped | .releasing _ .stopped | .draining | .emptying | .parking _ => .leaving
  | .checking | .acquiring | .limiting _ | .opening _ | .streaming _ _ | .lingering _ _ |
    .restoring _ _ | .releasing _ _ | .pausing _ _ => .working

@[simp] theorem stage_eq_off_iff {phase : Phase} : phase.stage = .off ↔ phase = .idle := by
  unfold stage
  split <;> simp

end Phase

namespace Allowance

@[simp] theorem inFlight_request (a : Allowance) : a.request.inFlight = a.inFlight := by
  unfold request
  split
  · split <;> rfl
  · rfl
  · rfl

@[simp] theorem inFlight_cancel (a : Allowance) : a.cancel.inFlight = a.inFlight := by
  unfold cancel
  split <;> rfl

@[simp] theorem inFlight_track (a : Allowance) : a.track.inFlight = a.inFlight + 1 := rfl

@[simp] theorem inFlight_finish (a : Allowance) : a.finish.inFlight = a.inFlight - 1 := by
  unfold finish
  split <;> rfl

end Allowance

namespace Readings

/-- How many deliveries were counted as received. -/
def received (readings : Readings) : Nat :=
  readings.count ("amqp_consumer_deliveries_received_total", "")

/-- How many messages were counted as put on the queue. -/
def enqueued (readings : Readings) : Nat :=
  readings.count ("amqp_consumer_messages_enqueued_total", "")

theorem received_concat (readings : Readings) (m : Meter) :
    received (readings ++ [m]) = received readings + if m = .deliveryReceived then 1 else 0 := by
  cases m <;> simp [received, count, Meter.counter?]

theorem enqueued_concat (readings : Readings) (m : Meter) :
    enqueued (readings ++ [m]) = enqueued readings + if m = .messageEnqueued then 1 else 0 := by
  cases m <;> simp [enqueued, count, Meter.counter?]

end Readings

/-- The flags of a consumer, and the stop signal on its way. -/
structure Control where
  started : Bool
  stopRequested : Bool
  immediate : Bool
  parked : Bool
  running : Bool
  stopSignal : Bool
deriving DecidableEq, Repr

/-- Where deliveries are, and how many were counted. -/
structure Load (β : Type) where
  dispatches : List (Dispatch β)
  messages : Queue (Message β)
  inFlight : Nat
  received : Nat
  enqueued : Nat

namespace Consumer

variable {β : Type} {c c' c'' : Consumer β} {now : Nat} {answer : Answer β}

def control (c : Consumer β) : Control :=
  ⟨c.started, c.stopRequested, c.immediate, c.parked, c.running, c.stopSignal⟩

def load (c : Consumer β) : Load β :=
  ⟨c.dispatches, c.messages, c.inFlight, c.metered.received, c.metered.enqueued⟩

@[simp] theorem receive_control (c : Consumer β) (channel : Channel) (d : Delivery β) :
    (c.receive channel d).control = c.control := rfl

@[simp] theorem takeStop_control (c : Consumer β) (channel : Channel) :
    (c.takeStop channel).control = { c.control with stopSignal := false } := rfl

@[simp] theorem metered_meter (c : Consumer β) (m : Meter) :
    (c.meter m).metered = c.metered ++ [m] := by
  simp [metered, meter]

@[simp] theorem metered_log (c : Consumer β) (e : LogEntry) : (c.log e).metered = c.metered := by
  simp [metered, log]

@[simp] theorem report_phase (c : Consumer β) (fault : Fault) :
    (c.report fault).phase = c.phase := by
  unfold report
  split <;> rfl

/-- Errors are put on the queue behind those that are there, and all else about it stays. -/
def Reports (c c' : Consumer β) : Prop :=
  ∃ more, c'.errors = { c.errors with items := c.errors.items ++ more }

namespace Reports

theorem nothing (same : c'.errors = c.errors) : Reports c c' :=
  ⟨[], by rw [same, List.append_nil]⟩

private theorem trans (first : Reports c c') (second : Reports c' c'') : Reports c c'' := by
  obtain ⟨more, earlier⟩ := first
  obtain ⟨more', later⟩ := second
  refine ⟨more ++ more', ?_⟩
  rw [later, earlier, List.append_assoc]

private theorem report (c : Consumer β) (fault : Fault) : Reports c (c.report fault) := by
  unfold Consumer.report
  cases pushed : c.errors.push? fault with
  | none => exact nothing rfl
  | some errors =>
    simp only [Queue.push?, Option.ite_none_right_eq_some, Option.some.injEq] at pushed
    exact ⟨[fault], pushed.2.symm⟩

end Reports

/-- The second consumer differs from the first in the phase of its loop, the reservation, the
errors and the notes at most, and counts as many deliveries. -/
structure Alike (c c' : Consumer β) : Prop where
  settings : c'.settings = c.settings
  pool : c'.pool = c.pool
  control : c'.control = c.control
  load : c'.load = c.load
  reports : Reports c c'

namespace Alike

theorem trans (first : Alike c c') (second : Alike c' c'') : Alike c c'' :=
  ⟨second.settings.trans first.settings, second.pool.trans first.pool,
    second.control.trans first.control, second.load.trans first.load,
    first.reports.trans second.reports⟩

theorem started (alike : Alike c c') : c'.started = c.started :=
  congrArg Control.started alike.control

theorem immediate (alike : Alike c c') : c'.immediate = c.immediate :=
  congrArg Control.immediate alike.control

theorem stopSignal (alike : Alike c c') : c'.stopSignal = c.stopSignal :=
  congrArg Control.stopSignal alike.control

theorem inFlight (alike : Alike c c') : c'.inFlight = c.inFlight :=
  congrArg Load.inFlight alike.load

theorem phase (c : Consumer β) (phase : Phase) : Alike c { c with phase } :=
  ⟨rfl, rfl, rfl, rfl, .nothing rfl⟩

theorem log (c : Consumer β) (e : LogEntry) : Alike c (c.log e) :=
  ⟨rfl, rfl, rfl, by simp only [Consumer.load, metered_log]; rfl, .nothing rfl⟩

private theorem meter (c : Consumer β) (m : Meter) (notReceived : m ≠ .deliveryReceived)
    (notEnqueued : m ≠ .messageEnqueued) : Alike c (c.meter m) := by
  refine ⟨rfl, rfl, rfl, ?_, .nothing rfl⟩
  simp only [Consumer.load, metered_meter, Readings.received_concat, Readings.enqueued_concat,
    if_neg notReceived, if_neg notEnqueued]
  rfl

theorem report (c : Consumer β) (fault : Fault) : Alike c (c.report fault) := by
  have reports := Reports.report c fault
  unfold Consumer.report at reports ⊢
  cases pushed : c.errors.push? fault with
  | some errors =>
    rw [pushed] at reports
    have queued : Alike c { c with errors } := ⟨rfl, rfl, rfl, rfl, reports⟩
    exact queued.trans (.meter _ (.errorReported _) nofun nofun)
  | none => exact (Alike.log c _).trans (.meter _ (.errorDropped _) nofun nofun)

theorem unreserve (c : Consumer β) : Alike c c.unreserve := by
  refine ⟨rfl, rfl, rfl, ?_, .nothing rfl⟩
  simp only [Consumer.load, Consumer.unreserve, Consumer.inFlight, Allowance.inFlight_cancel]
  rfl

theorem request (c : Consumer β) : Alike c { c with allowance := c.allowance.request } := by
  refine ⟨rfl, rfl, rfl, ?_, .nothing rfl⟩
  simp only [Consumer.load, Consumer.inFlight, Allowance.inFlight_request]
  rfl

private theorem leave (c : Consumer β) (channel : Channel) (ending : Ending) :
    Alike c (c.leave channel ending) := .phase c _

theorem closed (c : Consumer β) (channel : Channel) (closure : Closure) :
    Alike c (c.closed channel closure) :=
  ((Alike.log c _).trans (.meter _ .channelClosed nofun nofun)).trans
    ((Alike.report _ _).trans (.leave _ _ _))

theorem streamEnded (c : Consumer β) (channel : Channel) (resumeAt : Nat) :
    Alike c (c.streamEnded channel resumeAt) :=
  (Alike.log c _).trans ((Alike.report _ _).trans (.leave _ _ _))

theorem leased (c : Consumer β) (now : Nat) (result : Except ChannelFault Channel) :
    Alike c (c.leased now result) := by
  cases result with
  | ok channel => exact (Alike.phase c _).trans (.meter _ (.channelAcquired true) nofun nofun)
  | error fault =>
    exact (Alike.meter c (.channelAcquired false) nofun nofun).trans
      ((Alike.log _ _).trans ((Alike.report _ _).trans (.phase _ _)))

theorem limited (c : Consumer β) (channel : Channel) (result : Except ChannelFault Unit) :
    Alike c (c.limited channel result) := by
  unfold Consumer.limited
  cases result with
  | ok => exact .phase c _
  | error fault =>
    cases found : c.settings.prefetch? with
    | none =>
      simp only [found]
      exact .phase c _
    | some prefetch =>
      simp only [found]
      exact (Alike.phase c _).trans ((Alike.log _ _).trans (.report _ _))

theorem opened (c : Consumer β) (channel : Channel) (result : Except ChannelFault Unit) :
    Alike c (c.opened channel result) := by
  cases result with
  | ok => exact (Alike.phase c _).trans (.log _ _)
  | error fault => exact (Alike.log c _).trans ((Alike.report _ _).trans (.phase _ _))

theorem restored (c : Consumer β) (channel : Channel) (ending : Ending)
    (result : Except ChannelFault Unit) : Alike c (c.restored channel ending result) := by
  cases result with
  | ok => exact .phase c _
  | error fault => exact (Alike.phase c _).trans (.log _ _)

theorem released (c : Consumer β) (now : Nat) (channel : Channel) (ending : Ending) :
    Alike c (c.released now channel ending) := .phase c _

end Alike

end Consumer

end Intake
