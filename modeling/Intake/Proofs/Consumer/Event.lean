import Intake.Proofs.Queue
import Intake.Proofs.Replay
import Intake.Session.World

/-! # Histories of a consumer

Whoever holds a consumer may use it at any time; in between, its loop, its dispatched deliveries
and those who read its output queues go on in any order. Each call looks at the consumer and
changes it in one go, so calls from several places are one sequence of events. The source of
channels is not fixed: an event of the loop brings the instant and the answer with it.
-/

namespace Intake

namespace Consumer

variable {β : Type}

/-- What is done with a consumer from outside. -/
inductive Act where
  | start
  | stop (immediate : Bool)
  | flushStop
  /-- Use an output queue. -/
  | use (side : Side) (u : Queue.Use)
deriving DecidableEq, Repr

inductive Event (β : Type) where
  | act (a : Act)
  /-- The loop goes on at an instant, given an answer of its source. -/
  | proceed (now : Nat) (answer : Answer β)
  /-- A dispatched delivery goes on. -/
  | forward (number : Nat)

def perform (c : Consumer β) : Act → Consumer β
  | .start => c.start.2
  | .stop immediate => (c.stop immediate).2
  | .flushStop => c.flushStop
  | .use side .flush => (c.flush side).2
  | .use side .take => ((c.take? side).map (·.2)).getD c
  | .use side (.enter reader) => c.enter side reader
  | .use side (.read reader) => ((c.read? side reader).map (·.2)).getD c
  | .use side (.quit reader) => c.quit side reader

/-- A consumer after an event. None if the loop, or the delivery, has to wait. -/
def step? (c : Consumer β) : Event β → Option (Consumer β)
  | .act a => some (c.perform a)
  | .proceed now answer => c.proceed? now answer
  | .forward number => c.forward? number

/-! ## What an event brings about -/

/-- The delivery that the loop takes, and the channel it takes it from. -/
def taken (c : Consumer β) : Event β → List (Channel × Delivery β)
  | .proceed _ (.seen notice (.item d)) =>
    if c.takes (.seen notice (.item d)) = .arrival then
      (c.phase.receiving?.map fun channel => (channel, d)).toList
    else []
  | _ => []

/-- The messages that are put on the queue, behind those that are there. -/
def enqueued (c : Consumer β) : Event β → List (Message β)
  | .forward number =>
    ((c.forward? number).map fun next =>
      next.messages.items.drop c.messages.items.length).getD []
  | _ => []

/-- The messages that are handed out to readers. -/
def returned (c : Consumer β) : Event β → List (Message β)
  | .act (.use .messages u) => c.messages.handed u
  | _ => []

/-- The messages that are discarded. -/
def flushed (c : Consumer β) : Event β → List (Message β)
  | .act (.use .messages u) => c.messages.discarded u
  | _ => []

@[simp] theorem taken_act (c : Consumer β) (a : Act) : c.taken (.act a) = [] := rfl

@[simp] theorem taken_forward (c : Consumer β) (number : Nat) : c.taken (.forward number) = [] :=
  rfl

@[simp] theorem enqueued_act (c : Consumer β) (a : Act) : c.enqueued (.act a) = [] := rfl

theorem create_eq_ok {c : Consumer β} {settings : ConsumerSettings} {pool : PoolSettings}
    (created : create settings pool = .ok c) : c = {
      settings, pool, started := false, stopRequested := false, immediate := false, parked := true
      running := false, stopSignal := false, phase := .idle
      allowance := .ofLimit settings.inFlightLimit, dispatches := []
      messages := .ofCapacity settings.messageBuffer.toNat
      errors := .ofCapacity settings.errorBuffer.toNat, notes := [] } := by
  unfold create at created
  split at created
  · cases created
  · split at created
    · cases created
    · exact (Except.ok.inj created).symm

/-- The loop asks for a lease in one phase only. -/
theorem phase_of_demand {c : Consumer β} (demand : c.demand = .lease) : c.phase = .acquiring := by
  unfold Consumer.demand at demand
  split at demand
  case h_1 phase => exact phase
  all_goals first | cases demand | (split at demand <;> cases demand)

/-! ## The output queues -/

/-- Whoever uses the queue of messages changes nothing else. -/
theorem perform_use_messages (c : Consumer β) (u : Queue.Use) :
    c.perform (.use .messages u) = { c with messages := c.messages.use u } := by
  cases u with
  | flush => rfl
  | take =>
    simp only [perform, take?, Queue.use]
    cases c.messages.take? <;> rfl
  | enter reader => rfl
  | read reader =>
    simp only [perform, read?, Queue.use]
    cases c.messages.read? reader <;> rfl
  | quit reader => rfl

/-- Whoever uses the queue of errors changes nothing else. -/
theorem perform_use_errors (c : Consumer β) (u : Queue.Use) :
    c.perform (.use .errors u) = { c with errors := c.errors.use u } := by
  cases u with
  | flush => rfl
  | take =>
    simp only [perform, take?, Queue.use]
    cases c.errors.take? <;> rfl
  | enter reader => rfl
  | read reader =>
    simp only [perform, read?, Queue.use]
    cases c.errors.read? reader <;> rfl
  | quit reader => rfl

end Consumer

end Intake
