import Intake.Allowance
import Intake.Log
import Intake.Message
import Intake.Metrics
import Intake.Queue
import Intake.Settings.Document

/-!
# Consumers

A consumer keeps a channel leased, turns each delivery into a message and puts it on a queue for
the application; faults it recovers from go to a second queue. Its loop is a sequence of phases.
Each delivery is dispatched: it waits for room in the queue of messages on its own, so that a full
queue does not hold up the loop.
-/

namespace Intake

/-- How a lease came to its end. -/
inductive Ending where
  | stopped
  | closed
  /-- The deliveries ended; the next lease waits for the instant. -/
  | ended (resumeAt : Nat)
  /-- The broker did not let the consumer receive. -/
  | refused
deriving DecidableEq, Repr

/-- Where the loop of a consumer is. -/
inductive Phase where
  /-- There is no loop. -/
  | idle
  /-- About to lease a channel, unless a stop is pending. -/
  | checking
  | acquiring
  /-- About to set the consumer's own prefetch limit. -/
  | limiting (channel : Channel)
  | opening (channel : Channel)
  /-- Receiving; `watching` while the feed of closures is not exhausted. -/
  | streaming (channel : Channel) (watching : Bool)
  /-- The deliveries ended; a closure that explains it may still come until the instant. -/
  | lingering (channel : Channel) (resumeAt : Nat)
  /-- About to put the pool's prefetch limit back. -/
  | restoring (channel : Channel) (ending : Ending)
  | releasing (channel : Channel) (ending : Ending)
  /-- Waiting for an instant to begin again. The channel's closures are still listened to. -/
  | pausing (channel : Option Channel) (resumeAt : Nat)
  /-- A stop was seen. -/
  | draining
  /-- Waiting until no delivery is in flight. -/
  | emptying
  /-- About to report the end of the loop. -/
  | parking (immediate : Bool)
deriving DecidableEq, Repr

/-- A delivery on its own way to the queue of messages. The numbers of those under way rise in the
order they came. -/
structure Dispatch (β : Type) where
  number : Nat
  message : Message β
deriving DecidableEq, Repr

/-- What a consumer lets others know: readings and log entries. -/
inductive Note where
  | meter (m : Meter)
  | log (e : LogEntry)
deriving DecidableEq, Repr

structure Consumer (β : Type) where
  settings : ConsumerSettings
  pool : PoolSettings
  started : Bool
  stopRequested : Bool
  /-- The last stop did not want to wait for deliveries in flight. -/
  immediate : Bool
  /-- The receiving end of the stop signal is at rest: no loop has it. -/
  parked : Bool
  /-- The loop has not reported its end. -/
  running : Bool
  /-- A stop signal that nobody has taken yet. There is room for one. -/
  stopSignal : Bool
  phase : Phase
  allowance : Allowance
  /-- The deliveries that are not in the queue of messages yet, in the order they came. -/
  dispatches : List (Dispatch β)
  messages : Queue (Message β)
  errors : Queue Fault
  /-- What was noted and not collected yet, in order. -/
  notes : List Note
deriving Repr

/-- Why a consumer cannot be set up. -/
inductive SetupFault where
  | fault (f : Fault)
  /-- A queue would have more slots than there can be. -/
  | capacity
deriving DecidableEq, Repr

namespace Consumer

variable {β : Type}

/-- A stopped consumer. Both queues need room, and neither more than there can be. -/
def create (settings : ConsumerSettings) (pool : PoolSettings) : Except SetupFault (Consumer β) :=
  match settings.validate with
  | .error fault => .error (.fault fault)
  | .ok () =>
    if Allowance.mostPermits < settings.messageBuffer.toNat ∨
        Allowance.mostPermits < settings.errorBuffer.toNat then .error .capacity
    else .ok {
      settings
      pool
      started := false
      stopRequested := false
      immediate := false
      parked := true
      running := false
      stopSignal := false
      phase := .idle
      allowance := .ofLimit settings.inFlightLimit
      dispatches := []
      messages := .ofCapacity settings.messageBuffer.toNat
      errors := .ofCapacity settings.errorBuffer.toNat
      notes := [] }

/-- The number of deliveries in flight. -/
def inFlight (c : Consumer β) : Nat := c.allowance.inFlight

/-- The number of the next delivery that is dispatched: one more than the last, or zero when none
is under way. -/
def nextNumber (c : Consumer β) : Nat :=
  match c.dispatches.getLast? with
  | some d => d.number + 1
  | none => 0

def meter (c : Consumer β) (m : Meter) : Consumer β := { c with notes := c.notes ++ [.meter m] }

def log (c : Consumer β) (e : LogEntry) : Consumer β := { c with notes := c.notes ++ [.log e] }

/-- Put a fault on the queue of errors, or drop it if the queue is full. -/
def report (c : Consumer β) (fault : Fault) : Consumer β :=
  match c.errors.push? fault with
  | some errors => { c with errors }.meter (.errorReported fault.kind)
  | none => (c.log (.reportDropped c.settings.queue fault)).meter (.errorDropped fault.kind)

end Consumer

/-- Set up the consumer that a document names. -/
def Document.setUp {β : Type} (d : Document) (name : String) : Except SetupFault (Consumer β) :=
  match d.consumer? name with
  | some settings => Consumer.create settings d.pool
  | none => .error (.fault (.configuration ("no consumer named '" ++ name ++ "'")))

end Intake
