import Intake.Consumer.Basic

/-!
# Starting and stopping a consumer

Only a stopped consumer can be started and only a started one stopped. A stop is a request: the
loop takes the signal when it comes to it and reports its own end. Signals and errors left over
from earlier are cleared by a start.
-/

namespace Intake

namespace Consumer

variable {β : Type}

/-- Discard the errors that are queued; how many there were. -/
def flushErrors (c : Consumer β) : Nat × Consumer β :=
  let (count, errors) := c.errors.flush
  (count, { c with errors })

/-- Discard the messages that are queued; how many there were. -/
def flushMessages (c : Consumer β) : Nat × Consumer β :=
  let (count, messages) := c.messages.flush
  (count, { c with messages })

/-- Start the loop. -/
def start (c : Consumer β) : Except Fault Unit × Consumer β :=
  if c.started then (.error .alreadyStarted, c)
  else
    let (count, c) := c.flushErrors
    if c.parked then
      let c := c.log (.starting c.settings.queue c.settings.name count)
      (.ok (), { c with
        parked := false, stopSignal := false, phase := .checking, started := true, running := true })
    else (.error .alreadyStarted, c)

/-- The stop signal has a receiver: at rest, or in the loop. -/
def hasReceiver (c : Consumer β) : Bool := c.parked || c.phase != .idle

/-- Ask the loop to stop; `immediate` says not to wait for deliveries in flight. -/
def stop (c : Consumer β) (immediate : Bool) : Except Fault Unit × Consumer β :=
  if c.started then
    let c := { c with immediate, stopRequested := true }
    if !c.hasReceiver then (.ok (), c)
    else if c.stopSignal then (.ok (), c.log .stopPending)
    else (.ok (), { c with stopSignal := true }.log (.stopRequested c.settings.queue immediate))
  else (.error .notStarted, c)

/-- Drop a stop signal that no loop can take. -/
def flushStop (c : Consumer β) : Consumer β :=
  if c.parked then { c with stopSignal := false } else c

end Consumer

end Intake
