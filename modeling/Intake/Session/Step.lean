import Intake.Session.Channels
import Intake.Session.Output

/-!
# One step of a session

Steps that are not possible change nothing and say why.
-/

namespace Intake

namespace Session

variable {β : Type}

/-- Two starts at once: they are served one after the other. -/
def startTwice (c : Consumer β) : Plain × Consumer β :=
  let (first, c) := c.start
  let (second, c) := c.start
  let failure : Except Fault Unit → Option Fault
    | .ok () => none
    | .error fault => some fault
  (.starts [failure first, failure second], c)

/-- Wait until a consumer has stopped. -/
def waitStopped (s : Session β) (ms : Nat) : Reply β × Session β :=
  s.withConsumer fun _ => s.waitFor ms fun w =>
    match w.consumers[s.current]? with
    | some c => !c.running
    | none => false

/-- Wait until something holds of the broker. -/
def waitBroker (s : Session β) (ms : Nat) (holds : Broker β → Bool) : Reply β × Session β :=
  match s.world.source with
  | .script _ => s.answer (.refused .step)
  | .broker _ => s.waitFor ms fun w =>
    match w.source with
    | .broker b => holds b
    | .script _ => false

/-- Make another consumer the current one. -/
def use (s : Session β) (i : Nat) : Reply β × Session β :=
  let s := { s with current := i }
  s.answer (if s.consumer?.isSome then .nothing else .refused .consumer)

/-- A step that brings no body. -/
def move (s : Session β) : Move → Reply β × Session β
  | .settle => (s.setWorld s.world.settle).answer .nothing
  | .advance ms => (s.setWorld (s.world.advance ms)).answer .nothing
  | .stopped ms => s.waitStopped ms
  | .waitSubscribers n ms => s.waitBroker ms fun b => n ≤ b.subscribers
  | .waitLeases n ms => s.waitBroker ms fun b => n ≤ b.leases
  | .waitItems side n ms => s.waitItems side n ms
  | .use i => s.use i
  | .start => s.onConsumer fun c => c.start.map .ofChange id
  | .startTwice => s.onConsumer startTwice
  | .stop immediate => s.onConsumer fun c => (c.stop immediate).map .ofChange id
  | .flushStop => s.onConsumer fun c => (.nothing, c.flushStop)
  | .flush side => s.onConsumer fun c => (c.flush side).map .count id
  | .empty => s.onConsumer fun c => (.truths [c.messages.isEmpty, c.errors.isEmpty], c)
  | .metrics => s.onConsumer fun c => (.samples (s.world.readingsOf c.labels).samples, c)
  | .take side => s.take side
  | .takeAll side => s.takeAll side
  | .wait side => s.wait side
  | .waited k => s.waited k
  | .abort k => s.abort k
  | .settleHeld h tag verdict => s.settleHeld h tag verdict
  | .describe h => s.describe h
  | .lease => s.lease
  | .subscribe host subscription => s.call host fun channel source =>
      source.subscribe channel subscription
  | .next host => s.next host
  | .dropStream host => s.dropStream host
  | .notice host => s.notice host
  | .limit host prefetch forAll => s.call host fun channel source =>
      source.limit channel prefetch forAll
  | .settleTag host tag verdict => s.call host fun channel source =>
      source.settle channel tag verdict
  | .release host errored => s.onHost host fun channel source =>
      (.plain .nothing, source.release channel errored)
  | .failLeases n => s.onBroker fun b => (.nothing, { b with failLeases := n })
  | .failSubscriptions n => s.onBroker fun b => (.nothing, { b with failSubscriptions := n })
  | .close closure => s.onBroker fun b => (b.closeActive closure).map .ofId id
  | .closeLate closure ms => s.closeLate closure ms
  | .cancel => s.onBroker fun b => b.cancel.map .ofId id
  | .closeChannel channel closure => s.onBroker fun b => (.nothing, b.close channel closure)
  | .channelIds => s.onBroker fun b => (.ids (b.lanes.map (·.id)), b)
  | .released => s.onBroker fun b => (.releases b.released, b)
  | .channel channel => s.onBroker fun b => (b.account channel, b)
  | .notify channel closure => s.onScript fun script =>
      (script.notify channel closure).map .truth id
  | .endNotices channel => s.onScript fun script => (script.endNotices channel).map .truth id
  | .endDeliveries channel => s.onScript fun script =>
      (script.endDeliveries channel).map .truth id
  | .calls => s.onScript fun script => (.calls script.calls.reverse, { script with calls := [] })

/-- One step. -/
def step (s : Session β) : Step β → Reply β × Session β
  | .move m => s.move m
  | .publish bodies => s.onBroker fun b => (.nothing, bodies.foldl Broker.publish b)
  | .push channel d => s.onScript fun script => (script.push channel d).map .truth id

end Session

end Intake
