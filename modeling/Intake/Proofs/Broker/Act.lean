import Intake.Broker

/-! # What is asked of a broker

Whoever publishes, leases channels and uses them, or upsets them, does so by one act after the
other. An act on a channel that the broker does not know changes nothing.
-/

namespace Intake

namespace Broker

variable {β : Type}

inductive Act (β : Type) where
  | publish (body : β)
  | lease
  | limit (id : Nat) (prefetch : Prefetch) (forAll : Bool)
  | subscribe (id : Nat) (s : Subscription)
  | settle (id tag : Nat) (verdict : Verdict)
  | release (id : Nat) (errored : Bool)
  | close (id : Nat) (closure : Closure)
  | closeActive (closure : Closure)
  | cancel
  | failLeases (count : Nat)
  | failSubscriptions (count : Nat)
  -- what the holder of the feeds of a channel does with them
  | take (id : Nat)
  | dropStream (id : Nat)
  | takeNotice (id : Nat)
  | dropNotices (id : Nat)

/-- A broker after an act. -/
def apply (b : Broker β) : Act β → Broker β
  | .publish body => b.publish body
  | .lease => b.lease.2
  | .limit id prefetch forAll => (b.limit id prefetch forAll).2
  | .subscribe id s => (b.subscribe id s).2
  | .settle id tag verdict => (b.settle id tag verdict).2
  | .release id errored => b.release id errored
  | .close id closure => b.close id closure
  | .closeActive closure => (b.closeActive closure).2
  | .cancel => b.cancel.2
  | .failLeases count => { b with failLeases := count }
  | .failSubscriptions count => { b with failSubscriptions := count }
  | .take id => b.withLane id fun lane => { lane with deliveries := lane.deliveries.drop }
  | .dropStream id => b.withLane id fun lane => { lane with deliveries := lane.deliveries.ignore }
  | .takeNotice id => b.withLane id fun lane => { lane with notices := lane.notices.drop }
  | .dropNotices id => b.withLane id fun lane => { lane with notices := lane.notices.ignore }

end Broker

end Intake
