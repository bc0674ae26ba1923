import Intake.Script

/-!
# Sources of channels

A consumer leases its channels from a source and knows nothing else of it. Here a source is a
broker or a script.
-/

namespace Intake

inductive Source (β : Type) where
  | broker (b : Broker β)
  | script (s : Script β)
deriving Repr

namespace Source

variable {β : Type}

/-- Ask for a lease at an instant: what it yields, or nothing while it takes its time. `who` asks
again until there is an answer. -/
def request (source : Source β) (now who : Nat) :
    Option (Except ChannelFault Channel) × Source β :=
  match source with
  | broker b =>
    let (result, b) := b.lease
    (some result, broker b)
  | script s =>
    let (result, s) := s.request now who
    (result, script s)

def limit (source : Source β) (channel : Channel) (prefetch : Prefetch) (forAll : Bool) :
    Except ChannelFault Unit × Source β :=
  match source with
  | broker b => (b.limit channel.id prefetch forAll).map id broker
  | script s => (s.limit channel prefetch forAll).map id script

def subscribe (source : Source β) (channel : Channel) (subscription : Subscription) :
    Except ChannelFault Unit × Source β :=
  match source with
  | broker b => (b.subscribe channel.id subscription).map id broker
  | script s => (s.subscribe channel subscription).map id script

def settle (source : Source β) (channel : Channel) (tag : Nat) (verdict : Verdict) :
    Except ChannelFault Unit × Source β :=
  match source with
  | broker b => (b.settle channel.id tag verdict).map id broker
  | script s => (s.settle channel tag verdict).map id script

def release (source : Source β) (channel : Channel) (errored : Bool) : Source β :=
  match source with
  | broker b => broker (b.release channel.id errored)
  | script s => script (s.release channel errored)

/-! ## The feeds of a channel -/

/-- The feed of closures of a channel. -/
def notices (source : Source β) (channel : Channel) : Feed Closure :=
  match source with
  | broker b => ((b.lane? channel.id).map (·.notices)).getD .unused
  | script s => ((s.scene? channel.lease).map (·.notices)).getD .unused

/-- The feed of deliveries of a channel. -/
def deliveries (source : Source β) (channel : Channel) : Feed (Delivery β) :=
  match source with
  | broker b => ((b.lane? channel.id).map (·.deliveries)).getD .unused
  | script s => ((s.scene? channel.lease).map (·.deliveries)).getD .unused

/-- Change the feed of closures of a channel. -/
def withNotices (source : Source β) (channel : Channel) (change : Feed Closure → Feed Closure) :
    Source β :=
  match source with
  | broker b =>
    broker (b.withLane channel.id fun lane => { lane with notices := change lane.notices })
  | script s => script (s.withScene channel.lease fun scene =>
      { scene with notices := change scene.notices })

/-- Change the feed of deliveries of a channel. -/
def withDeliveries (source : Source β) (channel : Channel)
    (change : Feed (Delivery β) → Feed (Delivery β)) : Source β :=
  match source with
  | broker b => broker (b.withLane channel.id fun lane =>
      { lane with deliveries := change lane.deliveries })
  | script s => script (s.withScene channel.lease fun scene =>
      { scene with deliveries := change scene.deliveries })

/-- The instant at which a lease that `who` asked for is done, while it takes its time. -/
def due? (source : Source β) (who : Nat) : Option Nat :=
  match source with
  | broker _ => none
  | script s => (s.pending.find? (·.who == who)).map (·.due)

/-- The instants at which a lease that takes its time is done. -/
def dueTimes : Source β → List Nat
  | broker _ => []
  | script s => s.pending.map (·.due)

end Source

end Intake
