import Intake.Channel
import Intake.Feed
import Intake.Json.Value

/-!
# A broker with one queue

Bodies that are published are delivered on the channel that receives at the moment, or stay ready
until there is one. A delivery stays outstanding on its channel until it is settled; when it is
sent back, or its channel closes, its body goes to the front of those that are ready and is marked
as delivered before. The next calls to lease a channel, or to receive, can be made to fail.
-/

namespace Intake

/-- How the receiver of a delivery settles it, alone or with all that came before it. -/
inductive Verdict where
  | ack (multiple : Bool)
  | nack (multiple requeue : Bool)
deriving DecidableEq, Repr

/-- The first tag that a verdict on a tag and all up to it is not about. Tags have 64 bits, so that
this is zero for the last of them. -/
def Verdict.bound (tag : Nat) : Nat := (tag + 1) % Nat.pow 2 64

/-- The settings of one call that asks for deliveries. -/
structure Subscription where
  queue : String
  name : String
  terms : Terms
  arguments : List (String × Json.Value)
deriving Repr, BEq, Inhabited

/-- A body that waits to be delivered. -/
structure Ready (β : Type) where
  body : β
  redelivered : Bool
deriving DecidableEq, Repr

/-- What a broker knows of one of its channels. -/
structure Lane (β : Type) where
  id : Nat
  isOpen : Bool
  /-- The closure, on its way to whom the channel was leased. -/
  notices : Feed Closure
  /-- The deliveries for whoever receives on the channel. A channel has one feed, that of the last
  call to receive: what an earlier call was sent and is not taken yet goes with its feed. -/
  deliveries : Feed (Delivery β)
  autoAck : Bool
  nextTag : Nat
  /-- The deliveries that are not settled: tags, in rising order, and bodies. -/
  outstanding : List (Nat × β)
  /-- The calls that set a prefetch limit; the truth value tells whether it is for all receivers. -/
  limits : List (Prefetch × Bool)
  subscriptions : List Subscription
  acked : List Nat
  nacked : List Nat
deriving Repr

structure Broker (β : Type) where
  /-- The name of the queue. -/
  queue : String
  /-- How many further calls to lease a channel fail. -/
  failLeases : Nat
  /-- How many further calls to receive fail. -/
  failSubscriptions : Nat
  /-- All channels ever leased, in order. -/
  lanes : List (Lane β)
  /-- The channel that receives. -/
  active : Option Nat
  ready : List (Ready β)
  /-- The channels given back, and whether something was wrong with them. -/
  released : List (Nat × Bool)
  /-- Calls to lease a channel. -/
  leases : Nat
  /-- Calls to receive that succeeded. -/
  subscribers : Nat
deriving Repr

namespace Lane

variable {β : Type}

def ofId (id : Nat) : Lane β where
  id := id
  isOpen := true
  notices := .fresh
  deliveries := .unused
  autoAck := false
  nextTag := 1
  outstanding := []
  limits := []
  subscriptions := []
  acked := []
  nacked := []

/-- Deliver a body, if the channel receives. -/
def deliver? (lane : Lane β) (r : Ready β) : Option (Lane β) :=
  (lane.deliveries.send? ⟨lane.nextTag, r.body, r.redelivered, "", ""⟩).map fun deliveries =>
    { lane with
      deliveries
      nextTag := lane.nextTag + 1
      outstanding :=
        if lane.autoAck then lane.outstanding else lane.outstanding ++ [(lane.nextTag, r.body)] }

/-- The channel receives no more. -/
def hangUp (lane : Lane β) : Lane β := { lane with deliveries := lane.deliveries.hangUp }

/-- Take out the delivery with a tag, or with `multiple` all below the bound of the tag: their
bodies in the order of their tags. -/
def takeOut (lane : Lane β) (tag : Nat) (multiple : Bool) :
    Except ChannelFault (List β × Lane β) :=
  let chosen (d : Nat × β) : Bool := if multiple then d.1 < Verdict.bound tag else d.1 == tag
  let taken := lane.outstanding.filter chosen
  if taken.isEmpty && !multiple then
    .error (.refused 406 ("PRECONDITION_FAILED - unknown delivery tag " ++ toString tag))
  else
    .ok (taken.map (·.2), { lane with outstanding := lane.outstanding.filter fun d => !chosen d })

/-- Settle deliveries: the bodies to send back, and the channel without what was settled. -/
def settle (lane : Lane β) (tag : Nat) (verdict : Verdict) :
    Except ChannelFault (List β × Lane β) :=
  if lane.isOpen then
    match verdict with
    | .ack multiple =>
      (lane.takeOut tag multiple).map fun (_, lane) =>
        ([], { lane with acked := lane.acked ++ [tag] })
    | .nack multiple requeue =>
      (lane.takeOut tag multiple).map fun (bodies, lane) =>
        (if requeue then bodies else [], { lane with nacked := lane.nacked ++ [tag] })
  else .error .closed

/-- Close the channel: the notice is sent, the deliveries end and nothing is outstanding. -/
def close (lane : Lane β) (closure : Closure) : Lane β :=
  { lane with
    isOpen := false
    notices := ((lane.notices.sendWithin? 1 closure).getD lane.notices).hangUp
    deliveries := lane.deliveries.hangUp
    outstanding := [] }

end Lane

namespace Broker

variable {β : Type}

def ofQueue (queue : String) : Broker β := ⟨queue, 0, 0, [], none, [], [], 0, 0⟩

def lane? (b : Broker β) (id : Nat) : Option (Lane β) := b.lanes.find? (·.id == id)

/-- Put a changed channel in the place of the one with its number. -/
def setLane (b : Broker β) (lane : Lane β) : Broker β :=
  { b with lanes := b.lanes.map fun other => if other.id = lane.id then lane else other }

/-- Change the channel with a number. -/
def withLane (b : Broker β) (id : Nat) (change : Lane β → Lane β) : Broker β :=
  match b.lane? id with
  | some lane => b.setLane (change lane)
  | none => b

/-- The channel with a number no longer receives what is published. -/
def retire (b : Broker β) (id : Nat) : Broker β :=
  if b.active = some id then { b with active := none } else b

/-- Deliver bodies on the active channel for as long as it receives; the rest is ready. -/
def deliverAll (b : Broker β) : List (Ready β) → Broker β
  | [] => b
  | r :: rest =>
    match b.active.bind b.lane? with
    | none => { b with ready := r :: rest }
    | some lane =>
      match lane.deliver? r with
      | some lane => deliverAll (b.setLane lane) rest
      | none => { b.setLane lane.hangUp with active := none, ready := r :: rest }

/-- Deliver what is ready. -/
def pump (b : Broker β) : Broker β := deliverAll { b with ready := [] } b.ready

/-- Put bodies that were delivered before in front of all that is ready. -/
def requeue (b : Broker β) (bodies : List β) : Broker β :=
  if bodies.isEmpty then b
  else pump { b with ready := bodies.map (⟨·, true⟩) ++ b.ready }

def publish (b : Broker β) (body : β) : Broker β :=
  pump { b with ready := b.ready ++ [⟨body, false⟩] }

/-! ## Calls of those who lease channels -/

/-- Lease a channel. Channels are numbered from one. -/
def lease (b : Broker β) : Except ChannelFault Channel × Broker β :=
  let b := { b with leases := b.leases + 1 }
  if 0 < b.failLeases then
    (.error (.unavailable "connection refused"), { b with failLeases := b.failLeases - 1 })
  else
    let id := b.lanes.length + 1
    (.ok ⟨id, id⟩, { b with lanes := b.lanes ++ [.ofId id] })

/-- Set a prefetch limit on a channel. The call is recorded even on a closed one. -/
def limit (b : Broker β) (id : Nat) (prefetch : Prefetch) (forAll : Bool) :
    Except ChannelFault Unit × Broker β :=
  match b.lane? id with
  | none => (.error .closed, b)
  | some lane =>
    (if lane.isOpen then .ok () else .error .closed,
      b.setLane { lane with limits := lane.limits ++ [(prefetch, forAll)] })

/-- Receive on a channel, which becomes the active one. The feed of deliveries starts anew, so that
a second call on a channel takes over from the first. -/
def subscribe (b : Broker β) (id : Nat) (s : Subscription) : Except ChannelFault Unit × Broker β :=
  if 0 < b.failSubscriptions then
    (.error (.refused 541 "INTERNAL_ERROR - consume refused"),
      { b with failSubscriptions := b.failSubscriptions - 1 })
  else if s.queue ≠ b.queue then
    (.error (.refused 404 ("NOT_FOUND - no queue '" ++ s.queue ++ "'")), b)
  else
    match b.lane? id with
    | none => (.error .closed, b)
    | some lane =>
      if lane.isOpen then
        let lane := { lane with
          subscriptions := lane.subscriptions ++ [s]
          autoAck := s.terms.autoAck
          deliveries := .fresh }
        let b := pump { b.setLane lane with active := some id }
        (.ok (), { b with subscribers := b.subscribers + 1 })
      else (.error .closed, b)

/-- Settle deliveries of a channel; those sent back are ready again. -/
def settle (b : Broker β) (id tag : Nat) (verdict : Verdict) :
    Except ChannelFault Unit × Broker β :=
  match b.lane? id with
  | none => (.error .closed, b)
  | some lane =>
    match lane.settle tag verdict with
    | .ok (bodies, lane) => (.ok (), (b.setLane lane).requeue bodies)
    | .error fault => (.error fault, b)

/-- Give a channel back; it receives no more. -/
def release (b : Broker β) (id : Nat) (errored : Bool) : Broker β :=
  (retire { b with released := b.released ++ [(id, errored)] } id).withLane id .hangUp

/-! ## What happens to channels -/

/-- Close an open channel and make its outstanding bodies ready again. -/
def close (b : Broker β) (id : Nat) (closure : Closure) : Broker β :=
  match b.lane? id with
  | none => b
  | some lane =>
    if lane.isOpen then
      ((b.setLane (lane.close closure)).retire id).requeue (lane.outstanding.map (·.2))
    else b

/-- Close the channel that receives; its number. -/
def closeActive (b : Broker β) (closure : Closure) : Option Nat × Broker β :=
  match b.active with
  | none => (none, b)
  | some id => (some id, b.close id closure)

/-- End the deliveries of the channel that receives but leave it open; its number. -/
def cancel (b : Broker β) : Option Nat × Broker β :=
  match b.active with
  | none => (none, b)
  | some id => (some id, withLane { b with active := none } id .hangUp)

end Broker

end Intake
