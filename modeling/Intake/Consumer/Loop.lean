import Intake.Consumer.Basic
import Intake.Feed

/-!
# The loop of a consumer

A loop leases a channel, receives on it until the channel closes, the deliveries end or a stop is
seen, gives it back and begins again. Each step asks the source for one thing at most; what it asks
for is a function of the phase, and the answer decides the next phase.

While it receives, a closure counts before a delivery and a delivery before a stop. A delivery is
looked for only with a permit. After a delivery the stop signal is looked at once, so that a busy
queue cannot hold a stop up.
-/

namespace Intake

/-- What a loop asks its source for. -/
inductive Demand where
  | nothing
  | lease
  | limit (channel : Channel) (prefetch : Prefetch)
  | subscribe (channel : Channel)
  /-- To see what is on the feeds of a channel. -/
  | look (channel : Channel)
  | release (channel : Channel) (errored : Bool)
deriving DecidableEq, Repr

/-- What the source says. -/
inductive Answer (β : Type) where
  | nothing
  | leased (result : Except ChannelFault Channel)
  | done (result : Except ChannelFault Unit)
  | seen (notice : Glance Closure) (arrival : Glance (Delivery β))

/-- What a loop that receives does next. -/
inductive Choice (β : Type) where
  | closure (closure : Closure)
  | exhausted
  | delivery (d : Delivery β)
  | streamEnd
  | stop
  | wait
deriving DecidableEq, Repr

/-- Something was wrong with the channel when the lease ended. -/
def Ending.errored : Ending → Bool
  | .stopped => false
  | .closed | .ended _ | .refused => true

/-- The channel whose deliveries the loop holds the feed of. -/
def Phase.receiving? : Phase → Option Channel
  | .streaming channel _ | .lingering channel _ => some channel
  | _ => none

/-- The channel whose closures the loop listens to. -/
def Phase.listening? : Phase → Option Channel
  | .limiting channel | .opening channel | .streaming channel _ | .lingering channel _ |
    .restoring channel _ | .releasing channel _ => some channel
  | .pausing channel _ => channel
  | .idle | .checking | .acquiring | .draining | .emptying | .parking _ => none

/-- The instant the loop waits for. -/
def Phase.resumeAt? : Phase → Option Nat
  | .lingering _ resumeAt | .pausing _ resumeAt => some resumeAt
  | _ => none

namespace Consumer

variable {β : Type}

def demand (c : Consumer β) : Demand :=
  match c.phase with
  | .acquiring => .lease
  | .limiting channel =>
    match c.settings.prefetch? with
    | some prefetch => .limit channel prefetch
    | none => .nothing
  | .opening channel => .subscribe channel
  | .streaming channel _ | .lingering channel _ => .look channel
  | .restoring channel _ =>
    match c.pool.prefetch? with
    | some prefetch => .limit channel prefetch
    | none => .nothing
  | .releasing channel ending => .release channel ending.errored
  | .idle | .checking | .pausing _ _ | .draining | .emptying | .parking _ => .nothing

/-! ## Endings -/

/-- The lease is over: the pool's prefetch limit is put back, if there is one, before the channel
is released. -/
def leave (c : Consumer β) (channel : Channel) (ending : Ending) : Consumer β :=
  { c with phase :=
      if c.pool.prefetch?.isSome then .restoring channel ending else .releasing channel ending }

/-- The channel closed. -/
def closed (c : Consumer β) (channel : Channel) (closure : Closure) : Consumer β :=
  let c := c.log (.channelClosed c.settings.queue channel.id closure)
  ((c.meter .channelClosed).report (.channelClosed closure)).leave channel .closed

/-- The deliveries ended and nothing explains it. -/
def streamEnded (c : Consumer β) (channel : Channel) (resumeAt : Nat) : Consumer β :=
  let c := c.log (.streamEnded c.settings.queue channel.id)
  (c.report (.streamEnded c.settings.queue)).leave channel (.ended resumeAt)

/-! ## Receiving -/

/-- What a loop that receives does when it sees the feeds of its channel. -/
def choose (c : Consumer β) (watching : Bool) (notice : Glance Closure)
    (arrival : Glance (Delivery β)) : Choice β :=
  let rest : Choice β :=
    match c.allowance.request.reservation, arrival with
    | .held, .item d => .delivery d
    | .held, .over => .streamEnd
    | _, _ => if c.stopSignal then .stop else .wait
  match watching, notice with
  | true, .item closure => .closure closure
  | true, .over => .exhausted
  | _, _ => rest

/-- Take a stop signal. -/
def takeStop (c : Consumer β) (channel : Channel) : Consumer β :=
  { c with stopSignal := false, phase := .releasing channel .stopped }

/-- Give up the reservation of a permit. -/
def unreserve (c : Consumer β) : Consumer β := { c with allowance := c.allowance.cancel }

/-- Dispatch a delivery, which takes over the permit reserved for it. -/
def receive (c : Consumer β) (channel : Channel) (d : Delivery β) : Consumer β :=
  let c := { c with allowance := c.allowance.request.track }
  let c := (c.meter .deliveryReceived).meter (.inFlight c.inFlight)
  let c := c.log (.deliveryReceived channel.id d.tag)
  let message := Message.ofDelivery channel (!c.settings.autoAck) d
  { c with dispatches := c.dispatches ++ [⟨c.nextNumber, message⟩] }

/-- One step of a loop that receives; none if there is nothing to do. -/
def stream? (c : Consumer β) (now : Nat) (channel : Channel) (watching : Bool)
    (notice : Glance Closure) (arrival : Glance (Delivery β)) : Option (Consumer β) :=
  match c.choose watching notice arrival with
  | .closure closure => some (c.unreserve.closed channel closure)
  | .exhausted =>
    some ({ c.unreserve with phase := .streaming channel false }.log (.noticesExhausted channel.id))
  | .delivery d =>
    let c := c.receive channel d
    some (if c.stopSignal then c.takeStop channel else c)
  | .streamEnd =>
    let resumeAt := now + c.settings.idlePause.toNat
    let c := { c with allowance := c.allowance.request }.unreserve
    some (if watching then { c with phase := .lingering channel resumeAt }
      else c.streamEnded channel resumeAt)
  | .stop => some ({ c with allowance := c.allowance.request }.unreserve.takeStop channel)
  | .wait =>
    if c.allowance.reservation = .none then some { c with allowance := c.allowance.request }
    else none

/-- One step of a loop that waits for a closure to explain the end of the deliveries. -/
def linger? (c : Consumer β) (now : Nat) (channel : Channel) (resumeAt : Nat)
    (notice : Glance Closure) : Option (Consumer β) :=
  match notice with
  | .item closure => some (c.closed channel closure)
  | .over => some (c.streamEnded channel resumeAt)
  | .quiet => if resumeAt ≤ now then some (c.streamEnded channel resumeAt) else none

/-! ## The other phases -/

/-- Begin a lease, or wait after a failed attempt. -/
def leased (c : Consumer β) (now : Nat) : Except ChannelFault Channel → Consumer β
  | .ok channel =>
    { c with phase :=
        if c.settings.prefetch?.isSome then .limiting channel else .opening channel }.meter
      (.channelAcquired true)
  | .error fault =>
    let c := c.meter (.channelAcquired false)
    let pause := c.settings.errorPause.toNat
    let c := (c.log (.acquisitionFailed c.settings.queue fault pause)).report (.acquisition fault)
    { c with phase := .pausing none (now + pause) }

/-- The consumer's own prefetch limit is set, or could not be; either way it receives next. -/
def limited (c : Consumer β) (channel : Channel) (result : Except ChannelFault Unit) :
    Consumer β :=
  let c := { c with phase := .opening channel }
  match result, c.settings.prefetch? with
  | .error fault, some prefetch =>
    (c.log (.prefetchFailed channel.id fault)).report (.prefetch prefetch fault)
  | _, _ => c

/-- The consumer receives, or the broker refused. -/
def opened (c : Consumer β) (channel : Channel) : Except ChannelFault Unit → Consumer β
  | .ok () =>
    { c with phase := .streaming channel true }.log
      (.consuming c.settings.queue c.settings.name channel.id)
  | .error fault =>
    let c := c.log
      (.openingFailed c.settings.queue channel.id fault c.settings.errorPause.toNat)
    let c := c.report (.opening c.settings.queue fault)
    { c with phase := .releasing channel .refused }

/-- The pool's prefetch limit is back, or could not be put back. -/
def restored (c : Consumer β) (channel : Channel) (ending : Ending)
    (result : Except ChannelFault Unit) : Consumer β :=
  let c := { c with phase := .releasing channel ending }
  match result with
  | .ok () => c
  | .error fault => c.log (.restoreFailed channel.id fault)

/-- The channel is given back. -/
def released (c : Consumer β) (now : Nat) (channel : Channel) (ending : Ending) : Consumer β :=
  { c with phase :=
      match ending with
      | .stopped => .draining
      | .closed => .checking
      | .ended resumeAt => .pausing (some channel) resumeAt
      | .refused => .pausing (some channel) (now + c.settings.errorPause.toNat) }

/-- A stop was seen: wait for what is in flight, unless nobody wants to. -/
def drain (c : Consumer β) : Consumer β :=
  if c.immediate then { c with phase := .parking true }
  else { c with phase := .emptying }.log (.draining c.settings.queue c.inFlight)

/-- The loop ends. -/
def park (c : Consumer β) (immediate : Bool) : Consumer β :=
  { c with
    phase := .idle, parked := true, started := false, stopRequested := false, immediate := false
    running := false }.log (.stopped c.settings.queue c.settings.name immediate)

/-- One step of the loop at an instant, given what the source answers to its demand. None if the
loop has to wait, or if this is no answer to its demand. -/
def proceed? (c : Consumer β) (now : Nat) (answer : Answer β) : Option (Consumer β) :=
  match c.phase, answer with
  | .idle, _ => none
  | .checking, _ =>
    some (if c.stopSignal then
      { c with stopSignal := false, phase := .draining }.log
        (.stopWhileAcquiring c.settings.queue)
    else { c with phase := .acquiring })
  | .acquiring, .leased result => some (c.leased now result)
  | .limiting channel, .done result => some (c.limited channel result)
  | .opening channel, .done result => some (c.opened channel result)
  | .streaming channel watching, .seen notice arrival =>
    c.stream? now channel watching notice arrival
  | .lingering channel resumeAt, .seen notice _ => c.linger? now channel resumeAt notice
  | .restoring channel ending, .done result => some (c.restored channel ending result)
  | .releasing channel ending, .done _ => some (c.released now channel ending)
  | .pausing _ resumeAt, _ =>
    if resumeAt ≤ now then some { c with phase := .checking } else none
  | .draining, _ => some c.drain
  | .emptying, _ => if c.inFlight = 0 then some { c with phase := .parking false } else none
  | .parking immediate, _ => some (c.park immediate)
  | _, _ => none

/-- What a step takes off the feeds of the channel. -/
inductive Taken where
  | nothing
  | notice
  | arrival
deriving DecidableEq, Repr

/-- What the next step takes off the feeds it sees. -/
def takes (c : Consumer β) (answer : Answer β) : Taken :=
  match c.phase, answer with
  | .streaming _ watching, .seen notice arrival =>
    match c.choose watching notice arrival with
    | .closure _ => .notice
    | .delivery _ => .arrival
    | _ => .nothing
  | .lingering _ _, .seen (.item _) _ => .notice
  | _, _ => .nothing

end Consumer

end Intake
