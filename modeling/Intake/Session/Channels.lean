import Intake.Session.Basic

/-!
# Channels in a session

Messages that were returned are settled on the channels they came on. Channels can also be leased
directly and used without a consumer.
-/

namespace Intake

namespace Session

variable {β : Type}

/-- Settle a message that was returned, under its own tag or another one. -/
def settleHeld (s : Session β) (h : Nat) (tag : Option Nat) (verdict : Verdict) :
    Reply β × Session β :=
  match s.held[h]? with
  | none => s.answer (.refused .held)
  | some m =>
    let (result, source) := s.world.source.settle m.channel (tag.getD m.tag) verdict
    (s.setSource source).answer (.ofCall result)

/-- Show a message that was returned. -/
def describe (s : Session β) (h : Nat) : Reply β × Session β :=
  match s.held[h]? with
  | none => s.answer (.refused .held)
  | some m => s.reply (.description m)

/-- The number under which leases are asked for directly. -/
def direct (s : Session β) : Nat := s.world.consumers.length

/-- A direct lease is done. -/
def leased (s : Session β) : Except ChannelFault Channel → Reply β × Session β
  | .ok channel => { s with hosts := s.hosts ++ [channel] }.answer (.count channel.id)
  | .error fault => s.answer (.channelFault fault)

/-- Lease a channel directly. A lease that takes its time lets the clock move. -/
def lease (s : Session β) : Reply β × Session β :=
  match s.world.source.request s.world.now s.direct with
  | (some result, source) => (s.setSource source).leased result
  | (none, source) =>
    let due := (source.due? s.direct).getD s.world.now
    let w := { s.world with source }.passTo due
    match w.source.request w.now s.direct with
    | (some result, source) => (s.setWorld { w with source }).leased result
    | (none, _) => (s.setWorld w).answer .nothing

/-- What a look at the deliveries of a channel leased directly shows, and takes off. -/
def next (s : Session β) (host : Nat) : Reply β × Session β :=
  s.onHost host fun channel source =>
    let feed := source.deliveries channel
    if feed.listening then
      match feed.glance with
      | .item d => (.delivery d, source.withDeliveries channel Feed.drop)
      | .quiet => (.plain (.word "pending"), source)
      | .over => (.plain (.word "ended"), source)
    else (.plain (.word "no stream"), source)

/-- Give up the deliveries of a channel leased directly; whether there were to be any. -/
def dropStream (s : Session β) (host : Nat) : Reply β × Session β :=
  s.onHost host fun channel source =>
    (.plain (.truth (source.deliveries channel).listening),
      source.withDeliveries channel Feed.ignore)

/-- What a look at the closures of a channel leased directly shows, and takes off. -/
def notice (s : Session β) (host : Nat) : Reply β × Session β :=
  s.onHost host fun channel source =>
    match (source.notices channel).glance with
    | .item closure => (.plain (.closure closure), source.withNotices channel Feed.drop)
    | .quiet => (.plain (.word "pending"), source)
    | .over => (.plain (.word "ended"), source)

/-- A call on a channel leased directly. -/
def call (s : Session β) (host : Nat)
    (act : Channel → Source β → Except ChannelFault Unit × Source β) : Reply β × Session β :=
  s.onHost host fun channel source =>
    let (result, source) := act channel source
    (.plain (.ofCall result), source)

/-- End the deliveries of the active channel of a broker and close the channel later. -/
def closeLate (s : Session β) (closure : Closure) (ms : Nat) : Reply β × Session β :=
  match s.world.source with
  | .script _ => s.answer (.refused .step)
  | .broker b =>
    match b.cancel with
    | (none, b) => (s.setSource (.broker b)).answer .nothing
    | (some id, b) =>
      let late : LateClosure := ⟨id, closure, s.world.now + ms, false⟩
      (s.setWorld { s.world with
        source := .broker b, closures := s.world.closures ++ [late] }).answer (.count id)

end Session

/-- What a broker recorded of a channel; nothing for a channel it does not know. -/
def Broker.account {β : Type} (b : Broker β) (id : Nat) : Plain :=
  match b.lane? id with
  | none => .account [] [] [] [] []
  | some lane =>
    .account lane.limits lane.subscriptions lane.acked lane.nacked (lane.outstanding.map (·.1))

end Intake
