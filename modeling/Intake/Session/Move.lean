import Intake.Session.World

/-!
# Steps of a session and their replies

What one can do with consumers and their surroundings, and what comes back. Only a few steps bring
bodies and only a few replies show them, and those may be of any type.
-/

namespace Intake

/-- One thing to do that brings no body. Consumers, held messages, leased channels and waiting
readers are meant by their numbers, counted from zero. -/
inductive Move where
  -- time
  | settle
  | advance (ms : Nat)
  | stopped (ms : Nat)
  | waitSubscribers (n ms : Nat)
  | waitLeases (n ms : Nat)
  | waitItems (side : Side) (n ms : Nat)
  -- the life of the current consumer
  | use (i : Nat)
  | start
  | startTwice
  | stop (immediate : Bool)
  | flushStop
  | flush (side : Side)
  | empty
  | metrics
  -- its output queues
  | take (side : Side)
  | takeAll (side : Side)
  | wait (side : Side)
  | waited (k : Nat)
  | abort (k : Nat)
  -- messages that were returned
  | settleHeld (h : Nat) (tag : Option Nat) (verdict : Verdict)
  | describe (h : Nat)
  -- channels leased directly
  | lease
  | subscribe (host : Nat) (subscription : Subscription)
  | next (host : Nat)
  | dropStream (host : Nat)
  | notice (host : Nat)
  | limit (host : Nat) (prefetch : Prefetch) (forAll : Bool)
  | settleTag (host tag : Nat) (verdict : Verdict)
  | release (host : Nat) (errored : Bool)
  -- a broker
  | failLeases (n : Nat)
  | failSubscriptions (n : Nat)
  | close (closure : Closure)
  | closeLate (closure : Closure) (ms : Nat)
  | cancel
  | closeChannel (id : Nat) (closure : Closure)
  | channelIds
  | released
  | channel (id : Nat)
  -- a script
  | notify (id : Nat) (closure : Closure)
  | endNotices (id : Nat)
  | endDeliveries (id : Nat)
  | calls
deriving Repr

/-- One thing to do. -/
inductive Step (β : Type) where
  | move (m : Move)
  /-- Publish bodies to a broker. -/
  | publish (bodies : List β)
  /-- Let a delivery arrive on a scripted channel. -/
  | push (id : Nat) (d : Delivery β)
deriving Repr

/-- Why a step is not possible. -/
inductive Refusal where
  /-- There is no such step for this source. -/
  | step
  | consumer
  | held
  | waiter
  | host
deriving DecidableEq, Repr

/-- The word for a refusal. -/
def Refusal.word : Refusal → String
  | .step => "step"
  | .consumer => "consumer"
  | .held => "held"
  | .waiter => "waiter"
  | .host => "host"

/-- What a step replies without showing a body. -/
inductive Plain where
  | nothing
  | truth (b : Bool)
  | count (n : Nat)
  /-- One of a few fixed words. -/
  | word (w : String)
  | fault (f : Fault)
  | channelFault (f : ChannelFault)
  | truths (bs : List Bool)
  | starts (results : List (Option Fault))
  | closure (c : Closure)
  | ids (ids : List Nat)
  | releases (released : List (Nat × Bool))
  /-- What happened on a channel: limits, subscriptions, acknowledged, sent back, outstanding. -/
  | account (limits : List (Prefetch × Bool)) (subscriptions : List Subscription)
      (acked nacked outstanding : List Nat)
  | calls (calls : List Call)
  | samples (samples : List Sample)
  /-- So many items did not come in time. -/
  | timedOut (n : Nat)
  | refused (why : Refusal)
deriving Repr

/-- What a step replies. -/
inductive Reply (β : Type) where
  | plain (p : Plain)
  | item (item : Item β)
  | items (items : List (Item β))
  /-- A message as diagnostics show it. -/
  | description (m : Message β)
  | delivery (d : Delivery β)
deriving Repr

/-- The failure of waiting for `n` items. -/
def Plain.timedOutText (n : Nat) : String := "timed out waiting for " ++ toString n ++ " items"

/-! ## Bodies

What is shown can be carried over to another type of bodies. -/

def Delivery.map {β γ : Type} (f : β → γ) (d : Delivery β) : Delivery γ :=
  { d with body := f d.body }

def Message.map {β γ : Type} (f : β → γ) (m : Message β) : Message γ := { m with body := f m.body }

def Item.map {β γ : Type} (f : β → γ) : Item β → Item γ
  | .message m => .message (m.map f)
  | .fault cause => .fault cause

def Reply.map {β γ : Type} (f : β → γ) : Reply β → Reply γ
  | .plain p => .plain p
  | .item one => .item (one.map f)
  | .items several => .items (several.map (Item.map f))
  | .description m => .description (m.map f)
  | .delivery d => .delivery (d.map f)

end Intake
