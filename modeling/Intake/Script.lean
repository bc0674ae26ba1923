import Intake.Broker

/-!
# Scripted channels

Channels that behave as a script says: each lease follows the next plan, calls are recorded, and
what arrives on a channel is sent to it from outside. A channel is addressed by its number; of two
leases of one number the later one is meant.
-/

namespace Intake

/-- What happens to one lease. -/
structure Plan (β : Type) where
  /-- How many milliseconds the lease takes. -/
  delay : Nat
  /-- The lease fails. -/
  fault : Option ChannelFault
  id : Nat
  /-- The answers to the calls that set a prefetch limit; later calls succeed. -/
  limits : List (Option ChannelFault)
  /-- The first call to receive fails. -/
  refusal : Option ChannelFault
  /-- What arrives as soon as the channel receives. -/
  deliveries : List (Delivery β)
  /-- Nothing else arrives. -/
  ends : Bool
  /-- The closures that are on their way from the start. -/
  closures : List Closure
  /-- No other closure will come. -/
  silent : Bool
deriving Repr

/-- A call as it is recorded, with the number of its channel. -/
inductive Call where
  | lease (id : Option Nat)
  | limit (id : Nat) (prefetch : Prefetch) (forAll : Bool)
  | subscribe (id : Nat) (s : Subscription)
  | settle (id tag : Nat) (verdict : Verdict)
  | release (id : Nat) (errored : Bool)
deriving Repr

/-- A lease that succeeded, and what is left of its plan. -/
structure Scene (β : Type) where
  channel : Channel
  limits : List (Option ChannelFault)
  refusal : Option ChannelFault
  /-- What arrives as soon as the channel receives, and whether that is all. -/
  script : List (Delivery β)
  ends : Bool
  notices : Feed Closure
  deliveries : Feed (Delivery β)
deriving Repr

/-- A lease that takes its time: who asked for it, when it is done and its plan. -/
structure Pending (β : Type) where
  who : Nat
  due : Nat
  plan : Plan β
deriving Repr

structure Script (β : Type) where
  plans : List (Plan β)
  /-- Channels that are given back are recorded. -/
  recordsRelease : Bool
  scenes : List (Scene β)
  pending : List (Pending β)
  /-- The calls since they were last asked for, the last first. -/
  calls : List Call
deriving Repr

/-- How many closures can be on their way at once. -/
def Script.noticeRoom : Nat := 4

/-- The feed of closures a lease starts with. -/
def Plan.notices {β : Type} (plan : Plan β) : Feed Closure :=
  ⟨plan.closures.take Script.noticeRoom, !plan.silent, true⟩

/-- Nothing more is sent on the channel. -/
def Scene.hangUp {β : Type} (scene : Scene β) : Scene β :=
  { scene with notices := scene.notices.hangUp, deliveries := scene.deliveries.hangUp }

namespace Script

variable {β : Type}

def ofPlans (plans : List (Plan β)) (recordsRelease : Bool) : Script β :=
  ⟨plans, recordsRelease, [], [], []⟩

def record (s : Script β) (call : Call) : Script β := { s with calls := call :: s.calls }

def scene? (s : Script β) (lease : Nat) : Option (Scene β) :=
  s.scenes.find? (·.channel.lease == lease)

/-- Change the lease with a serial number. -/
def withScene (s : Script β) (lease : Nat) (change : Scene β → Scene β) : Script β :=
  { s with scenes := s.scenes.map fun scene =>
      if scene.channel.lease = lease then change scene else scene }

/-! ## Leases -/

/-- Carry out a plan: what the lease yields. Nothing more is sent to older leases of the number. -/
def carryOut (s : Script β) (plan : Plan β) : Except ChannelFault Channel × Script β :=
  match plan.fault with
  | some fault => (.error fault, s.record (.lease none))
  | none =>
    let channel : Channel := ⟨plan.id, s.scenes.length⟩
    let older := s.scenes.map fun scene =>
      if scene.channel.id = plan.id then scene.hangUp else scene
    let scene : Scene β :=
      ⟨channel, plan.limits, plan.refusal, plan.deliveries, plan.ends, plan.notices, .unused⟩
    (.ok channel, { s with scenes := older ++ [scene] }.record (.lease (some plan.id)))

/-- Ask for a lease at an instant: what it yields, or nothing while it takes its time. `who` asks
again until there is an answer. -/
def request (s : Script β) (now who : Nat) : Option (Except ChannelFault Channel) × Script β :=
  match s.pending.find? (·.who == who) with
  | some p =>
    if p.due ≤ now then
      let (result, s) :=
        carryOut { s with pending := s.pending.filter fun other => other.who != who } p.plan
      (some result, s)
    else (none, s)
  | none =>
    match s.plans with
    | [] => (some (.error (.unavailable "script exhausted")), s.record (.lease none))
    | plan :: plans =>
      let s := { s with plans }
      if plan.delay = 0 then
        let (result, s) := s.carryOut plan
        (some result, s)
      else (none, { s with pending := s.pending ++ [⟨who, now + plan.delay, plan⟩] })

/-! ## Calls on channels -/

def limit (s : Script β) (channel : Channel) (prefetch : Prefetch) (forAll : Bool) :
    Except ChannelFault Unit × Script β :=
  let answer := (s.scene? channel.lease).bind fun scene => scene.limits.head?.join
  let s := s.record (.limit channel.id prefetch forAll)
  (match answer with
    | some fault => .error fault
    | none => .ok (),
   s.withScene channel.lease fun scene => { scene with limits := scene.limits.tail })

/-- Receive on a channel. -/
def subscribe (s : Script β) (channel : Channel) (subscription : Subscription) :
    Except ChannelFault Unit × Script β :=
  let s := s.record (.subscribe channel.id subscription)
  match s.scene? channel.lease with
  | none => (.error .closed, s)
  | some scene =>
    match scene.refusal with
    | some fault =>
      (.error fault, s.withScene channel.lease fun scene => { scene with refusal := none })
    | none =>
      (.ok (), s.withScene channel.lease fun scene =>
        { scene with script := [], deliveries := ⟨scene.script, !scene.ends, true⟩ })

/-- Settling is recorded and always succeeds. -/
def settle (s : Script β) (channel : Channel) (tag : Nat) (verdict : Verdict) :
    Except ChannelFault Unit × Script β :=
  (.ok (), s.record (.settle channel.id tag verdict))

def release (s : Script β) (channel : Channel) (errored : Bool) : Script β :=
  if s.recordsRelease then s.record (.release channel.id errored) else s

/-! ## From outside -/

/-- The lease of a channel number to which deliveries can be sent. -/
def receiver? (s : Script β) (id : Nat) : Option (Scene β) :=
  s.scenes.find? fun scene => scene.channel.id == id && scene.deliveries.sending

/-- The lease of a channel number to which closures can be sent. -/
def notified? (s : Script β) (id : Nat) : Option (Scene β) :=
  s.scenes.find? fun scene => scene.channel.id == id && scene.notices.sending

/-- Let a delivery arrive on a channel; whether it did. -/
def push (s : Script β) (id : Nat) (d : Delivery β) : Bool × Script β :=
  match s.receiver? id with
  | none => (false, s)
  | some scene =>
    match scene.deliveries.send? d with
    | none => (false, s)
    | some deliveries =>
      (true, s.withScene scene.channel.lease fun scene => { scene with deliveries })

/-- Let a closure arrive on a channel; whether it did. -/
def notify (s : Script β) (id : Nat) (closure : Closure) : Bool × Script β :=
  match s.notified? id with
  | none => (false, s)
  | some scene =>
    match scene.notices.sendWithin? noticeRoom closure with
    | none => (false, s)
    | some notices => (true, s.withScene scene.channel.lease fun scene => { scene with notices })

/-- No further delivery will arrive on a channel; whether one could have. -/
def endDeliveries (s : Script β) (id : Nat) : Bool × Script β :=
  match s.receiver? id with
  | none => (false, s)
  | some scene =>
    (true, s.withScene scene.channel.lease fun scene =>
      { scene with deliveries := scene.deliveries.hangUp })

/-- No further closure will arrive on a channel; whether one could have. -/
def endNotices (s : Script β) (id : Nat) : Bool × Script β :=
  match s.notified? id with
  | none => (false, s)
  | some scene =>
    (true, s.withScene scene.channel.lease fun scene =>
      { scene with notices := scene.notices.hangUp })

end Script

end Intake
