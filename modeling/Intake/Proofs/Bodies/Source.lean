import Intake.Session.Move
import Mathlib.Data.Option.Basic
import Mathlib.Tactic.Simps.Basic

/-! # Sources with other bodies

A broker or a script handles bodies and never looks into them. So whatever is done to a source with
other bodies in the place of its own comes to the same, with the other bodies in their place: every
operation commutes with `Source.map`.
-/

namespace Intake

variable {β γ : Type}

/-! ## Feeds -/

def Glance.map {α α' : Type} (g : α → α') : Glance α → Glance α'
  | .item a => .item (g a)
  | .quiet => .quiet
  | .over => .over

namespace Feed

variable {α α' : Type} (g : α → α') (feed : Feed α)

@[simps] def map : Feed α' := { feed with items := feed.items.map g }

private theorem map_send? (a : α) : (feed.map g).send? (g a) = (feed.send? a).map (Feed.map g) := by
  unfold send?
  rw [map_sending, map_listening]
  split
  · simp only [Option.map_some, map, List.map_append, List.map_cons, List.map_nil]
  · rfl

theorem map_glance : (feed.map g).glance = feed.glance.map g := by
  unfold glance
  rw [map_items, map_sending]
  cases feed.items with
  | nil => exact (apply_ite (Glance.map g) (feed.sending = true) .quiet .over).symm
  | cons a rest => rfl

theorem map_drop : (feed.map g).drop = feed.drop.map g := by
  simp only [drop, map, List.map_tail]

theorem map_ignore : (feed.map g).ignore = feed.ignore.map g := rfl

end Feed

/-! ## The channels of a broker -/

@[simps] def Ready.map (f : β → γ) (r : Ready β) : Ready γ := { r with body := f r.body }

namespace Lane

variable (f : β → γ) (lane : Lane β)

@[simps] def map : Lane γ := { lane with
  deliveries := lane.deliveries.map (Delivery.map f)
  outstanding := lane.outstanding.map fun d => (d.1, f d.2) }

private theorem map_deliver? (r : Ready β) :
    (lane.map f).deliver? (r.map f) = (lane.deliver? r).map (Lane.map f) := by
  let d : Delivery β := ⟨lane.nextTag, r.body, r.redelivered, "", ""⟩
  have sent : (lane.map f).deliveries.send? (d.map f) =
      (lane.deliveries.send? d).map (Feed.map (Delivery.map f)) := Feed.map_send? _ _ d
  change Option.map _ ((lane.map f).deliveries.send? (d.map f)) = Option.map _ (Option.map _ _)
  rw [sent, Option.map_map, Option.map_map]
  congr 1
  funext deliveries
  cases auto : lane.autoAck with
  | true => simp only [Function.comp_apply, map, auto, if_true]
  | false =>
    simp only [Function.comp_apply, map, auto, Bool.false_eq_true, if_false, List.map_append]
    rfl

/-- What is chosen by tags. -/
private theorem map_filter (p : Nat → Bool) : (lane.map f).outstanding.filter (fun d => p d.1) =
    (lane.outstanding.filter fun d => p d.1).map fun d => (d.1, f d.2) := by
  rw [map_outstanding, List.filter_map]
  rfl

private theorem map_takeOut (tag : Nat) (multiple : Bool) :
    (lane.map f).takeOut tag multiple =
      (lane.takeOut tag multiple).map (Prod.map (List.map f) (Lane.map f)) := by
  let chosen (other : Nat) : Bool :=
    if multiple then other < Verdict.bound tag else other == tag
  have chosen_eq := lane.map_filter f chosen
  have spared_eq := lane.map_filter f fun other => !chosen other
  unfold takeOut
  extract_lets _ taken _ taken'
  have taken_eq : taken = taken'.map fun d => (d.1, f d.2) := chosen_eq
  rw [taken_eq, List.isEmpty_map]
  split
  · rfl
  · refine congrArg Except.ok (Prod.ext ?_ ?_)
    · simp only [Prod.map, List.map_map]
      rfl
    · exact congrArg (fun outstanding => { lane.map f with outstanding }) spared_eq

private theorem map_settle (tag : Nat) (verdict : Verdict) :
    (lane.map f).settle tag verdict =
      (lane.settle tag verdict).map (Prod.map (List.map f) (Lane.map f)) := by
  unfold settle
  rw [map_isOpen]
  split
  · cases verdict with
    | ack multiple =>
      dsimp only
      rw [map_takeOut]
      cases lane.takeOut tag multiple <;> rfl
    | nack multiple requeue =>
      dsimp only
      rw [map_takeOut]
      cases lane.takeOut tag multiple with
      | error fault => rfl
      | ok got => cases requeue <;> rfl
  · rfl

private theorem map_hangUp : (lane.map f).hangUp = lane.hangUp.map f := rfl

private theorem map_close (closure : Closure) :
    (lane.map f).close closure = (lane.close closure).map f :=
  rfl

end Lane

/-! ## Brokers -/

namespace Broker

variable (f : β → γ) (b : Broker β)

@[simps] def map : Broker γ :=
  { b with lanes := b.lanes.map (Lane.map f), ready := b.ready.map (Ready.map f) }

theorem map_lane? (id : Nat) : (b.map f).lane? id = (b.lane? id).map (Lane.map f) := by
  rw [lane?, map_lanes, List.find?_map]
  rfl

private theorem map_setLane (lane : Lane β) :
    (b.map f).setLane (lane.map f) = (b.setLane lane).map f := by
  have lanes : (b.map f).lanes.map (fun other => if other.id = lane.id then lane.map f else other) =
      (b.lanes.map fun other => if other.id = lane.id then lane else other).map (Lane.map f) := by
    rw [map_lanes, List.map_map, List.map_map]
    apply List.map_congr_left
    intro other _
    exact (apply_ite (Lane.map f) _ _ _).symm
  exact congrArg (fun lanes => { b.map f with lanes }) lanes

theorem map_withLane {change : Lane β → Lane β} {change' : Lane γ → Lane γ}
    (same : ∀ lane, change' (lane.map f) = (change lane).map f) (id : Nat) :
    (b.map f).withLane id change' = (b.withLane id change).map f := by
  unfold withLane
  rw [map_lane?]
  cases b.lane? id with
  | none => rfl
  | some lane =>
    dsimp only [Option.map_some]
    rw [same, map_setLane]

private theorem map_retire (id : Nat) : (b.map f).retire id = (b.retire id).map f := by
  unfold retire
  rw [map_active]
  split <;> rfl

private theorem map_deliverAll (bodies : List (Ready β)) :
    (b.map f).deliverAll (bodies.map (Ready.map f)) = (b.deliverAll bodies).map f := by
  induction bodies generalizing b with
  | nil => rfl
  | cons r rest ih =>
    have found : (b.map f).active.bind (b.map f).lane? =
        (b.active.bind b.lane?).map (Lane.map f) := by
      rw [funext (b.map_lane? f), Option.map_bind]
      rfl
    rw [List.map_cons, deliverAll, deliverAll, found]
    cases b.active.bind b.lane? with
    | none => rfl
    | some lane =>
      dsimp only [Option.map_some]
      rw [Lane.map_deliver?]
      cases lane.deliver? r with
      | some next =>
        dsimp only [Option.map_some]
        rw [map_setLane, ih]
      | none =>
        dsimp only [Option.map_none]
        rw [Lane.map_hangUp, map_setLane]
        rfl

private theorem map_pump : (b.map f).pump = b.pump.map f :=
  map_deliverAll f { b with ready := [] } b.ready

private theorem map_requeue (bodies : List β) :
    (b.map f).requeue (bodies.map f) = (b.requeue bodies).map f := by
  unfold requeue
  rw [List.isEmpty_map]
  split
  · rfl
  · rw [← map_pump]
    simp only [map, List.map_append, List.map_map]
    rfl

theorem map_publish (body : β) : (b.map f).publish (f body) = (b.publish body).map f := by
  unfold publish
  rw [← map_pump]
  simp only [map, List.map_append]
  rfl

theorem map_lease : (b.map f).lease = b.lease.map (·) (Broker.map f) := by
  unfold lease
  dsimp only
  rw [map_failLeases]
  split
  · rfl
  · simp only [map, List.length_map, Prod.map, List.map_append]
    rfl

theorem map_limit (id : Nat) (prefetch : Prefetch) (forAll : Bool) :
    (b.map f).limit id prefetch forAll = (b.limit id prefetch forAll).map (·) (Broker.map f) := by
  unfold limit
  rw [map_lane?]
  cases b.lane? id with
  | none => rfl
  | some lane =>
    let next : Lane β := { lane with limits := lane.limits ++ [(prefetch, forAll)] }
    exact congrArg (Prod.mk _) (map_setLane f b next)

theorem map_subscribe (id : Nat) (s : Subscription) :
    (b.map f).subscribe id s = (b.subscribe id s).map (·) (Broker.map f) := by
  unfold subscribe
  rw [map_failSubscriptions, map_queue, map_lane?]
  split
  · rfl
  split
  · rfl
  cases b.lane? id with
  | none => rfl
  | some lane =>
    dsimp only [Option.map_some]
    rw [Lane.map_isOpen]
    split
    · let next : Lane β := { lane with
        subscriptions := lane.subscriptions ++ [s]
        autoAck := s.terms.autoAck
        deliveries := .fresh }
      have receiving : ({ (b.map f).setLane (next.map f) with active := some id } : Broker γ).pump =
          ({ b.setLane next with active := some id } : Broker β).pump.map f := by
        rw [map_setLane]
        exact map_pump f { b.setLane next with active := some id }
      exact congrArg (fun pumped : Broker γ => ((Except.ok () : Except ChannelFault Unit),
        { pumped with subscribers := pumped.subscribers + 1 })) receiving
    · rfl

theorem map_settle (id tag : Nat) (verdict : Verdict) :
    (b.map f).settle id tag verdict = (b.settle id tag verdict).map (·) (Broker.map f) := by
  unfold settle
  rw [map_lane?]
  cases b.lane? id with
  | none => rfl
  | some lane =>
    dsimp only [Option.map_some]
    rw [Lane.map_settle]
    cases lane.settle tag verdict with
    | error fault => rfl
    | ok got =>
      simp only [Except.map, Prod.map]
      rw [map_setLane, map_requeue]

theorem map_release (id : Nat) (errored : Bool) :
    (b.map f).release id errored = (b.release id errored).map f := by
  have hangs (lane : Lane β) : (lane.map f).hangUp = lane.hangUp.map f := lane.map_hangUp f
  unfold release
  rw [← map_withLane f _ hangs, ← map_retire]
  rfl

theorem map_close (id : Nat) (closure : Closure) :
    (b.map f).close id closure = (b.close id closure).map f := by
  unfold close
  rw [map_lane?]
  cases b.lane? id with
  | none => rfl
  | some lane =>
    dsimp only [Option.map_some]
    rw [Lane.map_isOpen]
    split
    · have returned : (lane.map f).outstanding.map (·.2) = (lane.outstanding.map (·.2)).map f := by
        simp only [Lane.map, List.map_map]
        rfl
      rw [returned, Lane.map_close, map_setLane, map_retire, map_requeue]
    · rfl

theorem map_closeActive (closure : Closure) :
    (b.map f).closeActive closure = (b.closeActive closure).map (·) (Broker.map f) := by
  unfold closeActive
  rw [map_active]
  cases b.active with
  | none => rfl
  | some id => exact congrArg (Prod.mk _) (map_close f b id closure)

theorem map_cancel : (b.map f).cancel = b.cancel.map (·) (Broker.map f) := by
  have hangs (lane : Lane β) : (lane.map f).hangUp = lane.hangUp.map f := lane.map_hangUp f
  unfold cancel
  rw [map_active]
  cases b.active with
  | none => rfl
  | some id => exact congrArg (Prod.mk _) (map_withLane f { b with active := none } hangs id)

end Broker

/-! ## Scripts -/

@[simps] def Plan.map (f : β → γ) (plan : Plan β) : Plan γ :=
  { plan with deliveries := plan.deliveries.map (Delivery.map f) }

@[simps] def Pending.map (f : β → γ) (p : Pending β) : Pending γ := { p with plan := p.plan.map f }

@[simps] def Scene.map (f : β → γ) (scene : Scene β) : Scene γ := { scene with
  script := scene.script.map (Delivery.map f)
  deliveries := scene.deliveries.map (Delivery.map f) }

namespace Script

variable (f : β → γ) (s : Script β)

@[simps] def map : Script γ := { s with
  plans := s.plans.map (Plan.map f)
  scenes := s.scenes.map (Scene.map f)
  pending := s.pending.map (Pending.map f) }

private theorem map_record (call : Call) : (s.map f).record call = (s.record call).map f := rfl

private theorem map_scene? (lease : Nat) :
    (s.map f).scene? lease = (s.scene? lease).map (Scene.map f) := by
  rw [scene?, map_scenes, List.find?_map]
  rfl

/-- Some leases change. -/
private theorem map_scenes_map {change : Scene β → Scene β} {change' : Scene γ → Scene γ}
    (same : ∀ scene, change' (scene.map f) = (change scene).map f) (p : Channel → Prop)
    [DecidablePred p] :
    ((s.map f).scenes.map fun scene => if p scene.channel then change' scene else scene) =
      (s.scenes.map fun scene => if p scene.channel then change scene else scene).map
        (Scene.map f) := by
  rw [map_scenes, List.map_map, List.map_map]
  apply List.map_congr_left
  intro scene _
  simp only [Function.comp_apply, Scene.map_channel, same, apply_ite (Scene.map f)]

private theorem map_withScene {change : Scene β → Scene β} {change' : Scene γ → Scene γ}
    (same : ∀ scene, change' (scene.map f) = (change scene).map f) (lease : Nat) :
    (s.map f).withScene lease change' = (s.withScene lease change).map f :=
  congrArg (fun scenes => { s.map f with scenes }) (s.map_scenes_map f same (·.lease = lease))

private theorem map_carryOut (plan : Plan β) :
    (s.map f).carryOut (plan.map f) = (s.carryOut plan).map (·) (Script.map f) := by
  unfold carryOut
  rw [Plan.map_fault]
  cases plan.fault with
  | some fault => rfl
  | none =>
    have hangs (scene : Scene β) : (scene.map f).hangUp = scene.hangUp.map f := rfl
    have older := s.map_scenes_map f hangs (·.id = plan.id)
    dsimp only
    rw [Plan.map_id, older]
    simp only [map, List.length_map, Prod.map, List.map_append, record]
    rfl

private theorem map_request (now who : Nat) :
    (s.map f).request now who = (s.request now who).map (·) (Script.map f) := by
  unfold request
  have asked : (s.map f).pending.find? (·.who == who) =
      (s.pending.find? (·.who == who)).map (Pending.map f) := by
    rw [map_pending, List.find?_map]
    rfl
  have others : (s.map f).pending.filter (fun other => other.who != who) =
      (s.pending.filter fun other => other.who != who).map (Pending.map f) := by
    rw [map_pending, List.filter_map]
    rfl
  rw [asked, others]
  cases s.pending.find? (·.who == who) with
  | some p =>
    dsimp only [Option.map_some]
    rw [Pending.map_due]
    split
    · let left : Script β := { s with pending := s.pending.filter fun other => other.who != who }
      have carried := left.map_carryOut f p.plan
      exact congrArg (fun got => (some got.1, got.2)) carried
    · rfl
  | none =>
    dsimp only [Option.map_none]
    rw [map_plans]
    cases s.plans with
    | nil => rfl
    | cons plan plans =>
      rw [List.map_cons]
      dsimp only
      rw [Plan.map_delay]
      split
      · let left : Script β := { s with plans }
        have carried := left.map_carryOut f plan
        exact congrArg (fun got => (some got.1, got.2)) carried
      · simp only [map, Prod.map, List.map_append]
        rfl

private theorem map_limit (channel : Channel) (prefetch : Prefetch) (forAll : Bool) :
    (s.map f).limit channel prefetch forAll =
      (s.limit channel prefetch forAll).map (·) (Script.map f) := by
  have same (scene : Scene β) : { scene.map f with limits := (scene.map f).limits.tail } =
      ({ scene with limits := scene.limits.tail } : Scene β).map f := rfl
  have answer : (((s.map f).scene? channel.lease).bind fun scene => scene.limits.head?.join) =
      (s.scene? channel.lease).bind fun scene => scene.limits.head?.join := by
    rw [map_scene?, Option.bind_map]
    rfl
  unfold limit
  dsimp only
  rw [answer]
  exact congrArg (Prod.mk _)
    (map_withScene f (s.record (.limit channel.id prefetch forAll)) same channel.lease)

private theorem map_subscribe (channel : Channel) (subscription : Subscription) :
    (s.map f).subscribe channel subscription =
      (s.subscribe channel subscription).map (·) (Script.map f) := by
  unfold subscribe
  dsimp only
  rw [map_record, map_scene?]
  generalize s.record (.subscribe channel.id subscription) = recorded
  cases recorded.scene? channel.lease with
  | none => rfl
  | some scene =>
    dsimp only [Option.map_some]
    rw [Scene.map_refusal]
    cases scene.refusal with
    | some fault =>
      have same (scene : Scene β) : { scene.map f with refusal := none } =
          ({ scene with refusal := none } : Scene β).map f := rfl
      exact congrArg (Prod.mk _) (map_withScene f recorded same channel.lease)
    | none =>
      have same (scene : Scene β) : { scene.map f with
            script := [], deliveries := ⟨(scene.map f).script, !(scene.map f).ends, true⟩ } =
          ({ scene with script := [], deliveries := ⟨scene.script, !scene.ends, true⟩ } :
            Scene β).map f := rfl
      exact congrArg (Prod.mk _) (map_withScene f recorded same channel.lease)

private theorem map_settle (channel : Channel) (tag : Nat) (verdict : Verdict) :
    (s.map f).settle channel tag verdict =
      (s.settle channel tag verdict).map (·) (Script.map f) := rfl

private theorem map_release (channel : Channel) (errored : Bool) :
    (s.map f).release channel errored = (s.release channel errored).map f := by
  unfold release
  rw [map_recordsRelease]
  split <;> rfl

private theorem map_receiver? (id : Nat) :
    (s.map f).receiver? id = (s.receiver? id).map (Scene.map f) := by
  rw [receiver?, map_scenes, List.find?_map]
  rfl

private theorem map_notified? (id : Nat) :
    (s.map f).notified? id = (s.notified? id).map (Scene.map f) := by
  rw [notified?, map_scenes, List.find?_map]
  rfl

theorem map_push (id : Nat) (d : Delivery β) :
    (s.map f).push id (d.map f) = (s.push id d).map (·) (Script.map f) := by
  unfold push
  rw [map_receiver?]
  cases s.receiver? id with
  | none => rfl
  | some scene =>
    have sent : (scene.map f).deliveries.send? (d.map f) =
        (scene.deliveries.send? d).map (Feed.map (Delivery.map f)) := Feed.map_send? _ _ d
    dsimp only [Option.map_some]
    rw [sent]
    cases scene.deliveries.send? d with
    | none => rfl
    | some deliveries =>
      have same (scene : Scene β) :
          { scene.map f with deliveries := deliveries.map (Delivery.map f) } =
            ({ scene with deliveries } : Scene β).map f := rfl
      exact congrArg (Prod.mk _) (map_withScene f s same scene.channel.lease)

theorem map_notify (id : Nat) (closure : Closure) :
    (s.map f).notify id closure = (s.notify id closure).map (·) (Script.map f) := by
  unfold notify
  rw [map_notified?]
  cases s.notified? id with
  | none => rfl
  | some scene =>
    dsimp only [Option.map_some]
    rw [Scene.map_notices]
    cases scene.notices.sendWithin? noticeRoom closure with
    | none => rfl
    | some notices =>
      have same (scene : Scene β) :
          { scene.map f with notices } = ({ scene with notices } : Scene β).map f := rfl
      exact congrArg (Prod.mk _) (map_withScene f s same scene.channel.lease)

theorem map_endDeliveries (id : Nat) :
    (s.map f).endDeliveries id = (s.endDeliveries id).map (·) (Script.map f) := by
  unfold endDeliveries
  rw [map_receiver?]
  cases s.receiver? id with
  | none => rfl
  | some scene =>
    have same (scene : Scene β) :
        { scene.map f with deliveries := (scene.map f).deliveries.hangUp } =
          ({ scene with deliveries := scene.deliveries.hangUp } : Scene β).map f := rfl
    exact congrArg (Prod.mk _) (map_withScene f s same scene.channel.lease)

theorem map_endNotices (id : Nat) :
    (s.map f).endNotices id = (s.endNotices id).map (·) (Script.map f) := by
  unfold endNotices
  rw [map_notified?]
  cases s.notified? id with
  | none => rfl
  | some scene =>
    have same (scene : Scene β) : { scene.map f with notices := (scene.map f).notices.hangUp } =
        ({ scene with notices := scene.notices.hangUp } : Scene β).map f := rfl
    exact congrArg (Prod.mk _) (map_withScene f s same scene.channel.lease)

end Script

/-! ## Both -/

namespace Source

variable (f : β → γ) (source : Source β)

def map : Source β → Source γ
  | .broker b => .broker (b.map f)
  | .script s => .script (s.map f)

theorem map_request (now who : Nat) :
    (source.map f).request now who = (source.request now who).map (·) (Source.map f) := by
  cases source with
  | broker b => exact congrArg (fun got => (some got.1, broker got.2)) (b.map_lease f)
  | script s => exact congrArg (Prod.map (·) script) (s.map_request f now who)

theorem map_limit (channel : Channel) (prefetch : Prefetch) (forAll : Bool) :
    (source.map f).limit channel prefetch forAll =
      (source.limit channel prefetch forAll).map (·) (Source.map f) := by
  cases source with
  | broker b => exact congrArg (Prod.map (·) broker) (b.map_limit f channel.id prefetch forAll)
  | script s => exact congrArg (Prod.map (·) script) (s.map_limit f channel prefetch forAll)

theorem map_subscribe (channel : Channel) (subscription : Subscription) :
    (source.map f).subscribe channel subscription =
      (source.subscribe channel subscription).map (·) (Source.map f) := by
  cases source with
  | broker b => exact congrArg (Prod.map (·) broker) (b.map_subscribe f channel.id subscription)
  | script s => exact congrArg (Prod.map (·) script) (s.map_subscribe f channel subscription)

theorem map_settle (channel : Channel) (tag : Nat) (verdict : Verdict) :
    (source.map f).settle channel tag verdict =
      (source.settle channel tag verdict).map (·) (Source.map f) := by
  cases source with
  | broker b => exact congrArg (Prod.map (·) broker) (b.map_settle f channel.id tag verdict)
  | script s => exact congrArg (Prod.map (·) script) (s.map_settle f channel tag verdict)

theorem map_release (channel : Channel) (errored : Bool) :
    (source.map f).release channel errored = (source.release channel errored).map f := by
  cases source with
  | broker b => exact congrArg broker (b.map_release f channel.id errored)
  | script s => exact congrArg script (s.map_release f channel errored)

theorem map_notices (channel : Channel) :
    (source.map f).notices channel = source.notices channel := by
  cases source with
  | broker b =>
    simp only [map, notices, Broker.map_lane?, Option.map_map]
    rfl
  | script s =>
    simp only [map, notices, Script.map_scene?, Option.map_map]
    rfl

theorem map_deliveries (channel : Channel) :
    (source.map f).deliveries channel = (source.deliveries channel).map (Delivery.map f) := by
  cases source with
  | broker b =>
    simp only [map, deliveries, Broker.map_lane?]
    cases b.lane? channel.id <;> rfl
  | script s =>
    simp only [map, deliveries, Script.map_scene?]
    cases s.scene? channel.lease <;> rfl

theorem map_withNotices (channel : Channel) (change : Feed Closure → Feed Closure) :
    (source.map f).withNotices channel change = (source.withNotices channel change).map f := by
  cases source with
  | broker b =>
    have same (lane : Lane β) : { lane.map f with notices := change (lane.map f).notices } =
        ({ lane with notices := change lane.notices } : Lane β).map f := rfl
    exact congrArg broker (b.map_withLane f same channel.id)
  | script s =>
    have same (scene : Scene β) : { scene.map f with notices := change (scene.map f).notices } =
        ({ scene with notices := change scene.notices } : Scene β).map f := rfl
    exact congrArg script (s.map_withScene f same channel.lease)

theorem map_withDeliveries {change : Feed (Delivery β) → Feed (Delivery β)}
    {change' : Feed (Delivery γ) → Feed (Delivery γ)}
    (same : ∀ feed, change' (feed.map (Delivery.map f)) = (change feed).map (Delivery.map f))
    (channel : Channel) : (source.map f).withDeliveries channel change' =
      (source.withDeliveries channel change).map f := by
  cases source with
  | broker b =>
    have same (lane : Lane β) :
        { lane.map f with deliveries := change' (lane.map f).deliveries } =
          ({ lane with deliveries := change lane.deliveries } : Lane β).map f :=
      congrArg (fun deliveries => { lane.map f with deliveries }) (same lane.deliveries)
    exact congrArg broker (b.map_withLane f same channel.id)
  | script s =>
    have same (scene : Scene β) :
        { scene.map f with deliveries := change' (scene.map f).deliveries } =
          ({ scene with deliveries := change scene.deliveries } : Scene β).map f :=
      congrArg (fun deliveries => { scene.map f with deliveries }) (same scene.deliveries)
    exact congrArg script (s.map_withScene f same channel.lease)

theorem map_due? (who : Nat) : (source.map f).due? who = source.due? who := by
  cases source with
  | broker b => rfl
  | script s =>
    simp only [map, due?, Script.map_pending, List.find?_map, Option.map_map]
    rfl

theorem map_dueTimes : (source.map f).dueTimes = source.dueTimes := by
  cases source with
  | broker b => rfl
  | script s =>
    simp only [map, dueTimes, Script.map_pending, List.map_map]
    rfl

end Source

end Intake
