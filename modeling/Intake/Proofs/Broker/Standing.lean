import Intake.Proofs.Broker.Evolution

/-! # How channels stand

Deliveries aside, all that a channel's holder sees is whether it is open and what is on its feed of
closures. Only a closure and the holder of the feed change this, and only for the channel in
question: `Broker.Spares`. A channel whose feed nobody has touched is open with nothing on its feed,
or closed with one closure on it and none to follow.
-/

namespace Intake

namespace Broker

variable {β : Type} {b b' b'' : Broker β} {touched : Option Nat}

/-- Whether a channel is open, and its feed of closures. -/
def standing? (b : Broker β) (id : Nat) : Option (Bool × Feed Closure) :=
  (b.lane? id).map fun lane => (lane.isOpen, lane.notices)

private theorem standing?_setLane (b : Broker β) (lane : Lane β) (id : Nat) :
    (b.setLane lane).standing? id = if id = lane.id then
      (b.standing? id).map fun _ => (lane.isOpen, lane.notices) else b.standing? id := by
  rw [standing?, lane?_setLane]
  split
  · rw [standing?, Option.map_map, Option.map_map]
    rfl
  · rfl

/-- All channels but one at most stand as they did, and none is leased. -/
structure Spares (touched : Option Nat) (b b' : Broker β) : Prop where
  count : b'.lanes.length = b.lanes.length
  known : ∀ id, b.standing? id = none → b'.standing? id = none
  same : ∀ id, touched ≠ some id → b'.standing? id = b.standing? id

namespace Spares

theorem refl (touched : Option Nat) (b : Broker β) : Spares touched b b :=
  ⟨rfl, fun _ unknown => unknown, fun _ _ => rfl⟩

theorem trans (first : Spares touched b b') (second : Spares touched b' b'') :
    Spares touched b b'' where
  count := second.count.trans first.count
  known id unknown := second.known id (first.known id unknown)
  same id other := (second.same id other).trans (first.same id other)

private theorem of_lanes (same : b'.lanes = b.lanes) : Spares touched b b' := by
  have standing (id : Nat) : b'.standing? id = b.standing? id := by
    rw [standing?, standing?, lane?, lane?, same]
  exact ⟨by rw [same], fun id unknown => (standing id).trans unknown, fun id _ => standing id⟩

/-- Another change of the channel. -/
private theorem setLane {id : Nat} {lane next : Lane β} (found : b.lane? id = some lane)
    (number : next.id = lane.id) (isOpen : next.isOpen = lane.isOpen)
    (notices : next.notices = lane.notices) : Spares touched b (b.setLane next) := by
  have standing (other : Nat) : (b.setLane next).standing? other = b.standing? other := by
    rw [standing?_setLane, number, id_of_lane? found]
    split
    · next same =>
      rw [same, standing?, found, isOpen, notices]
      rfl
    · rfl
  exact ⟨by simp [Broker.setLane], fun id unknown => (standing id).trans unknown,
    fun id _ => standing id⟩

/-- A change of the channel that is touched. -/
private theorem touch (b : Broker β) (lane : Lane β) :
    Spares (some lane.id) b (b.setLane lane) := by
  refine ⟨by simp [Broker.setLane], ?_, ?_⟩
  · intro id unknown
    rw [standing?_setLane, unknown]
    split <;> rfl
  · intro id other
    have apart : id ≠ lane.id := fun same => other (congrArg some same.symm)
    rw [standing?_setLane, if_neg apart]

/-- Something happens to the deliveries of a channel. -/
theorem withDeliveries (b : Broker β) (id : Nat)
    (change : Feed (Delivery β) → Feed (Delivery β)) : Spares touched b
      (b.withLane id fun lane => { lane with deliveries := change lane.deliveries }) := by
  unfold Broker.withLane
  cases found : b.lane? id with
  | none => exact .refl _ b
  | some lane => exact .setLane found rfl rfl rfl

private theorem retire (b : Broker β) (id : Nat) : Spares touched b (b.retire id) := by
  unfold Broker.retire
  split
  · exact .of_lanes rfl
  · exact .refl _ b

private theorem deliverAll (b : Broker β) (bodies : List (Ready β)) :
    Spares touched b (b.deliverAll bodies) := by
  induction bodies generalizing b with
  | nil => exact .refl _ b
  | cons r rest ih =>
    unfold Broker.deliverAll
    cases found : b.active.bind b.lane? with
    | none => exact .of_lanes rfl
    | some lane =>
      obtain ⟨id, _, found⟩ := Option.bind_eq_some_iff.mp found
      dsimp only
      cases delivered : lane.deliver? r with
      | some next =>
        have same := Lane.eq_of_deliver? delivered
        have delivers : Spares touched b (b.setLane next) :=
          .setLane found (by rw [same]) (by rw [same]) (by rw [same])
        exact delivers.trans (ih _)
      | none =>
        have hangsUp : Spares touched b (b.setLane lane.hangUp) := .setLane found rfl rfl rfl
        exact hangsUp.trans (.of_lanes rfl)

private theorem pump (b : Broker β) : Spares touched b b.pump := by
  unfold Broker.pump
  have emptied : Spares touched b { b with ready := [] } := .of_lanes rfl
  exact emptied.trans (.deliverAll _ _)

private theorem requeue (b : Broker β) (bodies : List β) : Spares touched b (b.requeue bodies) := by
  unfold Broker.requeue
  split
  · exact .refl _ b
  · have added : Spares touched b { b with ready := bodies.map (⟨·, true⟩) ++ b.ready } :=
      .of_lanes rfl
    exact added.trans (.pump _)

private theorem publish (b : Broker β) (body : β) : Spares touched b (b.publish body) := by
  unfold Broker.publish
  have added : Spares touched b { b with ready := b.ready ++ [⟨body, false⟩] } := .of_lanes rfl
  exact added.trans (.pump _)

theorem limit (b : Broker β) (id : Nat) (prefetch : Prefetch) (forAll : Bool) :
    Spares touched b (b.limit id prefetch forAll).2 := by
  unfold Broker.limit
  cases found : b.lane? id with
  | none => exact .refl _ b
  | some lane => exact .setLane found rfl rfl rfl

theorem subscribe (b : Broker β) (id : Nat) (s : Subscription) :
    Spares touched b (b.subscribe id s).2 := by
  unfold Broker.subscribe
  split
  · exact .of_lanes rfl
  · split
    · exact .refl _ b
    · cases found : b.lane? id with
      | none => exact .refl _ b
      | some lane =>
        dsimp only
        split
        · have receives : Spares touched b (b.setLane { lane with
              subscriptions := lane.subscriptions ++ [s], autoAck := s.terms.autoAck
              deliveries := .fresh }) := .setLane found rfl rfl rfl
          refine receives.trans (.trans ?_ ((Spares.pump _).trans (.of_lanes rfl)))
          exact .of_lanes rfl
        · exact .refl _ b

private theorem settle (b : Broker β) (id tag : Nat) (verdict : Verdict) :
    Spares touched b (b.settle id tag verdict).2 := by
  unfold Broker.settle
  cases found : b.lane? id with
  | none => exact .refl _ b
  | some lane =>
    dsimp only
    cases settled : lane.settle tag verdict with
    | error fault => exact .refl _ b
    | ok got =>
      obtain ⟨bodies, next⟩ := got
      have same := Lane.eq_of_settle settled
      have settles : Spares touched b (b.setLane next) :=
        .setLane found (by rw [same]) (by rw [same]) (by rw [same])
      exact settles.trans (.requeue _ _)

theorem release (b : Broker β) (id : Nat) (errored : Bool) :
    Spares touched b (b.release id errored) := by
  unfold Broker.release
  have noted : Spares touched b { b with released := b.released ++ [(id, errored)] } :=
    .of_lanes rfl
  exact noted.trans ((Spares.retire _ id).trans (.withDeliveries _ id .hangUp))

theorem cancel (b : Broker β) : Spares touched b b.cancel.2 := by
  unfold Broker.cancel
  split
  · exact .refl _ b
  · next id _ =>
    have idle : Spares touched b { b with active := none } := .of_lanes rfl
    exact idle.trans (.withDeliveries _ id .hangUp)

private theorem close (b : Broker β) (id : Nat) (closure : Closure) :
    Spares (some id) b (b.close id closure) := by
  unfold Broker.close
  cases found : b.lane? id with
  | none => exact .refl _ b
  | some lane =>
    dsimp only
    split
    · have closes : Spares (some id) b (b.setLane (lane.close closure)) := by
        rw [← id_of_lane? found]
        exact .touch b (lane.close closure)
      exact closes.trans ((Spares.retire _ id).trans (.requeue _ _))
    · exact .refl _ b

/-- The holder of the feed of closures of a channel does something with it. -/
theorem withNotices (b : Broker β) (id : Nat) (change : Feed Closure → Feed Closure) :
    Spares (some id) b
      (b.withLane id fun lane => { lane with notices := change lane.notices }) := by
  unfold Broker.withLane
  cases found : b.lane? id with
  | none => exact .refl _ b
  | some lane =>
    rw [← id_of_lane? found]
    exact .touch b { lane with notices := change lane.notices }

end Spares

/-! ## Channels whose feed of closures is held -/

/-- A channel is open and nothing is on its feed of closures, or it was closed and the closure is on
the feed. Nobody has taken from the feed. -/
def Attended (b : Broker β) (id : Nat) : Prop :=
  b.standing? id = some (true, .fresh) ∨
    ∃ closure, b.standing? id = some (false, ⟨[closure], false, true⟩)

/-- Channels are numbered in order. -/
def Numbered (b : Broker β) : Prop := ∀ id, b.lanes.length < id → b.standing? id = none

theorem Attended.spares {id : Nat} (attended : b.Attended id) (spares : Spares touched b b')
    (other : touched ≠ some id) : b'.Attended id := by
  unfold Attended
  rw [spares.same id other]
  exact attended

private theorem Attended.close {id : Nat} (attended : b.Attended id) (other : Nat)
    (closure : Closure) :
    (b.close other closure).Attended id := by
  by_cases same : other = id
  · subst same
    unfold Broker.close
    cases found : b.lane? other with
    | none => exact attended
    | some lane =>
      dsimp only
      split
      · next isOpen =>
        have fresh : lane.notices = .fresh := by
          simpa [Attended, standing?, found, isOpen] using attended
        have closed : (b.setLane (lane.close closure)).standing? other =
            some (false, ⟨[closure], false, true⟩) := by
          have number : other = (lane.close closure).id := (id_of_lane? found).symm
          rw [standing?_setLane, if_pos number, standing?, found]
          simp only [Lane.close, fresh]
          rfl
        have quiet : Spares none (b.setLane (lane.close closure))
            (((b.setLane (lane.close closure)).retire other).requeue
              (lane.outstanding.map (·.2))) := (Spares.retire _ _).trans (.requeue _ _)
        exact Attended.spares (.inr ⟨closure, closed⟩) quiet nofun
      · exact attended
  · exact attended.spares (.close b other closure) (by simpa using same)

theorem Numbered.spares (numbered : b.Numbered) (spares : Spares touched b b') : b'.Numbered := by
  intro id beyond
  rw [spares.count] at beyond
  exact spares.known id (numbered id beyond)

/-- A lease fails, or yields the channel with the next number. -/
theorem lease_cases (b : Broker β) : (∃ fault, b.lease.1 = .error fault ∧ Spares none b b.lease.2) ∨
    b.lease.1 = .ok ⟨b.lanes.length + 1, b.lanes.length + 1⟩ ∧
      b.lease.2.lanes.length = b.lanes.length + 1 ∧
      ∀ id, b.lease.2.standing? id = (b.standing? id).or
        (if id = b.lanes.length + 1 then some (true, .fresh) else none) := by
  unfold Broker.lease
  dsimp only
  split
  · exact .inl ⟨_, rfl, .of_lanes rfl⟩
  · refine .inr ⟨rfl, by simp, ?_⟩
    intro id
    simp only [standing?, lane?, List.find?_append, List.find?_singleton, Option.map_or]
    congr 1
    by_cases same : id = b.lanes.length + 1
    · simp [same, Lane.ofId]
    · simp [Lane.ofId, same, Ne.symm same]

theorem Attended.lease {id : Nat} (attended : b.Attended id) : b.lease.2.Attended id := by
  obtain ⟨_, _, spares⟩ | ⟨_, _, standing⟩ := b.lease_cases
  · exact attended.spares spares nofun
  · unfold Attended
    rw [standing]
    obtain same | ⟨closure, same⟩ := attended <;> simp [same]

private theorem Numbered.lease (numbered : b.Numbered) : b.lease.2.Numbered := by
  obtain ⟨_, _, spares⟩ | ⟨_, count, standing⟩ := b.lease_cases
  · exact numbered.spares spares
  · intro id beyond
    rw [count] at beyond
    have other : id ≠ b.lanes.length + 1 := by omega
    have unknown : b.standing? id = none := numbered id (by omega)
    rw [standing, unknown, if_neg other]
    rfl

/-- The channel that a lease yields is new and attended. -/
theorem Numbered.attended_lease {channel : Channel} (numbered : b.Numbered)
    (leased : b.lease.1 = .ok channel) :
    channel.id = b.lanes.length + 1 ∧ b.lease.2.lanes.length = b.lanes.length + 1 ∧
      b.lease.2.Attended channel.id := by
  obtain ⟨_, failed, _⟩ | ⟨got, count, standing⟩ := b.lease_cases
  · cases failed.symm.trans leased
  · cases got.symm.trans leased
    have unknown : b.standing? (b.lanes.length + 1) = none := numbered _ (Nat.lt_succ_self _)
    refine ⟨rfl, count, .inl ?_⟩
    rw [standing, unknown, if_pos rfl]
    rfl

/-! ## Acts -/

/-- What is done with a broker, as far as closures go. -/
inductive Effect (b : Broker β) : Option Nat → Broker β → Prop
  | quiet {b' : Broker β} (spares : Spares none b b') : Effect b none b'
  | lease : Effect b none b.lease.2
  | close {id : Nat} {closure : Closure} : Effect b none (b.close id closure)
  /-- The feed of closures of a channel is used. -/
  | reads {b' : Broker β} {id : Nat} (spares : Spares (some id) b b') : Effect b (some id) b'

/-- The channel whose feed of closures is used by an act. -/
def Act.reads? : Act β → Option Nat
  | .takeNotice id | .dropNotices id => some id
  | _ => none

theorem effect_apply (b : Broker β) (a : Act β) : Effect b a.reads? (b.apply a) := by
  cases a with
  | publish body => exact .quiet (.publish b body)
  | lease => exact .lease
  | limit id prefetch forAll => exact .quiet (.limit b id prefetch forAll)
  | subscribe id s => exact .quiet (.subscribe b id s)
  | settle id tag verdict => exact .quiet (.settle b id tag verdict)
  | release id errored => exact .quiet (.release b id errored)
  | close id closure => exact .close
  | closeActive closure =>
    simp only [Broker.apply, closeActive]
    split
    · exact .quiet (.refl _ b)
    · exact .close
  | cancel => exact .quiet (.cancel b)
  | failLeases count => exact .quiet (.of_lanes rfl)
  | failSubscriptions count => exact .quiet (.of_lanes rfl)
  | take id => exact .quiet (.withDeliveries b id _)
  | dropStream id => exact .quiet (.withDeliveries b id _)
  | takeNotice id => exact .reads (.withNotices b id _)
  | dropNotices id => exact .reads (.withNotices b id _)

theorem Attended.effect {id : Nat} (attended : b.Attended id) (effect : Effect b touched b')
    (unread : touched ≠ some id) : b'.Attended id := by
  cases effect with
  | quiet spares => exact attended.spares spares unread
  | lease => exact attended.lease
  | close => exact attended.close _ _
  | reads spares => exact attended.spares spares unread

/-- Whatever is done with a broker, its channels stay numbered in order. -/
theorem Numbered.effect (numbered : b.Numbered) (effect : Effect b touched b') :
    b'.Numbered ∧ b.lanes.length ≤ b'.lanes.length := by
  have spared {touched : Option Nat} {b' : Broker β} (spares : Spares touched b b') :
      b'.Numbered ∧ b.lanes.length ≤ b'.lanes.length :=
    ⟨numbered.spares spares, Nat.le_of_eq spares.count.symm⟩
  cases effect with
  | quiet spares => exact spared spares
  | lease =>
    refine ⟨numbered.lease, ?_⟩
    obtain ⟨_, _, spares⟩ | ⟨_, count, _⟩ := b.lease_cases
    · exact Nat.le_of_eq spares.count.symm
    · omega
  | close => exact spared (.close b _ _)
  | reads spares => exact spared spares

/-! ## Closed channels -/

/-- A channel was closed. -/
def Closed (b : Broker β) (id : Nat) : Prop := ∃ lane, b.lane? id = some lane ∧ lane.isOpen = false

private theorem closed_of_change {lane next : Lane β} (change : lane.Change next)
    (closed : lane.isOpen = false) : next.isOpen = false := by
  cases change with
  | deliver delivered => rw [Lane.eq_of_deliver? delivered, closed]
  | settle settled => rw [Lane.eq_of_settle settled, closed]
  | close isOpen => rfl
  | subscribe isOpen => exact absurd (isOpen.symm.trans closed) nofun
  | _ => exact closed

/-- A channel that was closed never opens again. -/
theorem Closed.evolves {id : Nat} (closed : b.Closed id) (evolves : b.Evolves b') :
    b'.Closed id := by
  obtain ⟨lane, found, closed⟩ := closed
  obtain ⟨next, found', course⟩ := evolves.old id lane found
  refine ⟨next, found', ?_⟩
  clear found found'
  induction course with
  | refl => exact closed
  | tail _ change ih => exact closed_of_change change ih

/-- No channel is open and closed. -/
theorem Closed.standing?_ne {id : Nat} {notices : Feed Closure} (closed : b.Closed id) :
    b.standing? id ≠ some (true, notices) := by
  obtain ⟨lane, found, closed⟩ := closed
  simp [standing?, found, closed]

theorem closed_close {id : Nat} {lane : Lane β} (found : b.lane? id = some lane)
    (closure : Closure) : (b.close id closure).Closed id := by
  cases isOpen : lane.isOpen with
  | false => exact Closed.evolves ⟨lane, found, isOpen⟩ (.close b id closure)
  | true =>
    have closed : (b.setLane (lane.close closure)).Closed id := by
      have number : id = (lane.close closure).id := (id_of_lane? found).symm
      refine ⟨lane.close closure, ?_, rfl⟩
      rw [lane?_setLane, if_pos number, found, Option.map_some]
    have same : b.close id closure = ((b.setLane (lane.close closure)).retire id).requeue
        (lane.outstanding.map (·.2)) := by
      simp only [Broker.close, found, isOpen, if_true]
    rw [same]
    exact closed.evolves ((Evolves.retire _ _).trans (.requeue _ _))

end Broker

end Intake
