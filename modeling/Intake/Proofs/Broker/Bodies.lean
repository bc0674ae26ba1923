import Intake.Proofs.Broker.Course
import Mathlib.Algebra.Order.Group.Multiset
import Mathlib.Tactic.Abel

/-! # Bodies

A body that is published is ready, outstanding on a channel, settled for good, or it was delivered
on a channel that settles its deliveries itself. Whatever is asked of a broker, no body is lost on
its way between these places, and none comes up that was not published.
-/

namespace Intake

open Relation (ReflTransGen)

namespace Lane

variable {β : Type} {lane next : Lane β} {tag : Nat}

def outstandingBodies (lane : Lane β) : List β := lane.outstanding.map (·.2)

/-- The bodies on the feed of a channel from a tag on, if it settles its deliveries itself. -/
def selfSettled (tag : Nat) (lane : Lane β) : List β :=
  if lane.autoAck then (lane.deliveries.items.filter fun d => decide (tag ≤ d.tag)).map (·.body)
  else []

/-- What was delivered lies below the next tag. -/
def Below (lane : Lane β) : Prop := ∀ d ∈ lane.deliveries.items, d.tag < lane.nextTag

/-- A body that is delivered is outstanding, or the channel settles it. -/
private theorem bodies_of_deliver? {r : Ready β} (delivered : lane.deliver? r = some next)
    (reached : tag ≤ lane.nextTag) :
    (next.outstandingBodies + next.selfSettled tag : Multiset β) =
      {r.body} + (lane.outstandingBodies + lane.selfSettled tag) := by
  rw [eq_of_deliver? delivered]
  cases auto : lane.autoAck with
  | true =>
    simp only [outstandingBodies, selfSettled, auto, reached, if_true, List.filter_append,
      List.map_append, List.filter_cons, decide_true, List.filter_nil, List.map_cons, List.map_nil,
      ← Multiset.coe_add, Multiset.coe_singleton]
    abel
  | false =>
    simp only [outstandingBodies, selfSettled, auto, Bool.false_eq_true, if_false, List.map_append,
      List.map_cons, List.map_nil, ← Multiset.coe_add, Multiset.coe_singleton]
    abel

private theorem Below.deliver? {r : Ready β} (below : lane.Below)
    (delivered : lane.deliver? r = some next) : next.Below ∧ lane.nextTag ≤ next.nextTag := by
  rw [eq_of_deliver? delivered]
  refine ⟨?_, Nat.le_succ _⟩
  intro d member
  obtain member | rfl := by simpa using member
  · have less := below d member
    dsimp only
    omega
  · exact Nat.lt_succ_self _

/-- On a feed that lies below a tag there is nothing from that tag on. -/
private theorem Below.selfSettled (below : lane.Below) (reached : lane.nextTag ≤ tag) :
    lane.selfSettled tag = [] := by
  unfold Lane.selfSettled
  split
  · rw [List.map_eq_nil_iff, List.filter_eq_nil_iff]
    intro d member
    have less := below d member
    simp only [decide_eq_true_eq]
    omega
  · rfl

/-- What was outstanding still is, was sent back, or is gone for good. -/
private theorem Undergoes.bodies {upshot : Upshot β} (undergoes : lane.Undergoes upshot next) :
    (lane.outstandingBodies : Multiset β) =
      next.outstandingBodies + upshot.returned + upshot.concluded := by
  cases undergoes with
  | rest quiet =>
    simp [outstandingBodies, quiet.outstanding, Upshot.none]
  | subscribe isOpen => simp [outstandingBodies, Upshot.none]
  | close isOpen => simp [outstandingBodies, Lane.close]
  | @settle tag verdict bodies _ settled =>
    obtain ⟨⟨fault, failed⟩, _⟩ | ⟨_, other, succeeded, left⟩ := lane.settle_cases tag verdict
    · cases failed.symm.trans settled
    · cases succeeded.symm.trans settled
      have halves := List.filter_append_perm (fun d : Nat × β => verdict.covers tag d.1)
        lane.outstanding
      have split := Multiset.coe_eq_coe.mpr (halves.map (·.2))
      rw [List.map_append, ← Multiset.coe_add] at split
      rw [outstandingBodies, outstandingBodies, left, ← split, spared, meant]
      cases verdict.final <;> simp only [if_true, Bool.false_eq_true, if_false, Multiset.coe_nil]
      · abel
      · abel

theorem Undergoes.below {upshot : Upshot β} (undergoes : lane.Undergoes upshot next)
    (below : lane.Below) : next.Below ∧ next.nextTag = lane.nextTag := by
  cases undergoes with
  | rest quiet =>
    refine ⟨?_, quiet.nextTag⟩
    intro d member
    rw [quiet.nextTag]
    exact below d (quiet.feed.subset member)
  | subscribe isOpen => exact ⟨nofun, rfl⟩
  | close isOpen => exact ⟨below, rfl⟩
  | settle settled =>
    rw [eq_of_settle settled]
    exact ⟨below, rfl⟩

end Lane

namespace Broker

variable {β : Type} {b b' m m' : Broker β} {a : Act β}

/-- The bodies that are ready, and those of deliveries that are outstanding. -/
def bodies (b : Broker β) : Multiset β :=
  b.ready.map (·.body) + b.lanes.flatMap Lane.outstandingBodies

/-- The bodies that were delivered, since a broker was as it was, on channels that settle their
deliveries themselves. -/
def selfSettledSince (b b' : Broker β) : List β :=
  b'.lanes.flatMap fun lane => lane.selfSettled (b.nextTag lane.id)

/-- Those that are delivered at an act. -/
def selfSettled (b : Broker β) (a : Act β) : List β := b.selfSettledSince (b.apply a)

/-! ## Channels by their numbers -/

/-- The channels are numbered in order, and what was delivered on them lies below their next
tags. -/
structure Sorted (b : Broker β) : Prop where
  numbers : b.lanes.map (·.id) = List.range' 1 b.lanes.length
  below : ∀ lane ∈ b.lanes, lane.Below

theorem sorted_ofQueue (queue : String) : (ofQueue queue : Broker β).Sorted := ⟨rfl, nofun⟩

namespace Sorted

/-- A channel has one place among all. -/
theorem exists_place (sorted : b.Sorted) {lane : Lane β} (member : lane ∈ b.lanes) :
    ∃ before after, b.lanes = before ++ lane :: after ∧
      ∀ other ∈ before ++ after, other.id ≠ lane.id := by
  obtain ⟨before, after, lanes⟩ := List.append_of_mem member
  refine ⟨before, after, lanes, ?_⟩
  have nodup : (b.lanes.map (·.id)).Nodup := by
    rw [sorted.numbers]
    exact List.nodup_range'
  rw [lanes, (List.perm_middle.map _).nodup_iff, List.map_cons, List.nodup_cons] at nodup
  intro other member same
  exact nodup.1 (same ▸ List.mem_map_of_mem member)

/-- A channel is found under its number. -/
theorem lane? (sorted : b.Sorted) {lane : Lane β} (member : lane ∈ b.lanes) :
    b.lane? lane.id = some lane := by
  obtain ⟨before, after, lanes, apart⟩ := sorted.exists_place member
  have none : before.find? (·.id == lane.id) = none := by
    apply List.find?_eq_none.mpr
    intro other here
    simpa using apart other (List.mem_append_left _ here)
  rw [Broker.lane?, lanes, List.find?_append, none, Option.none_or]
  exact List.find?_cons_of_pos (beq_self_eq_true _)

private theorem nextTag (sorted : b.Sorted) {lane : Lane β} (member : lane ∈ b.lanes) :
    b.nextTag lane.id = lane.nextTag := by
  rw [Broker.nextTag, sorted.lane? member]
  rfl

/-- When one channel changes, what the others have stays. -/
theorem flatMap_setLane {γ : Type} (sorted : b.Sorted) {lane : Lane β}
    (found : b.lane? lane.id = some lane) (f : Lane β → List γ) :
    ∃ others : Multiset γ, (b.lanes.flatMap f : Multiset γ) = f lane + others ∧
      ∀ next : Lane β, next.id = lane.id →
        ((b.setLane next).lanes.flatMap f : Multiset γ) = f next + others := by
  obtain ⟨before, after, lanes, apart⟩ := sorted.exists_place (List.mem_of_find?_eq_some found)
  have place (one : Lane β) : ((before ++ one :: after).flatMap f : Multiset γ) =
      f one + (before ++ after).flatMap f := by
    rw [Multiset.coe_add, ← List.flatMap_cons]
    exact Multiset.coe_eq_coe.mpr (List.perm_middle.flatMap_right f)
  refine ⟨(before ++ after).flatMap f, lanes ▸ place lane, ?_⟩
  intro next number
  have others (rest : List (Lane β)) (among : rest ⊆ before ++ after) :
      rest.map (fun other => if other.id = lane.id then next else other) = rest := by
    have same : ∀ other ∈ rest, (if other.id = lane.id then next else other) = id other :=
      fun other here => if_neg (apart other (among here))
    rw [List.map_congr_left same, List.map_id]
  have replaced : (b.setLane next).lanes = before ++ next :: after := by
    simp only [setLane, lanes, number, List.map_append, List.map_cons, if_true,
      others before (List.subset_append_left _ _), others after (List.subset_append_right _ _)]
  rw [replaced]
  exact place next

theorem of_lanes (sorted : b.Sorted) (same : b'.lanes = b.lanes) : b'.Sorted :=
  ⟨by rw [same]; exact sorted.numbers, by rw [same]; exact sorted.below⟩

theorem setLane (sorted : b.Sorted) {next : Lane β} (below : next.Below) :
    (b.setLane next).Sorted := by
  constructor
  · rw [Broker.setLane, List.map_map, List.length_map, ← sorted.numbers]
    apply List.map_congr_left
    intro other _
    simp only [Function.comp_apply]
    split
    · next same => exact same.symm
    · rfl
  · intro lane member
    obtain ⟨other, here, rfl⟩ := List.mem_map.mp member
    split
    · exact below
    · exact sorted.below other here

private theorem lease (sorted : b.Sorted)
    (lanes : b'.lanes = b.lanes ++ [.ofId (b.lanes.length + 1)]) :
    b'.Sorted := by
  constructor
  · have last : 1 + 1 * b.lanes.length = b.lanes.length + 1 := by omega
    rw [lanes, List.map_append, sorted.numbers, List.length_append, List.length_singleton,
      List.range'_concat, last]
    rfl
  · intro lane member
    rw [lanes, List.mem_append, List.mem_singleton] at member
    obtain member | rfl := member
    · exact sorted.below lane member
    · nofun

end Sorted

/-- A channel among those of which one has changed is that one or was there before. -/
private theorem mem_setLane {lane next : Lane β} (member : lane ∈ (b.setLane next).lanes) :
    lane = next ∨ lane ∈ b.lanes := by
  obtain ⟨other, here, rfl⟩ := List.mem_map.mp member
  split
  · exact .inl rfl
  · exact .inr here

/-! ## The first part of an act -/

/-- The channels are as sorted as they were at an earlier time, and no next tag has gone down. -/
structure Follows (b m : Broker β) : Prop where
  sorted : m.Sorted
  reached : ∀ lane ∈ m.lanes, b.nextTag lane.id ≤ lane.nextTag

/-- Nothing has been delivered yet. -/
private theorem Prepares.follows (prepares : Prepares b a m) (sorted : b.Sorted) :
    Follows b m ∧ b.selfSettledSince m = [] := by
  suffices same : m.Sorted ∧ ∀ lane ∈ m.lanes, b.nextTag lane.id = lane.nextTag by
    refine ⟨⟨same.1, fun lane member => Nat.le_of_eq (same.2 lane member)⟩, ?_⟩
    apply List.flatMap_eq_nil_iff.mpr
    intro lane member
    exact (same.1.below lane member).selfSettled (Nat.le_of_eq (same.2 lane member).symm)
  cases prepares with
  | rest lanes ready settles concluded closes =>
    refine ⟨sorted.of_lanes lanes, ?_⟩
    intro lane member
    exact sorted.nextTag (lanes ▸ member)
  | lease isLease lanes ready =>
    refine ⟨sorted.lease lanes, ?_⟩
    intro lane member
    rw [lanes, List.mem_append, List.mem_singleton] at member
    obtain member | rfl := member
    · exact sorted.nextTag member
    · have absent : b.lane? (b.lanes.length + 1) = none := by
        apply List.find?_eq_none.mpr
        intro other here
        have number : other.id ∈ b.lanes.map (·.id) := List.mem_map_of_mem here
        rw [sorted.numbers, List.mem_range'_1] at number
        simp only [beq_iff_eq]
        omega
      rw [Broker.nextTag]
      change ((b.lane? (b.lanes.length + 1)).map _).getD 1 = 1
      rw [absent]
      rfl
  | @change lane next upshot found undergoes lanes ready published autoAck settles concluded
      closes =>
    have here := List.mem_of_find?_eq_some found
    obtain ⟨below, tag⟩ := undergoes.below (sorted.below lane here)
    refine ⟨(sorted.setLane below).of_lanes lanes, ?_⟩
    intro other member
    rw [lanes] at member
    obtain rfl | member := mem_setLane member
    · rw [undergoes.id, tag]
      exact sorted.nextTag here
    · exact sorted.nextTag member

/-- What was ready or outstanding, or is published, is ready or outstanding, or is gone for good. -/
private theorem Prepares.bodies (prepares : Prepares b a m) (sorted : b.Sorted) :
    b.bodies + a.published = m.bodies + b.concluded a := by
  cases prepares with
  | rest lanes ready settles nothing closes =>
    have same : (a.published.map fun body => (⟨body, false⟩ : Ready β)).map (·.body) =
        a.published := by
      rw [List.map_map]
      exact List.map_id _
    rw [Broker.bodies, Broker.bodies, lanes, ready, nothing, List.map_append, same,
      ← Multiset.coe_add, Multiset.coe_nil]
    abel
  | lease isLease lanes ready =>
    rw [isLease, Broker.bodies, Broker.bodies, lanes, ready, List.flatMap_append]
    simp [Lane.outstandingBodies, Lane.ofId, Act.published, concluded]
  | @change lane next upshot found undergoes lanes ready published autoAck settles concluded
      closes =>
    obtain ⟨others, whole, each⟩ := sorted.flatMap_setLane found Lane.outstandingBodies
    have same : (upshot.returned.map fun body => (⟨body, true⟩ : Ready β)).map (·.body) =
        upshot.returned := by
      rw [List.map_map]
      exact List.map_id _
    rw [Broker.bodies, Broker.bodies, lanes, ready, published, concluded, whole,
      each next undergoes.id, undergoes.bodies, List.map_append, same, ← Multiset.coe_add,
      Multiset.coe_nil]
    abel

/-! ## The second part of an act -/

private theorem tally_eq (b m : Broker β) : m.bodies + b.selfSettledSince m =
    ↑(m.ready.map (·.body)) + ↑(m.lanes.flatMap Lane.outstandingBodies) +
      ↑(m.lanes.flatMap fun lane => lane.selfSettled (b.nextTag lane.id)) := rfl

/-- What is delivered is outstanding, or its channel settles it. -/
private theorem Pours.bodies (pours : Pours m m') (follows : Follows b m) : Follows b m' ∧
    m.bodies + b.selfSettledSince m = m'.bodies + b.selfSettledSince m' := by
  obtain ⟨sorted, reached⟩ := follows
  cases pours with
  | @deliver r rest lane next ready found delivered =>
    have here := List.mem_of_find?_eq_some found
    obtain ⟨below, later⟩ := (sorted.below lane here).deliver? delivered
    have number : next.id = lane.id := Lane.Change.id (.deliver delivered)
    refine ⟨⟨(sorted.setLane below).of_lanes rfl, ?_⟩, ?_⟩
    · intro other member
      obtain rfl | member := mem_setLane member
      · rw [number]
        exact Nat.le_trans (reached lane here) later
      · exact reached other member
    · obtain ⟨others, whole, each⟩ := sorted.flatMap_setLane found Lane.outstandingBodies
      obtain ⟨others', whole', each'⟩ := sorted.flatMap_setLane found
        fun other => other.selfSettled (b.nextTag other.id)
      have moved := Lane.bodies_of_deliver? delivered (reached lane here)
      have after := each next number
      have after' := each' next number
      rw [number] at after'
      rw [tally_eq b m, ready, whole, whole', tally_eq b { m.setLane next with ready := rest },
        after, after', List.map_cons, ← Multiset.cons_coe, ← Multiset.singleton_add]
      generalize (rest.map (·.body) : Multiset β) = waiting
      calc {r.body} + waiting + (lane.outstandingBodies + others) +
            (lane.selfSettled (b.nextTag lane.id) + others')
          = {r.body} + (lane.outstandingBodies + lane.selfSettled (b.nextTag lane.id)) +
            (waiting + others + others') := by abel
        _ = waiting + (next.outstandingBodies + others) +
            (next.selfSettled (b.nextTag lane.id) + others') := by
          rw [← moved]
          abel
  | @hangUp lane found =>
    have here := List.mem_of_find?_eq_some found
    obtain ⟨others, whole, each⟩ := sorted.flatMap_setLane found Lane.outstandingBodies
    obtain ⟨others', whole', each'⟩ := sorted.flatMap_setLane found
      fun other => other.selfSettled (b.nextTag other.id)
    have below : lane.hangUp.Below := sorted.below lane here
    refine ⟨⟨(sorted.setLane below).of_lanes rfl, ?_⟩, ?_⟩
    · intro other member
      obtain rfl | member := mem_setLane member
      · exact reached lane here
      · exact reached other member
    · rw [tally_eq b m, whole, whole', tally_eq b { m.setLane lane.hangUp with active := none },
        each lane.hangUp rfl, each' lane.hangUp rfl]
      rfl

private theorem bodies_of_pours (pours : ReflTransGen Pours m m') (follows : Follows b m) :
    Follows b m' ∧ m.bodies + b.selfSettledSince m = m'.bodies + b.selfSettledSince m' := by
  induction pours with
  | refl => exact ⟨follows, rfl⟩
  | tail _ step ih =>
    obtain ⟨further, same⟩ := step.bodies ih.1
    exact ⟨further, ih.2.trans same⟩

/-! ## Whole acts, and any number of them -/

/-- Every act conserves bodies. -/
theorem Sorted.apply (sorted : b.Sorted) (a : Act β) : (b.apply a).Sorted ∧
    b.bodies + a.published = (b.apply a).bodies + b.concluded a + b.selfSettled a := by
  obtain ⟨middle, last, prepares, pours, lanes, ready⟩ := course_apply b a
  obtain ⟨follows, nothing⟩ := prepares.follows sorted
  obtain ⟨further, poured⟩ := bodies_of_pours pours follows
  have bodies : (b.apply a).bodies = last.bodies := by
    rw [Broker.bodies, Broker.bodies, lanes, ready]
  have selfSettled : b.selfSettled a = b.selfSettledSince last := by
    rw [Broker.selfSettled, selfSettledSince, selfSettledSince, lanes]
  refine ⟨further.sorted.of_lanes lanes, ?_⟩
  rw [nothing, Multiset.coe_nil, add_zero] at poured
  rw [prepares.bodies sorted, poured, bodies, selfSettled]
  abel

/-- Whatever is asked of a broker, the bodies that were published are those that are ready, those
that are outstanding on any channel, those that were settled for good, and those that were delivered
on channels that settle their deliveries themselves. -/
theorem bodies_conserved (queue : String) (acts : List (Act β)) :
    (acts.flatMap Act.published : Multiset β) =
      (acts.foldl apply (ofQueue queue)).ready.map (·.body) +
      (acts.foldl apply (ofQueue queue)).lanes.flatMap (fun lane => lane.outstanding.map (·.2)) +
      Replay.gather Broker.step? concluded (ofQueue queue) acts +
      Replay.gather Broker.step? selfSettled (ofQueue queue) acts := by
  have conserved (b : Broker β) (sorted : b.Sorted) : b.bodies + acts.flatMap Act.published =
      (acts.foldl apply b).bodies + Replay.gather Broker.step? concluded b acts +
        Replay.gather Broker.step? selfSettled b acts := by
    induction acts generalizing b with
    | nil => simp [Replay.gather, Replay.transitions]
    | cons a rest ih =>
      obtain ⟨sorted', step⟩ := sorted.apply a
      have stepped : b.step? a = some (b.apply a) := rfl
      rw [Replay.gather_cons concluded rest stepped, Replay.gather_cons selfSettled rest stepped,
        List.flatMap_cons, List.foldl_cons, ← Multiset.coe_add, ← Multiset.coe_add,
        ← Multiset.coe_add, ← add_assoc, step]
      have later := ih (b.apply a) sorted'
      generalize (Replay.gather Broker.step? concluded (b.apply a) rest : Multiset β) = gone
        at later ⊢
      generalize (Replay.gather Broker.step? selfSettled (b.apply a) rest : Multiset β) = settled
        at later ⊢
      calc (b.apply a).bodies + b.concluded a + b.selfSettled a + rest.flatMap Act.published
          = (b.apply a).bodies + rest.flatMap Act.published +
              (b.concluded a + b.selfSettled a) := by
            abel
        _ = (rest.foldl apply (b.apply a)).bodies + (b.concluded a + gone) +
            (b.selfSettled a + settled) := by
          rw [later]
          abel
  have start := conserved (ofQueue queue) (sorted_ofQueue queue)
  have none : (ofQueue queue : Broker β).bodies = 0 := rfl
  rwa [none, zero_add] at start

end Broker

end Intake
