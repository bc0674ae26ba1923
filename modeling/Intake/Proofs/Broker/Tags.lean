import Intake.Proofs.Broker.Evolution
import Mathlib.Data.List.Basic

/-! # Delivery tags

The tags on the feed of a channel rise, and the next tag lies above them all. So a tag that was
once taken off the feed never comes up on its channel again, whatever happens to the channel.
`Broker.Tagged` carries this over to all channels: a delivery is known by the number of its channel
and its tag.
-/

namespace Intake

namespace Lane

variable {β : Type} {lane next : Lane β}

/-- The tags that may still come up: those on the feed, and the next one. -/
def coming (lane : Lane β) : List Nat := lane.deliveries.items.map (·.tag) ++ [lane.nextTag]

/-- The tags come up in rising order. -/
def Rising (lane : Lane β) : Prop := lane.coming.Pairwise (· < ·)

/-- All tags that may still come up lie above a tag. -/
def Beyond (lane : Lane β) (tag : Nat) : Prop := ∀ other ∈ lane.coming, tag < other

/-- A change takes tags away, or makes the next tag one more. -/
private theorem Change.coming (change : lane.Change next) :
    next.coming.Sublist lane.coming ∨ next.coming = lane.coming ++ [lane.nextTag + 1] := by
  have cleared : [lane.nextTag].Sublist lane.coming := List.sublist_append_right _ _
  cases change with
  | deliver delivered =>
    right
    rw [eq_of_deliver? delivered]
    simp [Lane.coming]
  | settle settled =>
    left
    rw [eq_of_settle settled]
    exact List.Sublist.refl _
  | subscribe => exact .inl cleared
  | dropStream => exact .inl cleared
  | take =>
    left
    exact ((List.tail_sublist _).map _).append_right _
  | hangUp => exact .inl (List.Sublist.refl _)
  | close => exact .inl (List.Sublist.refl _)
  | limit => exact .inl (List.Sublist.refl _)
  | takeNotice => exact .inl (List.Sublist.refl _)
  | dropNotices => exact .inl (List.Sublist.refl _)

private theorem Rising.le_nextTag (rising : lane.Rising) :
    ∀ tag ∈ lane.coming, tag ≤ lane.nextTag := by
  intro tag member
  obtain member | last := List.mem_append.mp member
  · have below := (List.pairwise_append.mp rising).2.2 tag member lane.nextTag (by simp)
    omega
  · exact Nat.le_of_eq (List.mem_singleton.mp last)

private theorem Rising.change (rising : lane.Rising) (change : lane.Change next) : next.Rising := by
  obtain fewer | same := change.coming
  · exact rising.sublist fewer
  · rw [Rising, same]
    apply List.pairwise_append.mpr
    refine ⟨rising, List.pairwise_singleton _ _, ?_⟩
    intro tag member last single
    have below := rising.le_nextTag tag member
    rw [List.mem_singleton.mp single]
    omega

private theorem Beyond.change {tag : Nat} (beyond : lane.Beyond tag) (change : lane.Change next) :
    next.Beyond tag := by
  intro other member
  obtain fewer | same := change.coming
  · exact beyond other (fewer.subset member)
  · rw [same, List.mem_append, List.mem_singleton] at member
    obtain member | rfl := member
    · exact beyond other member
    · have below := beyond lane.nextTag (by simp [Lane.coming])
      omega

private theorem Rising.course (rising : lane.Rising) (course : lane.Course next) : next.Rising := by
  induction course with
  | refl => exact rising
  | tail _ change ih => exact ih.change change

private theorem Beyond.course {tag : Nat} (beyond : lane.Beyond tag) (course : lane.Course next) :
    next.Beyond tag := by
  induction course with
  | refl => exact beyond
  | tail _ change ih => exact ih.change change

private theorem rising_ofId (id : Nat) : (ofId id : Lane β).Rising := List.pairwise_singleton _ _

/-- What is taken off the feed lies below all that may still come up. -/
private theorem Rising.beyond_take (rising : lane.Rising) {d : Delivery β}
    {rest : List (Delivery β)} (items : lane.deliveries.items = d :: rest) :
    Beyond { lane with deliveries := lane.deliveries.drop } d.tag := by
  rw [Rising, Lane.coming, items] at rising
  intro other member
  rw [Lane.coming, Feed.drop, items] at member
  exact (List.pairwise_cons.mp rising).1 other member

end Lane

namespace Broker

variable {β : Type} {b b' : Broker β} {spent spent' : List (Nat × Nat)}

/-- Deliveries were taken off feeds of the broker, each known by its channel and its tag: no two of
them are the same, and none can come up again. -/
structure Tagged (b : Broker β) (spent : List (Nat × Nat)) : Prop where
  rising : ∀ id lane, b.lane? id = some lane → lane.Rising
  beyond : ∀ s ∈ spent, ∃ lane, b.lane? s.1 = some lane ∧ lane.Beyond s.2
  once : spent.Nodup

namespace Tagged

theorem ofQueue (queue : String) : (ofQueue queue : Broker β).Tagged [] where
  rising := nofun
  beyond := nofun
  once := List.nodup_nil

theorem evolves (tagged : b.Tagged spent) (evolves : Evolves b b') : b'.Tagged spent where
  rising id lane found := by
    cases found' : b.lane? id with
    | none => exact (Lane.rising_ofId id).course (evolves.new id lane found' found)
    | some earlier =>
      obtain ⟨later, found'', course⟩ := evolves.old id earlier found'
      cases found.symm.trans found''
      exact (tagged.rising id earlier found').course course
  beyond s member := by
    obtain ⟨lane, found, beyond⟩ := tagged.beyond s member
    obtain ⟨next, found', course⟩ := evolves.old s.1 lane found
    exact ⟨next, found', beyond.course course⟩
  once := tagged.once

/-- It does not matter in which order deliveries were taken, and some may be left out. -/
theorem subperm (tagged : b.Tagged spent) (fewer : spent'.Subperm spent) : b.Tagged spent' := by
  obtain ⟨middle, same, sublist⟩ := fewer
  refine ⟨tagged.rising, ?_, same.nodup_iff.mp (tagged.once.sublist sublist)⟩
  intro s member
  exact tagged.beyond s (sublist.subset (same.mem_iff.mpr member))

theorem take (tagged : b.Tagged spent) {id : Nat} {lane : Lane β} {d : Delivery β}
    {rest : List (Delivery β)} (found : b.lane? id = some lane)
    (items : lane.deliveries.items = d :: rest) :
    (b.setLane { lane with deliveries := lane.deliveries.drop }).Tagged ((id, d.tag) :: spent) := by
  have after := tagged.evolves (Evolves.setLane found .take)
  refine ⟨after.rising, ?_, ?_⟩
  · intro s member
    obtain rfl | member := List.mem_cons.mp member
    · refine ⟨_, ?_, (tagged.rising id lane found).beyond_take items⟩
      rw [lane?_setLane, if_pos (id_of_lane? found).symm, found, Option.map_some]
    · exact after.beyond s member
  · refine List.nodup_cons.mpr ⟨?_, tagged.once⟩
    intro known
    obtain ⟨lane', found', beyond⟩ := tagged.beyond _ known
    cases found.symm.trans found'
    have below := beyond d.tag (by simp [Lane.coming, items])
    omega

end Tagged

end Broker

end Intake
