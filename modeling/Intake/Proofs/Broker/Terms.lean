import Intake.Proofs.Broker.Course

/-! # The terms of channels

A channel settles its deliveries itself if the last call to receive on it that succeeded asked for
this. Nothing but such a call changes it, and no channel is ever forgotten.
-/

namespace Intake

open Relation (ReflTransGen)

namespace Broker

variable {β : Type} {b b' : Broker β} {a : Act β} {id : Nat} {auto : Bool}

/-- Whether a channel settles its deliveries itself. -/
def autoAck? (b : Broker β) (id : Nat) : Option Bool := (b.lane? id).map (·.autoAck)

private theorem autoAck?_of_lanes (same : b'.lanes = b.lanes) (id : Nat) :
    b'.autoAck? id = b.autoAck? id := by
  rw [autoAck?, autoAck?, lane?, lane?, same]

/-- The channels when one has changed. -/
private theorem autoAck?_of_change {lane next : Lane β} (there : b.lane? lane.id = some lane)
    (number : next.id = lane.id) (lanes : b'.lanes = (b.setLane next).lanes) (id : Nat) :
    b'.autoAck? id = if id = lane.id then some next.autoAck else b.autoAck? id := by
  rw [autoAck?, lane?_of_change there number lanes]
  split
  · rfl
  · rfl

private theorem Pours.autoAck? (pours : Pours b b') (id : Nat) :
    b'.autoAck? id = b.autoAck? id := by
  obtain ⟨lane, next, found, number, lanes, change⟩ := pours.exists_change
  have terms : next.autoAck = lane.autoAck := by
    rcases change with ⟨r, delivered⟩ | rfl
    · rw [Lane.eq_of_deliver? delivered]
    · rfl
  rw [autoAck?_of_change found number lanes]
  split
  · next here => rw [here, Broker.autoAck?, found, Option.map_some, terms]
  · rfl

private theorem autoAck?_of_pours (pours : ReflTransGen Pours b b') (id : Nat) :
    b'.autoAck? id = b.autoAck? id := by
  induction pours with
  | refl => rfl
  | tail _ step ih => exact (step.autoAck? id).trans ih

private theorem Prepares.autoAck? (prepares : Prepares b a b') (before : b.autoAck? id = some auto)
    (others : ∀ s, a = .subscribe id s → s.terms.autoAck = auto) : b'.autoAck? id = some auto := by
  cases prepares with
  | rest lanes => rw [autoAck?_of_lanes lanes, before]
  | lease isLease lanes =>
    obtain ⟨lane, found, terms⟩ := Option.map_eq_some_iff.mp before
    have found' : b'.lane? id = some lane := by
      rw [lane?, lanes, List.find?_append, ← lane?, found, Option.some_or]
    rw [Broker.autoAck?, found', Option.map_some, terms]
  | @change lane next upshot found undergoes lanes ready published autoAck =>
    rw [autoAck?_of_change found undergoes.id lanes]
    split
    · next here =>
      rw [here, Broker.autoAck?, found, Option.map_some] at before
      rcases autoAck with kept | ⟨s, call, terms⟩
      · rw [kept, before]
      · rw [terms, others s (here ▸ call)]
    · exact before

/-- The terms of a channel stay as they are until somebody asks for others. -/
theorem autoAck?_apply (before : b.autoAck? id = some auto)
    (others : ∀ s, a = .subscribe id s → s.terms.autoAck = auto) :
    (b.apply a).autoAck? id = some auto := by
  obtain ⟨middle, last, prepares, pours, lanes, _⟩ := course_apply b a
  rw [autoAck?_of_lanes lanes, autoAck?_of_pours pours]
  exact prepares.autoAck? before others

theorem autoAck?_foldl {acts : List (Act β)} (before : b.autoAck? id = some auto)
    (others : ∀ s, .subscribe id s ∈ acts → s.terms.autoAck = auto) :
    (acts.foldl apply b).autoAck? id = some auto := by
  induction acts generalizing b with
  | nil => exact before
  | cons a rest ih =>
    apply ih
    · apply autoAck?_apply before
      rintro s rfl
      exact others s List.mem_cons_self
    · intro s later
      exact others s (List.mem_cons_of_mem _ later)

/-- A call to receive that succeeds sets the terms. -/
theorem autoAck?_subscribe {s : Subscription} (succeeded : (b.subscribe id s).1 = .ok ()) :
    (b.subscribe id s).2.autoAck? id = some s.terms.autoAck := by
  unfold subscribe at succeeded ⊢
  split at succeeded
  · cases succeeded
  · split at succeeded
    · cases succeeded
    · next receives known =>
      rw [if_neg receives, if_neg known]
      cases found : b.lane? id with
      | none => simp [found] at succeeded
      | some lane =>
        rw [found] at succeeded
        dsimp only at succeeded ⊢
        split at succeeded
        · next isOpen =>
          rw [if_pos isOpen]
          have number := id_of_lane? found
          rw [← number] at found
          let next : Lane β := { lane with
            subscriptions := lane.subscriptions ++ [s]
            autoAck := s.terms.autoAck
            deliveries := .fresh }
          let receiving : Broker β := { b.setLane next with active := some id }
          have terms : receiving.autoAck? id = some s.terms.autoAck := by
            have same : next.id = lane.id := rfl
            have lanes : receiving.lanes = (b.setLane next).lanes := rfl
            rw [autoAck?_of_change found same lanes, if_pos number.symm]
          have poured := (autoAck?_of_pours (pours_pump receiving) id).trans terms
          exact (autoAck?_of_lanes rfl id).trans poured
        · cases succeeded

private theorem length_lanes_of_pours (pours : ReflTransGen Pours b b') :
    b'.lanes.length = b.lanes.length := by
  induction pours with
  | refl => rfl
  | tail _ step ih => cases step <;> simpa [setLane] using ih

private theorem length_lanes_apply (b : Broker β) (a : Act β) :
    b.lanes.length ≤ (b.apply a).lanes.length := by
  obtain ⟨middle, last, prepares, pours, lanes, _⟩ := course_apply b a
  rw [lanes, length_lanes_of_pours pours]
  cases prepares with
  | rest lanes => exact Nat.le_of_eq (by rw [lanes])
  | lease isLease lanes => simp [lanes]
  | change found undergoes lanes => simp [lanes, setLane]

theorem length_lanes_foldl (b : Broker β) (acts : List (Act β)) :
    b.lanes.length ≤ (acts.foldl apply b).lanes.length := by
  induction acts generalizing b with
  | nil => exact Nat.le_refl _
  | cons a rest ih => exact Nat.le_trans (length_lanes_apply b a) (ih _)

end Broker

end Intake
