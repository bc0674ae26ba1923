import Intake.Proofs.Queue.Order

/-! # What a queue answers

A flush says how many items it has discarded, and a length how many slots are in use. Both are
right as far as they go: a flush does nothing while a reader has the right to read, even if items
have come that this reader has not taken yet, and the length is that of a queue to which somebody
may still send. When the last sender is gone the length is zero, whatever items are left to take.
-/

namespace Intake

namespace Queue

open Replay

variable {α : Type} {q q' : Queue α} {e : Event α} {capacity : Nat}

/-! ## Flushes -/

/-- A flush discards everything if nobody has the right to read, and nothing otherwise. -/
theorem flush_eq (q : Queue α) :
    q.flush.1 + q.flush.2.items.length = q.items.length ∧
      q.flush.2.items = if q.holder.isSome then q.items else [] := by
  unfold flush
  split <;> simp

/-- What readers get after a flush are the items that it kept, because somebody had the right to
read, and those that are put in later. -/
theorem removed_after_flush {later : List (Event α)}
    (ran : after? step? q.flush.2 later = some q') :
    (if q.holder.isSome then q.items else []) ++ gather step? put q.flush.2 later =
      gather step? removed q.flush.2 later ++ q'.items := by
  rw [← q.flush_eq.2]
  exact items_of_after? ran

/-- A reader waits, and an item has come that it has not taken yet. A flush counts nothing, and the
reader gets the item. -/
theorem flush_beside_reader : ∃ q : Queue Nat,
    after? step? (ofCapacity 2) [.use (.enter 1), .offer 10] = some q ∧
      q.items = [10] ∧ q.flush.1 = 0 ∧
      gather step? removed q.flush.2 [.use (.read 1)] = [10] :=
  ⟨_, rfl, rfl, rfl, rfl⟩

/-- The right to read has been handed to the next in line, and an item is there. A flush counts
nothing, and the next reader gets the item. -/
theorem flush_after_handover : ∃ q : Queue Nat,
    after? step? (ofCapacity 2)
      [.use (.enter 1), .use (.enter 2), .offer 10, .offer 20, .use (.read 1)] = some q ∧
      q.items = [20] ∧ q.flush.1 = 0 ∧
      gather step? removed q.flush.2 [.use (.read 2)] = [20] :=
  ⟨_, rfl, rfl, rfl, rfl⟩

/-! ## Lengths -/

private theorem within_ofCapacity (capacity : Nat) : (ofCapacity capacity : Queue α).Within :=
  Nat.zero_le capacity

private theorem Within.abandon (within : q.Within) : q.abandon.Within :=
  Nat.le_trans (Nat.le_add_right q.items.length q.granted.length) within

private theorem isOpen_of_push? {a : α} (pushed : q.push? a = some q') : q'.isOpen = q.isOpen := by
  simp only [push?, Option.ite_none_right_eq_some, Option.some.injEq] at pushed
  obtain ⟨_, rfl⟩ := pushed
  rfl

/-- No event puts more in use than there is, and the capacity stays. -/
theorem Within.step? (within : q.Within) (stepped : q.step? e = some q') :
    q'.Within ∧ q'.capacity = q.capacity := by
  cases e with
  | offer a =>
    simp only [Queue.step?, Option.ite_none_right_eq_some, Option.some.injEq] at stepped
    obtain ⟨_, rfl⟩ := stepped
    cases pushed : q.push? a with
    | none => exact ⟨within, rfl⟩
    | some more => exact Within.push? pushed
  | send sender a =>
    simp only [Queue.step?, Option.ite_none_right_eq_some] at stepped
    obtain ⟨_, stepped⟩ := stepped
    split at stepped
    · next granted =>
      cases stepped
      exact ⟨within.fill a granted, rfl⟩
    · split at stepped
      · cases stepped
      · cases stepped
        cases pushed : q.push? a with
        | none => exact ⟨within, rfl⟩
        | some more => exact Within.push? pushed
  | abandon =>
    cases stepped
    exact ⟨within.abandon, rfl⟩
  | use u =>
    cases stepped
    exact ⟨within.use u, (q.slots_use u).2⟩
  | discard reader =>
    simp only [Queue.step?, Option.ite_none_right_eq_some, Option.map_eq_some_iff] at stepped
    obtain ⟨_, got, popped, rfl⟩ := stepped
    have freed := Freed.pop? popped
    refine ⟨?_, freed.capacity⟩
    rw [Within, freed.capacity]
    exact Nat.le_trans freed.used_le within

private theorem within_of_after? {events : List (Event α)}
    (ran : after? step? (ofCapacity capacity) events = some q) :
    q.Within ∧ q.capacity = capacity :=
  after?_preserves (P := fun q => q.Within ∧ q.capacity = capacity)
    (fun _ _ _ held stepped => ⟨(held.1.step? stepped).1, (held.1.step? stepped).2.trans held.2⟩)
    ⟨within_ofCapacity capacity, rfl⟩ ran

/-- A queue is open until the last sender is gone. -/
theorem isOpen_step? (stepped : q.step? e = some q') :
    q'.isOpen = true ↔ q.isOpen = true ∧ e ≠ .abandon := by
  cases e with
  | offer a =>
    simp only [Queue.step?, Option.ite_none_right_eq_some, Option.some.injEq] at stepped
    obtain ⟨isOpen, rfl⟩ := stepped
    cases pushed : q.push? a with
    | none => simp [isOpen]
    | some more => simp [isOpen, isOpen_of_push? pushed]
  | send sender a =>
    simp only [Queue.step?, Option.ite_none_right_eq_some] at stepped
    obtain ⟨isOpen, stepped⟩ := stepped
    split at stepped
    · cases stepped
      simp [fill, isOpen]
    · split at stepped
      · cases stepped
      · cases stepped
        cases pushed : q.push? a with
        | none => simp [await, isOpen]
        | some more => simp [isOpen, isOpen_of_push? pushed]
  | abandon =>
    cases stepped
    simp [abandon]
  | use u =>
    cases stepped
    obtain ⟨gone, freed⟩ := q.exists_freed u
    simp [freed.isOpen]
  | discard reader =>
    simp only [Queue.step?, Option.ite_none_right_eq_some, Option.map_eq_some_iff] at stepped
    obtain ⟨_, got, popped, rfl⟩ := stepped
    simp [(Freed.pop? popped).isOpen]

private theorem isOpen_of_after? {events : List (Event α)}
    (ran : after? step? (ofCapacity capacity) events = some q) :
    q.isOpen = true ↔ .abandon ∉ events := by
  refine after?_induction (P := fun events q => q.isOpen = true ↔ .abandon ∉ events)
    (by simp [ofCapacity]) ?_ ran
  intro events middle event next reached ih stepped
  rw [isOpen_step? stepped, ih, List.mem_append, List.mem_singleton, not_or, ne_comm]

/-- As long as somebody may send, the length of a queue is how many items there are and how many
slots are granted to senders that have not put theirs in. It lies between the number of items and
the capacity, and if it is zero there is no item to take. When the last sender is gone, the length
is zero. -/
theorem length_of_after? {events : List (Event α)}
    (ran : after? step? (ofCapacity capacity) events = some q) :
    (.abandon ∉ events →
      q.length = q.items.length + q.granted.length ∧ q.items.length ≤ q.length ∧
        (q.isEmpty = true → q.take? = none)) ∧
      (.abandon ∈ events → q.length = 0) ∧ q.length ≤ capacity := by
  obtain ⟨within, same⟩ := within_of_after? ran
  have still := isOpen_of_after? ran
  refine ⟨fun stays => ?_, fun gone => ?_, ?_⟩
  · have length : q.length = q.items.length + q.granted.length := if_pos (still.mpr stays)
    refine ⟨length, by omega, fun empty => take?_eq_none_iff.mpr (.inl ?_)⟩
    have none : q.length = 0 := beq_iff_eq.mp empty
    exact List.eq_nil_of_length_eq_zero (by omega)
  · exact if_neg fun isOpen => still.mp isOpen gone
  · rw [length]
    split
    · exact same ▸ within
    · exact Nat.zero_le capacity

/-- The last sender leaves an item behind. The queue says that it is empty, and the item can be
taken. -/
theorem length_after_abandon : ∃ q rest : Queue Nat,
    after? step? (ofCapacity 2) [.offer 10, .abandon] = some q ∧
      q.items = [10] ∧ q.length = 0 ∧ q.isEmpty = true ∧ q.take? = some (10, rest) :=
  ⟨_, _, rfl, rfl, rfl, rfl, rfl⟩

end Queue

end Intake
