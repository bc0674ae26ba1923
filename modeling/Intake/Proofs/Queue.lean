import Intake.Queue

/-! # What is done with a queue from its reading side

Readers come and go, take items or discard them. Whatever they do, the items that leave a queue
are the first ones, in order.
-/

namespace Intake

namespace Queue

variable {α : Type}

/-- What is done with a queue by those who read it. Readers are known by numbers. -/
inductive Use where
  /-- Discard all items, unless somebody has the right to read. -/
  | flush
  /-- Take an item, if one is ready and nobody has the right to read. -/
  | take
  /-- Ask for the right to read. -/
  | enter (reader : Nat)
  /-- Take an item by the right to read, if one is ready. -/
  | read (reader : Nat)
  /-- Give up the right to read, or the place in line for it. -/
  | quit (reader : Nat)
deriving DecidableEq, Repr

/-- The item that a use takes, and the queue without it. -/
def obtain? (q : Queue α) : Use → Option (α × Queue α)
  | .take => q.take?
  | .read reader => q.read? reader
  | .flush | .enter _ | .quit _ => none

def use (q : Queue α) : Use → Queue α
  | .flush => q.flush.2
  | .take => (q.take?.map (·.2)).getD q
  | .enter reader => q.enter reader
  | .read reader => ((q.read? reader).map (·.2)).getD q
  | .quit reader => q.leave reader

/-- The item that a reader gets. -/
def handed (q : Queue α) (u : Use) : List α := ((q.obtain? u).map (·.1)).toList

/-- The items that are discarded, as many as are counted. -/
def discarded (q : Queue α) : Use → List α
  | .flush => q.items.take q.flush.1
  | .take | .enter _ | .read _ | .quit _ => []

@[simp] theorem items_grant (q : Queue α) (slots : Nat) : (q.grant slots).items = q.items := rfl

@[simp] theorem items_leave (q : Queue α) (reader : Nat) : (q.leave reader).items = q.items := by
  unfold leave
  split <;> rfl

@[simp] theorem items_enter (q : Queue α) (reader : Nat) : (q.enter reader).items = q.items := by
  unfold enter
  split <;> rfl

theorem items_of_push? {q more : Queue α} {a : α} (pushed : q.push? a = some more) :
    more.items = q.items ++ [a] := by
  unfold push? at pushed
  split at pushed
  · cases pushed
    rfl
  · cases pushed

theorem items_of_pop? {q rest : Queue α} {a : α} (popped : q.pop? = some (a, rest)) :
    q.items = a :: rest.items := by
  unfold pop? at popped
  split at popped
  · cases popped
  · next same =>
    cases popped
    exact same

private theorem items_of_take? {q rest : Queue α} {a : α} (taken : q.take? = some (a, rest)) :
    q.items = a :: rest.items := by
  unfold take? at taken
  split at taken
  · cases taken
  · exact items_of_pop? taken

private theorem items_of_read? {q rest : Queue α} {a : α} {reader : Nat}
    (taken : q.read? reader = some (a, rest)) : q.items = a :: rest.items := by
  unfold read? at taken
  split at taken
  · obtain ⟨⟨b, popped⟩, left, same⟩ := Option.map_eq_some_iff.mp taken
    cases same
    rw [items_leave]
    exact items_of_pop? left
  · cases taken

private theorem items_flush (q : Queue α) :
    q.items = q.items.take q.flush.1 ++ q.flush.2.items := by
  unfold flush
  split <;> simp

/-- The items of a queue are those that a use hands out or discards, and behind them those that
stay. -/
theorem items_use (q : Queue α) (u : Use) :
    q.items = q.handed u ++ q.discarded u ++ (q.use u).items := by
  cases u with
  | flush => exact q.items_flush
  | take =>
    cases taken : q.take? with
    | none => simp [handed, obtain?, discarded, use, taken]
    | some got => simpa [handed, obtain?, discarded, use, taken] using items_of_take? taken
  | enter reader => exact (q.items_enter reader).symm
  | read reader =>
    cases taken : q.read? reader with
    | none => simp [handed, obtain?, discarded, use, taken]
    | some got => simpa [handed, obtain?, discarded, use, taken] using items_of_read? taken
  | quit reader => exact (q.items_leave reader).symm

theorem items_suffix_use (q : Queue α) (u : Use) : (q.use u).items <:+ q.items :=
  ⟨_, (q.items_use u).symm⟩

/-! ## Slots that become free -/

/-- The senders with a slot that is still empty, and behind them those in line for one. -/
def senders (q : Queue α) : List Nat := q.granted ++ q.waiting

/-- The first items of a queue have gone, and as many senders in line have got their slots. -/
structure Freed (q : Queue α) (gone : Nat) (q' : Queue α) : Prop where
  fewer : gone ≤ q.items.length
  items : q'.items = q.items.drop gone
  granted : q'.granted = q.granted ++ q.waiting.take gone
  waiting : q'.waiting = q.waiting.drop gone
  capacity : q'.capacity = q.capacity
  isOpen : q'.isOpen = q.isOpen

namespace Freed

variable {q q' : Queue α} {gone : Nat}

private theorem none (q : Queue α) : q.Freed 0 q :=
  ⟨Nat.zero_le _, rfl, (List.append_nil _).symm, rfl, rfl, rfl⟩

theorem pop? {a : α} (popped : q.pop? = some (a, q')) : q.Freed 1 q' := by
  unfold Queue.pop? at popped
  split at popped
  · cases popped
  · next items =>
    cases popped
    exact ⟨by simp [items], by simp [items], rfl, rfl, rfl, rfl⟩

private theorem flush (q : Queue α) : ∃ gone, q.Freed gone q.flush.2 := by
  unfold Queue.flush
  split
  · exact ⟨0, none q⟩
  · exact ⟨q.items.length, Nat.le_refl _, List.drop_length.symm, rfl, rfl, rfl, rfl⟩

private theorem enter (q : Queue α) (reader : Nat) : q.Freed 0 (q.enter reader) := by
  unfold Queue.enter
  split <;> exact ⟨Nat.zero_le _, rfl, (List.append_nil _).symm, rfl, rfl, rfl⟩

private theorem leave (freed : q.Freed gone q') (reader : Nat) :
    q.Freed gone (q'.leave reader) := by
  unfold Queue.leave
  split <;>
    exact ⟨freed.fewer, freed.items, freed.granted, freed.waiting, freed.capacity, freed.isOpen⟩

theorem senders (freed : q.Freed gone q') : q'.senders = q.senders := by
  rw [Queue.senders, freed.granted, freed.waiting, List.append_assoc, List.take_append_drop]
  rfl

/-- As long as somebody is still in line, each slot that became free was granted. -/
private theorem used (freed : q.Freed gone q') (waits : q'.waiting ≠ []) : q'.used = q.used := by
  have fewer := freed.fewer
  rw [freed.waiting, ne_eq, List.drop_eq_nil_iff] at waits
  simp only [Queue.used, freed.items, freed.granted, List.length_drop, List.length_append,
    List.length_take]
  omega

/-- A slot that became free was granted at most once. -/
theorem used_le (freed : q.Freed gone q') : q'.used ≤ q.used := by
  have fewer := freed.fewer
  simp only [Queue.used, freed.items, freed.granted, List.length_drop, List.length_append,
    List.length_take]
  omega

end Freed

/-- Whatever is done from the reading side, some of the first items go. -/
theorem exists_freed (q : Queue α) (u : Use) : ∃ gone, q.Freed gone (q.use u) := by
  cases u with
  | flush => exact Freed.flush q
  | take =>
    simp only [use, take?]
    split
    · exact ⟨0, .none q⟩
    · cases popped : q.pop? with
      | none => exact ⟨0, .none q⟩
      | some got => exact ⟨1, .pop? popped⟩
  | enter reader => exact ⟨0, .enter q reader⟩
  | read reader =>
    simp only [use, read?]
    split
    · cases popped : q.pop? with
      | none => exact ⟨0, .none q⟩
      | some got => exact ⟨1, (Freed.pop? popped).leave reader⟩
    · exact ⟨0, .none q⟩
  | quit reader => exact ⟨0, (Freed.none q).leave reader⟩

/-! ## Slots -/

/-- No more slots are in use than there are. -/
def Within (q : Queue α) : Prop := q.used ≤ q.capacity

/-- Whoever uses a queue from its reading side takes no slots. -/
theorem slots_use (q : Queue α) (u : Use) :
    (q.use u).used ≤ q.used ∧ (q.use u).capacity = q.capacity := by
  obtain ⟨gone, freed⟩ := q.exists_freed u
  exact ⟨freed.used_le, freed.capacity⟩

theorem Within.use {q : Queue α} (within : q.Within) (u : Use) : (q.use u).Within := by
  obtain ⟨fewer, same⟩ := q.slots_use u
  unfold Within at within ⊢
  omega

/-- A slot that was granted is filled, so that as many are in use as before. -/
theorem Within.fill {q : Queue α} (within : q.Within) {sender : Nat} (a : α)
    (granted : sender ∈ q.granted) : (q.fill sender a).Within := by
  have fewer := List.length_erase_of_mem granted
  have some := List.length_pos_of_mem granted
  simp only [Within, used, Queue.fill, List.length_append, List.length_singleton] at within ⊢
  omega

theorem Within.push? {q more : Queue α} {a : α} (pushed : q.push? a = some more) :
    more.Within ∧ more.capacity = q.capacity := by
  unfold Queue.push? at pushed
  split at pushed
  · next room =>
    cases pushed
    refine ⟨?_, rfl⟩
    simp only [Within, used, List.length_append, List.length_singleton] at room ⊢
    omega
  · cases pushed

/-! ## Senders -/

/-- Whoever waits for a slot waits because all slots are in use. Each sender has one place, and all
of them are known. -/
structure Tended (q : Queue α) (known : List Nat) : Prop where
  isOpen : q.isOpen = true
  full : q.waiting ≠ [] → q.used = q.capacity
  once : q.senders.Nodup
  known : q.senders ⊆ known

namespace Tended

variable {q : Queue α} {known : List Nat}

theorem ofCapacity (capacity : Nat) (known : List Nat) :
    (Queue.ofCapacity capacity : Queue α).Tended known :=
  ⟨rfl, fun waits => absurd rfl waits, List.nodup_nil, List.nil_subset _⟩

theorem mono {more : List Nat} (tended : q.Tended known) (fewer : known ⊆ more) :
    q.Tended more :=
  ⟨tended.isOpen, tended.full, tended.once, List.Subset.trans tended.known fewer⟩

/-- A slot that becomes free goes to the next in line, so that none stays free while anybody
waits. -/
theorem use (tended : q.Tended known) (u : Use) : (q.use u).Tended known := by
  obtain ⟨gone, freed⟩ := q.exists_freed u
  constructor
  · exact freed.isOpen.trans tended.isOpen
  · intro waits
    rw [freed.used waits, freed.capacity]
    apply tended.full
    rintro none
    rw [freed.waiting, none, List.drop_nil] at waits
    exact waits rfl
  · rw [freed.senders]
    exact tended.once
  · rw [freed.senders]
    exact tended.known

/-- A sender that puts its item in its slot is gone from the queue. -/
theorem fill {sender : Nat} (tended : q.Tended known) (a : α) (granted : sender ∈ q.granted) :
    (q.fill sender a).Tended (known.filter (· != sender)) := by
  have once := tended.once
  have fewer := List.length_erase_of_mem granted
  have some := List.length_pos_of_mem granted
  have senders : (q.fill sender a).senders = q.senders.erase sender :=
    (List.erase_append_left _ granted).symm
  refine ⟨tended.isOpen, ?_, ?_, ?_⟩
  · intro waits
    have full := tended.full waits
    simp only [used, Queue.fill, List.length_append, List.length_singleton] at full ⊢
    omega
  · rw [senders]
    exact once.erase _
  · intro other member
    rw [senders, once.mem_erase_iff] at member
    exact List.mem_filter.mpr ⟨tended.known member.2, by simpa using member.1⟩

/-- A sender that finds a slot free does not come into line. -/
theorem push? {sender : Nat} {more : Queue α} {a : α} (tended : q.Tended known)
    (pushed : q.push? a = some more) (absent : sender ∉ q.senders) :
    more.Tended (known.filter (· != sender)) := by
  simp only [Queue.push?, Option.ite_none_right_eq_some, Option.some.injEq] at pushed
  obtain ⟨room, rfl⟩ := pushed
  refine ⟨tended.isOpen, ?_, tended.once, ?_⟩
  · intro waits
    have full := tended.full waits
    omega
  · intro other member
    refine List.mem_filter.mpr ⟨tended.known member, ?_⟩
    rw [bne_iff_ne]
    rintro rfl
    exact absent member

/-- A sender joins the line only when all slots are in use. -/
theorem await {sender : Nat} {a : α} (tended : q.Tended known) (within : q.Within)
    (full : q.push? a = none) (absent : sender ∉ q.senders) (member : sender ∈ known) :
    (q.await sender).Tended known := by
  have senders : (q.await sender).senders = q.senders ++ [sender] :=
    (List.append_assoc _ _ _).symm
  simp only [Queue.push?, ite_eq_right_iff, reduceCtorEq, imp_false, Nat.not_lt] at full
  refine ⟨tended.isOpen, fun _ => Nat.le_antisymm within full, ?_, ?_⟩
  · rw [senders]
    apply List.nodup_append.mpr
    refine ⟨tended.once, List.pairwise_singleton _ _, ?_⟩
    rintro other here last there rfl
    exact absent (List.mem_singleton.mp there ▸ here)
  · rw [senders]
    apply List.append_subset.mpr
    refine ⟨tended.known, ?_⟩
    rintro other here
    exact List.mem_singleton.mp here ▸ member

/-- What is queued from outside the line changes nothing for those in it. -/
theorem items (tended : q.Tended []) (items : List α) : Tended { q with items } [] := by
  have none : q.senders = [] := List.subset_nil.mp tended.known
  refine ⟨tended.isOpen, fun waits => absurd ?_ waits, tended.once, tended.known⟩
  exact (List.append_eq_nil_iff.mp none).2

/-- An open queue that is empty and that nobody waits at is as it was at first. -/
theorem eq_ofCapacity (tended : q.Tended []) (items : q.items = []) (holder : q.holder = none)
    (line : q.line = []) : q = .ofCapacity q.capacity := by
  have none : q.senders = [] := List.subset_nil.mp tended.known
  obtain ⟨granted, waiting⟩ := List.append_eq_nil_iff.mp none
  have isOpen := tended.isOpen
  obtain ⟨capacity, _, _, _, _, _, _⟩ := q
  subst items granted waiting holder line isOpen
  rfl

end Tended

end Queue

end Intake
