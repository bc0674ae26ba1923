import Intake.Proofs.Queue
import Intake.Proofs.Replay

/-! # The order of a queue

Senders and readers use a queue at the same time. A reader may give up while it waits for the right
to read, or while it has that right and waits for an item. Whatever they do, the items leave in the
order they came, each of them once, and the right to read goes to those who ask for it in turn.
-/

namespace Intake

namespace Queue

open Replay

variable {α : Type}

/-- What is done with a queue from either side. A flush, or a try to take an item, that others see
happen bit by bit is a reader that enters while nobody has the right to read, takes or discards what
it finds, and quits. -/
inductive Event (α : Type) where
  /-- Put an item in without waiting, if a slot is free. -/
  | offer (a : α)
  /-- A sender goes on: it puts its item in, or joins the line for a slot. -/
  | send (sender : Nat) (a : α)
  /-- The last sender is gone. -/
  | abandon
  | use (u : Use)
  /-- Discard the first item by the right to read, and keep the right. -/
  | discard (reader : Nat)
deriving DecidableEq, Repr

variable {q q' : Queue α} {e : Event α}

/-- A queue after an event. None if a sender, or a reader that wants to discard an item, has to
wait; nobody sends when all senders are gone. -/
def step? (q : Queue α) : Event α → Option (Queue α)
  | .offer a => if q.isOpen then some ((q.push? a).getD q) else none
  | .send sender a =>
    if q.isOpen then
      if sender ∈ q.granted then some (q.fill sender a)
      else if sender ∈ q.waiting then none
      else some ((q.push? a).getD (q.await sender))
    else none
  | .abandon => some q.abandon
  | .use u => some (q.use u)
  | .discard reader => if q.holder = some reader then q.pop?.map (·.2) else none

/-- The item that an event puts in. -/
def put (q : Queue α) : Event α → List α
  | .offer a => if (q.push? a).isSome then [a] else []
  | .send sender a => if sender ∈ q.granted ∨ (q.push? a).isSome then [a] else []
  | .abandon | .use _ | .discard _ => []

/-- The items that an event takes out: one that a reader gets, or those that are discarded. -/
def removed (q : Queue α) : Event α → List α
  | .use u => q.handed u ++ q.discarded u
  | .discard _ => q.items.head?.toList
  | .offer _ | .send _ _ | .abandon => []

/-! ## Items -/

private theorem items_offer (q : Queue α) (a : α) :
    ((q.push? a).getD q).items = q.items ++ q.put (.offer a) := by
  cases pushed : q.push? a with
  | none => simp [put, pushed]
  | some more => simp [put, pushed, items_of_push? pushed]

theorem items_send {sender : Nat} {a : α} (stepped : q.step? (.send sender a) = some q') :
    q'.items = q.items ++ q.put (.send sender a) := by
  simp only [step?, Option.ite_none_right_eq_some] at stepped
  obtain ⟨_, stepped⟩ := stepped
  split at stepped
  · next granted =>
    cases stepped
    simp [fill, put, granted]
  · next absent =>
    split at stepped
    · cases stepped
    · cases stepped
      cases pushed : q.push? a with
      | none => simp [put, pushed, absent, await]
      | some more => simp [put, pushed, items_of_push? pushed]

/-- What an event puts in comes behind the items that are there, and what it takes out are the first
of them. -/
theorem items_step? (stepped : q.step? e = some q') :
    q.items ++ q.put e = q.removed e ++ q'.items := by
  cases e with
  | offer a =>
    simp only [step?, Option.ite_none_right_eq_some, Option.some.injEq] at stepped
    rw [← stepped.2, items_offer]
    rfl
  | send sender a => exact (items_send stepped).symm
  | abandon =>
    cases stepped
    exact List.append_nil _
  | use u =>
    cases stepped
    rw [put, List.append_nil, removed, ← items_use]
  | discard reader =>
    simp only [step?, Option.ite_none_right_eq_some, Option.map_eq_some_iff] at stepped
    obtain ⟨_, ⟨a, rest⟩, popped, rfl⟩ := stepped
    simp [put, removed, items_of_pop? popped]

/-- What was put in is what was taken out, in the same order, and behind it what is there. -/
theorem items_of_after? {events : List (Event α)} (ran : after? step? q events = some q') :
    q.items ++ gather step? put q events = gather step? removed q events ++ q'.items := by
  refine after?_induction
    (P := fun events q' => q.items ++ gather step? put q events =
      gather step? removed q events ++ q'.items) (List.append_nil _) ?_ ran
  intro events middle event next reached ih stepped
  rw [gather_concat put reached stepped, gather_concat removed reached stepped,
    ← List.append_assoc, ih, List.append_assoc, items_step? stepped, List.append_assoc]

/-! ## Readers -/

/-- The reader with the right to read, and behind it those in line. -/
def readers (q : Queue α) : List Nat := q.holder.toList ++ q.line

/-- Nobody is in line for the right to read while it is free. -/
def InTurn (q : Queue α) : Prop := q.holder = none → q.line = []

/-- The calls to read that are under way after an event, in the order they began. A call begins when
its reader asks for the right to read; it ends when the reader gets an item, or gives up. -/
def callers (calls : List Nat) (t : Transition (Queue α) (Event α)) : List Nat :=
  match t.event with
  | .use (.enter reader) => calls ++ [reader]
  | .use (.quit reader) => calls.erase reader
  | .use (.read reader) => if (t.source.read? reader).isSome then calls.erase reader else calls
  | _ => calls

/-- The calls to read that a history leaves under way. -/
def underWay (q : Queue α) (events : List (Event α)) : List Nat :=
  (transitions step? q events).foldl callers []

private theorem InTurn.holder_eq (inTurn : q.InTurn) : q.holder = q.readers.head? := by
  cases held : q.holder with
  | none => rw [readers, held, inTurn held]; rfl
  | some reader => rw [readers, held]; rfl

private theorem InTurn.enter (inTurn : q.InTurn) (reader : Nat) :
    (q.enter reader).InTurn ∧ (q.enter reader).readers = q.readers ++ [reader] := by
  cases held : q.holder with
  | none => simp [InTurn, readers, Queue.enter, held, inTurn held]
  | some other => simp [InTurn, readers, Queue.enter, held]

private theorem InTurn.leave (inTurn : q.InTurn) (reader : Nat) :
    (q.leave reader).InTurn ∧ (q.leave reader).readers = q.readers.erase reader := by
  unfold Queue.leave
  split
  · next held =>
    cases line : q.line <;> simp [InTurn, readers, held, line]
  · next other =>
    cases held : q.holder with
    | none => simp [InTurn, readers, held, inTurn held]
    | some holder =>
      have differs : holder ≠ reader := fun same => other (held.trans (congrArg some same))
      simp [InTurn, readers, held, List.erase_cons_tail, differs]

/-- An event that is not about the right to read leaves the readers as they are. -/
private theorem InTurn.unmoved (inTurn : q.InTurn) (holder : q'.holder = q.holder)
    (line : q'.line = q.line) : q'.InTurn ∧ q'.readers = q.readers := by
  constructor
  · rw [InTurn, holder, line]
    exact inTurn
  · rw [readers, holder, line]
    rfl

private theorem InTurn.pop? (inTurn : q.InTurn) {a : α} (popped : q.pop? = some (a, q')) :
    q'.InTurn ∧ q'.readers = q.readers := by
  unfold Queue.pop? at popped
  split at popped
  · cases popped
  · cases popped
    exact inTurn.unmoved rfl rfl

private theorem InTurn.push? (inTurn : q.InTurn) {a : α} {more : Queue α}
    (pushed : q.push? a = some more) : more.InTurn ∧ more.readers = q.readers := by
  simp only [Queue.push?, Option.ite_none_right_eq_some, Option.some.injEq] at pushed
  obtain ⟨_, rfl⟩ := pushed
  exact inTurn.unmoved rfl rfl

private theorem InTurn.use (inTurn : q.InTurn) (u : Use) :
    (q.use u).InTurn ∧ (q.use u).readers = callers q.readers ⟨q, .use u, q.use u⟩ := by
  cases u with
  | enter reader => exact inTurn.enter reader
  | quit reader => exact inTurn.leave reader
  | flush =>
    simp only [Queue.use, flush]
    split <;> exact inTurn.unmoved rfl rfl
  | take =>
    simp only [Queue.use, take?]
    split
    · exact inTurn.unmoved rfl rfl
    · cases popped : q.pop? with
      | none => exact inTurn.unmoved rfl rfl
      | some got => exact inTurn.pop? popped
  | read reader =>
    simp only [Queue.use, callers, read?]
    split
    · cases popped : q.pop? with
      | none => exact inTurn.unmoved rfl rfl
      | some got =>
        obtain ⟨still, same⟩ := inTurn.pop? popped
        have left := still.leave reader
        rw [same] at left
        exact left
    · exact inTurn.unmoved rfl rfl

/-- After each event the readers are those whose calls are under way. -/
theorem InTurn.step? (inTurn : q.InTurn) (stepped : q.step? e = some q') :
    q'.InTurn ∧ q'.readers = callers q.readers ⟨q, e, q'⟩ := by
  cases e with
  | offer a =>
    simp only [Queue.step?, Option.ite_none_right_eq_some, Option.some.injEq] at stepped
    obtain ⟨_, rfl⟩ := stepped
    cases pushed : q.push? a with
    | none => exact inTurn.unmoved rfl rfl
    | some more => exact inTurn.push? pushed
  | send sender a =>
    simp only [Queue.step?, Option.ite_none_right_eq_some] at stepped
    obtain ⟨_, stepped⟩ := stepped
    split at stepped
    · cases stepped
      exact inTurn.unmoved rfl rfl
    · split at stepped
      · cases stepped
      · cases stepped
        cases pushed : q.push? a with
        | none => exact inTurn.unmoved rfl rfl
        | some more => exact inTurn.push? pushed
  | abandon =>
    cases stepped
    exact inTurn.unmoved rfl rfl
  | use u =>
    cases stepped
    exact inTurn.use u
  | discard reader =>
    simp only [Queue.step?, Option.ite_none_right_eq_some, Option.map_eq_some_iff] at stepped
    obtain ⟨_, got, popped, rfl⟩ := stepped
    exact inTurn.pop? popped

private theorem readers_of_after? {events : List (Event α)} (inTurn : q.InTurn)
    (none : q.readers = []) (ran : after? Queue.step? q events = some q') :
    q'.InTurn ∧ q'.readers = q.underWay events := by
  refine after?_induction (P := fun events q' => q'.InTurn ∧ q'.readers = q.underWay events)
    ⟨inTurn, none⟩ ?_ ran
  intro events middle event next reached ih stepped
  obtain ⟨still, same⟩ := ih.1.step? stepped
  refine ⟨still, ?_⟩
  rw [same, ih.2, underWay, underWay, transitions_concat reached stepped, List.foldl_append]
  rfl

/-! ## Trying to take an item -/

/-- The first item can be taken by the reader with the right to read, or else by anybody. -/
private theorem exists_obtain? {a : α} (first : a ∈ q.items.head?) :
    (∀ reader, q.holder = some reader → ∃ rest, q.read? reader = some (a, rest)) ∧
      (q.holder = none → ∃ rest, q.take? = some (a, rest)) := by
  obtain ⟨rest, items⟩ := List.head?_eq_some_iff.mp first
  have popped : q.pop? = some (a, grant { q with items := rest } 1) := by
    rw [pop?, items]
  constructor
  · intro reader held
    rw [read?, if_pos held, popped]
    exact ⟨_, rfl⟩
  · intro free
    rw [take?, free, popped]
    exact ⟨_, rfl⟩

theorem take?_eq_none_iff : q.take? = none ↔ q.items = [] ∨ ∃ reader, q.holder = some reader := by
  unfold take?
  cases held : q.holder with
  | some reader => simp
  | none => cases items : q.items <;> simp [pop?, items]

/-- Whatever senders and readers do with a queue, and also if readers give up while they wait, what
was put in is what was taken out, in the same order, and behind it what is there. The right to read
is with the call that has waited longest, and with it the first item. A try to take an item fails
only if there is none or if another call has that right. -/
theorem readers_in_order {capacity : Nat} {events : List (Event α)} {q : Queue α}
    (ran : after? step? (ofCapacity capacity) events = some q) :
    gather step? put (ofCapacity capacity) events =
        gather step? removed (ofCapacity capacity) events ++ q.items ∧
      q.readers = (ofCapacity capacity).underWay events ∧
      q.holder = ((ofCapacity capacity).underWay events).head? ∧
      (q.take? = none ↔ q.items = [] ∨ ∃ reader, q.holder = some reader) ∧
      ∀ a ∈ q.items.head?,
        (∀ reader, q.holder = some reader → ∃ rest, q.read? reader = some (a, rest)) ∧
        (q.holder = none → ∃ rest, q.take? = some (a, rest)) := by
  have conserved := items_of_after? ran
  obtain ⟨inTurn, same⟩ := readers_of_after? (fun _ => rfl) rfl ran
  refine ⟨conserved, same, ?_, take?_eq_none_iff, fun a => exists_obtain?⟩
  rw [← same]
  exact inTurn.holder_eq

/-- Three readers wait at a queue with two slots. The first and the second give up, so that the
third gets the first item; the sender that found no slot puts its item in when one has become free,
and a flush discards what is there. -/
def impatient : List (Event Nat) :=
  [.use (.enter 1), .use (.enter 2), .use (.enter 3), .use (.quit 2), .use (.quit 1), .send 1 10,
    .use .take, .use (.read 3), .offer 20, .send 2 30, .send 3 40, .offer 50, .use .take,
    .send 3 40, .use .flush, .send 4 60, .use (.enter 4), .use (.enter 5)]

theorem readers_in_order_impatient : ∃ q : Queue Nat,
    after? step? (ofCapacity 2) impatient = some q ∧
      gather step? put (ofCapacity 2) impatient = [10, 20, 30, 40, 60] ∧
      gather step? removed (ofCapacity 2) impatient = [10, 20, 30, 40] ∧
      gather step? put (ofCapacity 2) impatient =
        gather step? removed (ofCapacity 2) impatient ++ q.items ∧
      q.holder = some 4 ∧ q.take? = none ∧ ∃ rest, q.read? 4 = some (60, rest) := by
  obtain ⟨q, ran, held, items⟩ : ∃ q : Queue Nat, after? step? (ofCapacity 2) impatient = some q ∧
      q.holder = some 4 ∧ q.items = [60] := ⟨_, rfl, rfl, rfl⟩
  obtain ⟨conserved, _, _, blocked, first⟩ := readers_in_order ran
  refine ⟨q, ran, by decide +kernel, by decide +kernel, conserved, held, ?_, ?_⟩
  · exact blocked.mpr (.inr ⟨4, held⟩)
  · exact (first 60 (by rw [items]; rfl)).1 4 held

end Queue

end Intake
