/-!
# Bounded queues with many readers

Items leave in the order they came. A sender that finds the queue full waits in line; a slot that
becomes free is granted to the first in line and stays its own until it puts its item in. Readers
take turns: one holds the right to read, the others wait in line for it. Senders and readers are
known by numbers.
-/

namespace Intake

structure Queue (α : Type) where
  capacity : Nat
  items : List α
  /-- The senders with a slot that is still empty. -/
  granted : List Nat
  /-- The senders in line for a slot. -/
  waiting : List Nat
  /-- The reader with the right to read. -/
  holder : Option Nat
  /-- The readers in line for the right to read. -/
  line : List Nat
  /-- Somebody may still send. -/
  isOpen : Bool
deriving DecidableEq, Repr

namespace Queue

variable {α : Type}

def ofCapacity (capacity : Nat) : Queue α := ⟨capacity, [], [], [], none, [], true⟩

/-- The slots in use: by items and by senders whose slot is still empty. -/
def used (q : Queue α) : Nat := q.items.length + q.granted.length

/-- The length as readers see it: the slots in use while somebody may still send. -/
def length (q : Queue α) : Nat := if q.isOpen then q.used else 0

def isEmpty (q : Queue α) : Bool := q.length == 0

/-! ## Sending -/

/-- Put an item in without waiting, if a slot is free. -/
def push? (q : Queue α) (a : α) : Option (Queue α) :=
  if q.used < q.capacity then some { q with items := q.items ++ [a] } else none

/-- Put an item in the slot that was granted to a sender. -/
def fill (q : Queue α) (sender : Nat) (a : α) : Queue α :=
  { q with granted := q.granted.erase sender, items := q.items ++ [a] }

/-- Join the line for a slot. -/
def await (q : Queue α) (sender : Nat) : Queue α := { q with waiting := q.waiting ++ [sender] }

/-- Grant free slots to the first senders in line. -/
def grant (q : Queue α) (slots : Nat) : Queue α :=
  { q with granted := q.granted ++ q.waiting.take slots, waiting := q.waiting.drop slots }

/-- Nobody may send any more; those in line are gone. -/
def abandon (q : Queue α) : Queue α := { q with granted := [], waiting := [], isOpen := false }

/-! ## Reading -/

/-- The first item, whose slot is granted anew. -/
def pop? (q : Queue α) : Option (α × Queue α) :=
  match q.items with
  | [] => none
  | a :: rest => some (a, grant { q with items := rest } 1)

/-- The first item, if nobody holds the right to read. -/
def take? (q : Queue α) : Option (α × Queue α) := if q.holder.isSome then none else q.pop?

/-- Discard all items, if nobody holds the right to read; how many there were. -/
def flush (q : Queue α) : Nat × Queue α :=
  if q.holder.isSome then (0, q)
  else (q.items.length, grant { q with items := [] } q.items.length)

/-- Ask for the right to read. -/
def enter (q : Queue α) (reader : Nat) : Queue α :=
  match q.holder with
  | none => { q with holder := some reader }
  | some _ => { q with line := q.line ++ [reader] }

/-- Give up the right to read, which goes to the next in line, or the place in line. -/
def leave (q : Queue α) (reader : Nat) : Queue α :=
  if q.holder = some reader then { q with holder := q.line.head?, line := q.line.tail }
  else { q with line := q.line.erase reader }

/-- The first item for the reader that holds the right to read, which it then gives up. -/
def read? (q : Queue α) (reader : Nat) : Option (α × Queue α) :=
  if q.holder = some reader then q.pop?.map fun (a, q) => (a, q.leave reader) else none

end Queue

end Intake
