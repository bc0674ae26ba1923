/-!
# Feeds

A feed carries items one way, from a sender to a listener, in the order they were sent. Either end
may be given up for good: without a sender the feed is over once it is empty, and without a
listener nothing can be sent.
-/

namespace Intake

/-- What a listener sees when it looks at a feed. -/
inductive Glance (α : Type) where
  /-- An item is there to be taken. -/
  | item (a : α)
  /-- Nothing is there yet. -/
  | quiet
  /-- Nothing will ever be there again. -/
  | over
deriving DecidableEq, Repr

/-- The items on their way, and which ends are still held. -/
structure Feed (α : Type) where
  items : List α
  sending : Bool
  listening : Bool
deriving DecidableEq, Repr

namespace Feed

variable {α : Type}

/-- A feed that was never set up. -/
def unused : Feed α := ⟨[], false, false⟩

/-- A feed with both ends held. -/
def fresh : Feed α := ⟨[], true, true⟩

/-- Send an item, if both ends are held. -/
def send? (f : Feed α) (a : α) : Option (Feed α) :=
  if f.sending ∧ f.listening then some { f with items := f.items ++ [a] } else none

/-- Send an item, if both ends are held and fewer than `room` items are on their way. -/
def sendWithin? (room : Nat) (f : Feed α) (a : α) : Option (Feed α) :=
  if f.items.length < room then f.send? a else none

/-- Give up the sending end. -/
def hangUp (f : Feed α) : Feed α := { f with sending := false }

/-- Give up the listening end; what was on its way is lost. -/
def ignore (f : Feed α) : Feed α := { f with items := [], listening := false }

def glance (f : Feed α) : Glance α :=
  match f.items with
  | a :: _ => .item a
  | [] => if f.sending then .quiet else .over

/-- The feed without its first item. -/
def drop (f : Feed α) : Feed α := { f with items := f.items.tail }

end Feed

end Intake
