/-!
# Sets of listeners

Listeners are told apart by their identity, not by their value: two of them with equal values are
two members.  The set keeps the order in which its members were added.

* `ListenerSet.add`, `remove`, `removeAll`, `contains`: the operations, each with its answer.
* `ListenerSet.snapshot`: the members at one moment; later changes do not reach it.
-/

namespace ReviewStream

/-- A value with an identity of its own. -/
structure Instance (α : Type) where
  id : String
  value : α
deriving DecidableEq

/-- The members of a set of listeners, the latest added one last. -/
structure ListenerSet (α : Type) where
  members : List (Instance α)

namespace ListenerSet

variable {α : Type}

/-- The set without members. -/
def empty : ListenerSet α := ⟨[]⟩

/-- How many members the set has. -/
def size (s : ListenerSet α) : Nat := s.members.length

/-- Whether the set has no member. -/
def isEmpty (s : ListenerSet α) : Bool := s.members.isEmpty

/-- Whether an identity belongs to a member. -/
def contains (s : ListenerSet α) (id : String) : Bool := s.members.any (·.id == id)

/-- The members at this moment. -/
def snapshot (s : ListenerSet α) : List (Instance α) := s.members

/-- The values of the members, in order. -/
def values (s : ListenerSet α) : List α := s.members.map (·.value)

/-- Appends an instance that is no member yet; tells whether it did. -/
def add (s : ListenerSet α) (x : Instance α) : Bool × ListenerSet α :=
  if s.contains x.id then (false, s) else (true, ⟨s.members ++ [x]⟩)

/-- Takes out the member with an identity; tells whether there was one. -/
def remove (s : ListenerSet α) (id : String) : Bool × ListenerSet α :=
  if s.contains id then (true, ⟨s.members.eraseP (·.id == id)⟩) else (false, s)

/-- Takes out all members and gives them, in order. -/
def removeAll (s : ListenerSet α) : List (Instance α) × ListenerSet α :=
  (s.members, empty)

end ListenerSet

end ReviewStream
