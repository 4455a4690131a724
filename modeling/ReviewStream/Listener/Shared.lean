import ReviewStream.Listener.Set

/-!
# Sets of listeners that are shared

A list of listeners is never changed once it is made.  Whoever adds or removes listeners takes a
lock, loads the pointer to the list in use, makes another list and stores the pointer to that one.
Readers take no lock: they load the pointer at any moment and take it along, and what it points to
is there as long as it is held.

* `SharedListeners`: the lists that were made, the one in use, and the calls that were answered.
* `SharedListeners.advance`: what the writer that has the lock does next.
* `SharedListeners.after`: what becomes of a set under calls of several tasks.
* `ListenerSet.write`: the same calls on a set that nobody shares.
-/

namespace ReviewStream

variable {α : Type}

/-- A call that may change a set of listeners. -/
inductive ListenerWrite (α : Type) where
  | add (x : Instance α)
  | remove (id : String)
  | removeAll

/-- A writer that has the lock, with the pointer that it has loaded, if it has. -/
inductive ListenerWriter (α : Type) where
  | adding (x : Instance α) (loaded : Option Nat)
  | removing (id : String) (loaded : Option Nat)
  /-- Loads and stores at once. -/
  | clearing
  /-- Has its answer. -/
  | leaving

/-- A call with its answer. -/
inductive ListenerDeed (α : Type) where
  | added (x : Instance α) (done : Bool)
  | removed (id : String) (done : Bool)
  | cleared (members : List (Instance α))
  | asked (id : String) (found : Bool)
  /-- A snapshot: the pointer to the list in use. -/
  | taken (pointer : Nat)

/-- A set of listeners that several tasks share. -/
structure SharedListeners (α : Type) where
  /-- The lists, in the order in which they were made. -/
  made : List (ListenerSet α)
  /-- Points to the list in use. -/
  current : Nat
  current_lt : current < made.length
  /-- Has the lock. -/
  writer : Option (ListenerWriter α)
  /-- The calls, in the order in which they were answered. -/
  log : List (ListenerDeed α)

namespace SharedListeners

/-- The set without members. -/
def empty : SharedListeners α := ⟨[.empty], 0, Nat.zero_lt_one, none, []⟩

/-- The list in use. -/
def inUse (s : SharedListeners α) : ListenerSet α := s.made.get ⟨s.current, s.current_lt⟩

/-- The list that a pointer points to. -/
def listAt (s : SharedListeners α) (pointer : Nat) : ListenerSet α := s.made.getD pointer .empty

/-- Takes down an answer. -/
def note (s : SharedListeners α) (deed : ListenerDeed α) : SharedListeners α :=
  { s with log := s.log ++ [deed] }

/-- Makes a list and stores the pointer to it. -/
def store (s : SharedListeners α) (l : ListenerSet α) : SharedListeners α :=
  { s with
    made := s.made ++ [l]
    current := s.made.length
    current_lt := by rw [List.length_append]; exact Nat.lt_succ_self _ }

/-! ## Writers -/

/-- The writer has its answer. -/
def finish (s : SharedListeners α) (deed : ListenerDeed α) : SharedListeners α :=
  { s.note deed with writer := some .leaving }

/-- The writer stores another list if there is something to change. -/
def settle (s : SharedListeners α) (outcome : Bool × ListenerSet α)
    (deed : Bool → ListenerDeed α) : SharedListeners α :=
  if outcome.1 then (s.store outcome.2).finish (deed true) else s.finish (deed false)

/-- What the writer that has the lock does next. -/
def advance (s : SharedListeners α) : SharedListeners α :=
  match s.writer with
  | none => s
  | some (.adding x none) => { s with writer := some (.adding x (some s.current)) }
  | some (.removing id none) => { s with writer := some (.removing id (some s.current)) }
  | some (.adding x (some loaded)) => s.settle ((s.listAt loaded).add x) (.added x)
  | some (.removing id (some loaded)) => s.settle ((s.listAt loaded).remove id) (.removed id)
  | some .clearing => (s.store s.inUse.removeAll.2).finish (.cleared s.inUse.removeAll.1)
  | some .leaving => { s with writer := none }

/-- A writer that has just got the lock. -/
def writerOf : ListenerWrite α → ListenerWriter α
  | .add x => .adding x none
  | .remove id => .removing id none
  | .removeAll => .clearing

/-- A call gets the lock unless another one has it. -/
def enter (s : SharedListeners α) (w : ListenerWrite α) : SharedListeners α :=
  match s.writer with
  | none => { s with writer := some (writerOf w) }
  | some _ => s

/-! ## Several tasks -/

/-- What a task can do at any moment. -/
inductive Act (α : Type) where
  /-- Begins to write; waits for its turn while another task writes. -/
  | enter (w : ListenerWrite α)
  /-- Goes on writing. -/
  | advance
  /-- Asks whether an instance is a member of the list in use. -/
  | ask (id : String)
  /-- Takes a snapshot. -/
  | take

/-- Does one thing. -/
def act (s : SharedListeners α) : Act α → SharedListeners α
  | .enter w => s.enter w
  | .advance => s.advance
  | .ask id => s.note (.asked id (s.inUse.contains id))
  | .take => s.note (.taken s.current)

/-- What becomes of a set, the earliest act first. -/
def after (s : SharedListeners α) (acts : List (Act α)) : SharedListeners α := acts.foldl act s

end SharedListeners

/-- The same call on a set that nobody shares. -/
def ListenerSet.write (l : ListenerSet α) : ListenerWrite α → ListenerDeed α × ListenerSet α
  | .add x => (.added x (l.add x).1, (l.add x).2)
  | .remove id => (.removed id (l.remove id).1, (l.remove id).2)
  | .removeAll => (.cleared l.removeAll.1, l.removeAll.2)

end ReviewStream
