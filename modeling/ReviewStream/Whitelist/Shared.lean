import ReviewStream.Whitelist.Basic

/-!
# A whitelist that is shared

A whitelist is never changed once it is made.  Whoever puts another one into use makes it first and
then lets the handle point to it; all copies of the handle share that pointer.  Whoever looks at the
whitelist in use takes the pointer along, and what it points to is there as long as it is held.

* `SharedWhitelist.snapshot`, `SharedWhitelist.whitelist?`: taking a snapshot, and looking at it.
* `SharedWhitelist.replace`, `SharedWhitelist.reload`: putting another whitelist into use.
* `SharedWhitelist.handle`: the handle with the whitelist that is in use.
-/

namespace ReviewStream

open Text (Octet)

/-- The whitelists that were made so far, and the one in use. -/
structure SharedWhitelist where
  /-- In the order in which they were made. -/
  made : List Whitelist
  /-- Points to the one that is in use. -/
  current : Nat
  current_lt : current < made.length

namespace SharedWhitelist

/-- A whitelist that is shared from now on. -/
def ofWhitelist (w : Whitelist) : SharedWhitelist := ⟨[w], 0, Nat.zero_lt_one⟩

/-- Takes a snapshot: the pointer to the whitelist in use. -/
def snapshot (s : SharedWhitelist) : Nat := s.current

/-- The whitelist that a snapshot points to. -/
def whitelist? (s : SharedWhitelist) (pointer : Nat) : Option Whitelist := s.made[pointer]?

/-- The handle with the whitelist in use. -/
def handle (s : SharedWhitelist) : WhitelistHandle := ⟨s.made.get ⟨s.current, s.current_lt⟩⟩

/-- Makes a whitelist and puts it into use. -/
def replace (s : SharedWhitelist) (w : Whitelist) : SharedWhitelist where
  made := s.made ++ [w]
  current := s.made.length
  current_lt := by rw [List.length_append]; exact Nat.lt_succ_self _

/-- Puts the whitelist of a file into use, if it can be read. -/
def reload (s : SharedWhitelist) (file : Option (List Octet)) : SharedWhitelist :=
  match Whitelist.ofFile? file with
  | .ok w => s.replace w
  | .error _ => s

/-- How the whitelist in use can change. -/
inductive Act where
  | replace (w : Whitelist)
  | reload (file : Option (List Octet))

/-- Makes one change. -/
def act (s : SharedWhitelist) : Act → SharedWhitelist
  | .replace w => s.replace w
  | .reload file => s.reload file

/-- What becomes of a shared whitelist, the earliest change first. -/
def after (s : SharedWhitelist) (acts : List Act) : SharedWhitelist := acts.foldl act s

end SharedWhitelist

/-- The same change through a handle that nobody shares. -/
def WhitelistHandle.act (h : WhitelistHandle) : SharedWhitelist.Act → WhitelistHandle
  | .replace w => h.replace w
  | .reload file => (h.reload file).2

end ReviewStream
