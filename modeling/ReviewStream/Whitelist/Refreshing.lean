import ReviewStream.Whitelist.Refresh

/-!
# A whitelist with several refreshes

Every call that follows the settings of the whitelist starts a task of its own, if the settings have
a location, and then aborts the task that it finds noted.  All tasks reload the same whitelist, and
they run beside each other and beside the call.  An abort takes hold of a task only between two of
its turns: one that is in the middle of a reload still puts into use what it has read.

* `RefreshTask.step`: what a task does next.
* `Refreshing`: the whitelist, the files, the tasks and the call that is under way.
* `Refreshing.step`, `Refreshing.run`: what can happen, in whatever order, and the reloads that
  come to their end.

When a task has a turn is left open, so that every way to share the time is among the orders.
-/

namespace ReviewStream

open Text (Octet)

/-! ## Tasks -/

/-- How far a task is. -/
inductive RefreshTask.Phase where
  /-- It has no turn. -/
  | waiting
  /-- It has its turn and is between two reloads. -/
  | running
  /-- It is in a reload and has read the file, which may be absent. -/
  | holding (content : Option (List Octet))
  | ended
deriving DecidableEq

/-- A task that reloads the whitelist from a file again and again. -/
structure RefreshTask where
  location : String
  phase : RefreshTask.Phase
  aborted : Bool
deriving DecidableEq

/-- What a task can do. -/
inductive RefreshTask.Act where
  /-- Has its turn; one that is aborted ends instead. -/
  | wake
  /-- Begins a reload: reads the file. -/
  | read
  /-- Puts what was read into use. -/
  | store
  /-- Is over with its turn; one that is aborted ends. -/
  | rest
deriving DecidableEq

namespace RefreshTask

/-- A task that has just been started. -/
def ofLocation (location : String) : RefreshTask := ⟨location, .waiting, false⟩

/-- Asks a task to end. -/
def abort (t : RefreshTask) : RefreshTask := { t with aborted := true }

/-- Lets a task do something, if it can. -/
def step (files : Files) (t : RefreshTask) (a : Act) : Option RefreshTask :=
  match a, t.phase with
  | .wake, .waiting => some { t with phase := if t.aborted then .ended else .running }
  | .read, .running => some { t with phase := .holding (files t.location) }
  | .store, .holding _ => some { t with phase := .running }
  | .rest, .running => some { t with phase := if t.aborted then .ended else .waiting }
  | _, _ => none

/-- What a task puts into use when it does something. -/
def stored (t : RefreshTask) (a : Act) : List (Option (List Octet)) :=
  match a, t.phase with
  | .store, .holding content => [content]
  | _, _ => []

end RefreshTask

/-- A reload that has come to its end: the number of its task, and what it has read. -/
structure Load where
  task : Nat
  content : Option (List Octet)
deriving DecidableEq

/-- The whitelist after some reloads, the earliest first. -/
def WhitelistHandle.reloads (h : WhitelistHandle) (loads : List Load) : WhitelistHandle :=
  loads.foldl (fun h load => (h.reload load.content).2) h

/-! ## Calls -/

/-- A whitelist that tasks reload. -/
structure Refreshing where
  handle : WhitelistHandle
  files : Files
  /-- All tasks that have ever been started, each under its number. -/
  tasks : List RefreshTask
  /-- The task that is noted. -/
  slot : Option Nat
  /-- The call that is under way, with the task that it has started, if any. -/
  call : Option (Option Nat)

namespace Refreshing

/-- What can happen. -/
inductive Act where
  /-- A call begins and starts the task that the settings ask for. -/
  | call (c : WhitelistConfig)
  /-- The call notes its task in place of the one that was noted, aborts that, and returns. -/
  | note
  | task (i : Nat) (a : RefreshTask.Act)
  /-- The files change. -/
  | write (files : Files)

/-- A whitelist without tasks. -/
def ofWhitelist (w : Whitelist) (files : Files) : Refreshing := ⟨⟨w⟩, files, [], none, none⟩

/-- Begins a call. -/
def begin (s : Refreshing) (c : WhitelistConfig) : Refreshing :=
  { s with
    tasks := s.tasks ++ (c.location.map RefreshTask.ofLocation).toList
    call := some (c.location.map fun _ => s.tasks.length) }

/-- Ends a call that has started a task, or none. -/
def noteTask (s : Refreshing) (task : Option Nat) : Refreshing :=
  { s with
    tasks := match s.slot with
      | some i => s.tasks.modify i RefreshTask.abort
      | none => s.tasks
    slot := task
    call := none }

/-- One thing that happens, and the reloads that come to their end in it; none if it cannot happen.
A call begins when the one before has returned. -/
def step (s : Refreshing) : Act → Option (Refreshing × List Load)
  | .call c => if s.call = none then some (s.begin c, []) else none
  | .note => s.call.map fun task => (s.noteTask task, [])
  | .task i a => do
    let t ← s.tasks[i]?
    let t' ← t.step s.files a
    let loads := (t.stored a).map (Load.mk i)
    return ({ s with handle := s.handle.reloads loads, tasks := s.tasks.set i t' }, loads)
  | .write files => some ({ s with files }, [])

/-- What happens one after the other, and the reloads that come to their end in it. -/
def run (s : Refreshing) : List Act → Option (Refreshing × List Load)
  | [] => some (s, [])
  | a :: rest => do
    let (s, loads) ← s.step a
    let (s, later) ← s.run rest
    return (s, loads ++ later)

end Refreshing

end ReviewStream
