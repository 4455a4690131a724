import ReviewStream.Ssh.Session

/-!
# Connects of one process

A connect takes a number, installs its helper if it needs one, starts its master and waits for it.
Between any two of these steps the other connects of the process go on, commands run over the
sessions that are there, and other programs do something to the files.

* `Attempt.advance`, `Attempt.giveUp`: what a connect does next.
* `Process`: the connects of a process with the world that they share.
* `Process.run`: what becomes of it, the steps coming in any order.
-/

namespace ReviewStream.Ssh

/-! ## One connect -/

/-- How far a connect has come. -/
inductive Phase where
  /-- It has its number. -/
  | numbered
  /-- Its helper is in place, if it needs one. -/
  | equipped (session : Session) (askpass : Option AskPass)
  /-- It waits for its master, for which there is an outcome. -/
  | started (askpass : Option AskPass) (result : Except TransportError Nat)
  | ended (result : Except TransportError Nat)

/-- The helper that is in place for a connect. -/
def Phase.askpass? : Phase → Option AskPass
  | .equipped _ askpass | .started askpass _ => askpass
  | .numbered | .ended _ => none

/-- A connect that has its number. -/
structure Attempt where
  config : ConnectionConfig
  /-- The path of its control socket. -/
  control : String
  phase : Phase

namespace World

/-- Removes the helper of a connect, if it has one. -/
def release (w : World) : Option AskPass → World
  | some askpass => { w with places := askpass.remove w.places }
  | none => w

/-- Kills the master of a connect, if it is up. -/
def kill (w : World) : Except TransportError Nat → World
  | .ok session => { w with up := w.up.filter (· != session) }
  | .error _ => w

end World

namespace Attempt

/-- Installs the helper if there is a passphrase. -/
def equip (a : Attempt) (w : World) : Phase × World :=
  match sessionArguments? a.config a.control with
  | .error e => (.ended (.error e), w)
  | .ok args =>
    let s : Session := ⟨args, a.config.host⟩
    if a.config.passphrase.isNone then (.equipped s none, w)
    else
      match AskPass.install? w.places a.control with
      | .error e => (.ended (.error e), w)
      | .ok (askpass, places) => (.equipped s (some askpass), { w with places })

/-- The variables that are set for the master. -/
def environment (a : Attempt) (askpass : Option AskPass) (hasDisplay : Bool) : Environment :=
  match askpass, a.config.passphrase with
  | some askpass, some passphrase => askpass.environment passphrase hasDisplay
  | _, _ => []

/-- What a connect does next. -/
def advance (a : Attempt) (w : World) : Phase × World :=
  match a.phase with
  | .numbered => a.equip w
  | .equipped s askpass =>
    let (result, w) := w.startMaster a.config s (a.environment askpass w.hasDisplay)
    (.started askpass result, w)
  | .started askpass result => (.ended result, w.release askpass)
  | .ended result => (.ended result, w)

/-- The error of a master that is not there in time. -/
def timedOut (a : Attempt) : TransportError :=
  .connectFailed a.config.host a.config.port.toNat "Timed out waiting for the control master"

/-- Waits no longer: time is up, or nobody is interested in the outcome any more. -/
def giveUp (a : Attempt) (w : World) : Phase × World :=
  match a.phase with
  | .started askpass result => (.ended (.error a.timedOut), (w.kill result).release askpass)
  | phase => (phase, w)

end Attempt

/-! ## What other programs do -/

/-- What happens to files beyond the process. -/
inductive Places.Change where
  | file (path : String)
  | folder (path : String)
  | gone (path : String)

/-- The path at which a change leaves something. -/
def Places.Change.left? : Places.Change → Option String
  | file path | folder path => some path
  | gone _ => none

/-- What exists after a change. -/
def Places.change (p : Places) : Places.Change → Places
  | .file path => { p with files := path :: p.files }
  | .folder path => { p with folders := path :: p.folders }
  | .gone path => { p.remove path with folders := p.folders.filter (· != path) }

/-! ## A process -/

/-- A process: its connects in the order of their numbers, and the world that they share. -/
structure Process where
  world : World
  attempts : List Attempt

/-- A step of a process, or of what lies beyond it. -/
inductive Step where
  /-- A connect takes its number. -/
  | connect (c : ConnectionConfig)
  /-- A connect, known by how many took their numbers before it, goes on. -/
  | advance (attempt : Nat)
  | giveUp (attempt : Nat)
  | execute (session : Nat) (command : String)
  | disconnect (session : Nat)
  /-- Other programs do something to the files. -/
  | files (change : Places.Change)
  /-- The client answers in another way from now on. -/
  | client (client : Option Client)

namespace Step

/-- The settings of the connect that takes its number. -/
def connect? : Step → Option ConnectionConfig
  | connect c => some c
  | _ => none

/-- The path at which other programs leave something. -/
def left? : Step → Option String
  | files change => change.left?
  | _ => none

end Step

namespace Process

/-- A process without connects.  The directory for temporary files is looked up by each connect. -/
def new (client : Option Client) (hasDisplay : Bool) (directory : Nat → String) (process : Nat)
    (places : Places) : Process where
  world :=
    { client, hasDisplay, controlPath := fun name n => controlPath (directory n) name process n,
      places, connects := 0, sessions := [], up := [], calls := [] }
  attempts := []

/-- A connect takes its number. -/
def number (p : Process) (c : ConnectionConfig) : Process where
  world := { p.world with connects := p.world.connects + 1 }
  attempts :=
    p.attempts ++ [⟨c, p.world.controlPath c.name p.world.connects.toNat, .numbered⟩]

/-- A connect does something, if there is one. -/
def move (p : Process) (k : Nat) (act : Attempt → World → Phase × World) : Process :=
  match p.attempts[k]? with
  | some a => ⟨(act a p.world).2, p.attempts.set k { a with phase := (act a p.world).1 }⟩
  | none => p

/-- Does a step. -/
def step (p : Process) : Step → Process
  | .connect c => p.number c
  | .advance k => p.move k Attempt.advance
  | .giveUp k => p.move k Attempt.giveUp
  | .execute session command => { p with world := (p.world.execute session command).2 }
  | .disconnect session => { p with world := p.world.disconnect session }
  | .files change =>
    { p with world := { p.world with places := p.world.places.change change } }
  | .client client => { p with world := { p.world with client } }

/-- What becomes of a process, the earliest step first. -/
def run (p : Process) (steps : List Step) : Process := steps.foldl step p

end Process

end ReviewStream.Ssh
