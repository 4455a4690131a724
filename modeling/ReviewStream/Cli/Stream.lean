import ReviewStream.Cli.Report
import ReviewStream.Connection.Rehearsal
import ReviewStream.Dispatch.Basic
import ReviewStream.Event.Record

/-!
# Streaming events

The stream command keeps a connection open, prints every event on a line and reports on the state of
the connection, until it is interrupted.

* `Streaming`: a connection that runs against the ssh client, with its dispatcher and what has been
  printed so far.
* `stream`: the report of a stream that is interrupted once it has printed a number of lines.
-/

namespace ReviewStream.Cli

/-! ## The client as a script -/

/-- How often a client that always answers alike is asked at most. -/
def answerLimit : Nat := 16

/-- What reading the output of a command brings. -/
def streamSteps (r : Ssh.CommandResult) : List StreamStep :=
  .data r.stdout :: if r.hangs then [] else [.finish]

/-- The answers of the ssh client, none of which takes any time. -/
def scriptOf (s : Surroundings) (config : ConnectionConfig) (client : Ssh.Client) : Script :=
  let (opened, w) := Ssh.World.connect config s.world
  let answer : Except TransportError ScriptedSession := opened.map fun session =>
    { outputs := List.replicate answerLimit
        ⟨0, (w.execute session versionCommand).1⟩
      streams := List.replicate answerLimit ⟨0, .ok (streamSteps (client.run streamCommand))⟩ }
  .ofAttempts (List.replicate answerLimit ⟨0, answer⟩)

/-- The world after the calls that a connection makes. -/
def follow (w : Ssh.World) : TransportCall → Ssh.World
  | .connect config => (w.connect config).2
  | .execute session command => (w.execute session command).2
  | .openStream session command => (w.run session command).2
  | .disconnect session => w.disconnect session

/-! ## The command -/

/-- A stream command that runs. -/
structure Streaming where
  rehearsal : Rehearsal
  dispatcher : Dispatcher
  world : Ssh.World
  /-- The calls of the printer so far. -/
  calls : List Call
  stdout : List String
  stderr : List String

namespace Streaming

/-- The listener that prints events, whatever their kind. -/
def printer : Listener where
  own _ := false
  react _ _ := ⟨.done, []⟩

/-- What the observer of the connection writes. -/
def status (server : String) : ConnectionEvent → String
  | .established => "● Streaming events from " ++ server
  | .down => "● Lost connection to " ++ server ++ ", reconnecting"

/-- Carries over what the connection has done. -/
def follow (s : Streaming) (d : Deed) : Streaming :=
  match d with
  | .call c => { s with world := Cli.follow s.world c }
  | .tell _ e =>
    { s with stderr := s.stderr ++ [status s.rehearsal.connection.name e] }
  | .post line provider =>
    let (dispatcher, calls) :=
      (s.dispatcher.post (.line line (some provider))).settle (fun _ => printer) false
    { s with
      dispatcher
      calls := s.calls ++ calls
      stdout := s.stdout ++ calls.map (·.event.toText) }
  | _ => s

/-- Carries over everything that has been done since the last time. -/
def catchUp (s : Streaming) : Streaming :=
  let (deeds, rehearsal) := s.rehearsal.takeDeeds
  (deeds.map (·.2)).foldl follow { s with rehearsal }

/-- A stream command that has just started its connection. -/
def begin (s : Surroundings) (c : Config) (client : Ssh.Client) (files : Files) : Streaming :=
  let connection := Connection.ofConfig c.connection true none
  let connection := (connection.addListener ⟨"status", ⟨false⟩⟩).2
  let rehearsal := Rehearsal.ofConnection connection (scriptOf s c.connection client)
  let dispatcher := Dispatcher.ofConfig c.dispatch .empty .json
  let dispatcher := (dispatcher.startRefresh c.whitelist).runRefresh files 0 0
  let dispatcher :=
    { dispatcher with registry := (dispatcher.registry.add ⟨"printer", printer⟩).2 }
  { rehearsal := rehearsal.start.2, dispatcher, world := s.world, calls := [], stdout := []
    stderr := [] }

/-- Whether a status and a number of lines have been printed. -/
def hasPrinted (s : Streaming) (lines : Nat) : Bool :=
  !s.stderr.isEmpty && lines ≤ s.stdout.length

/-- Lets at most `fuel` things happen until a number of lines has been printed. -/
def runWithin (localTime : Nat → LocalTime) (lines : Nat) : Nat → Streaming → Streaming
  | 0, s => s
  | fuel + 1, s =>
    if s.hasPrinted lines then s
    else match s.rehearsal.next? localTime (s.rehearsal.now + connectPause) with
      | some rehearsal => runWithin localTime lines fuel { s with rehearsal }.catchUp
      | none => s

/-- The interrupt: the connection is shut down, and what it has posted is still printed. -/
def interrupt (localTime : Nat → LocalTime) (s : Streaming) : Streaming :=
  let s := { s with stderr := s.stderr ++ ["● Shutting down"] }
  { s with rehearsal := s.rehearsal.shutdown localTime true }.catchUp

/-- A stream command that has been interrupted once it has printed a status and a number of
lines. -/
def ended (localTime : Nat → LocalTime) (lines : Nat) (s : Surroundings) (c : Config)
    (client : Ssh.Client) : Streaming :=
  let files : Files := fun path => match s.read path with
    | .octets bs => some bs
    | _ => none
  let turns := 4 * ((client.run streamCommand).stdout.length + answerLimit)
  ((begin s c client files).runWithin localTime lines turns).interrupt localTime

end Streaming

/-- Lines, each of them ended. -/
def unlines (lines : List String) : String := String.join (lines.map (· ++ "\n"))

/-- The report of a stream that is interrupted once it has printed a status and a number of
lines. -/
def stream (localTime : Nat → LocalTime) (lines : Nat) (s : Surroundings) (path : Option String) :
    Report :=
  match load s path, s.client with
  | .error e, _ => failed ["Could not load configuration"] (.config e) []
  | .ok _, none => failed [] noClient []
  | .ok c, some client =>
    let final := Streaming.ended localTime lines s c client
    ⟨0, unlines final.stdout, unlines final.stderr, final.world.calls⟩

/-- The report of a request.  A stream is interrupted once it has printed a number of lines. -/
def run (localTime : Nat → LocalTime) (lines : Nat) (s : Surroundings) : Request → Report
  | .stream path => stream localTime lines s path
  | .checkConfig path => checkConfig s path
  | .query path options text => query s path options text
  | .review path message labels change patchSet => review s path message labels change patchSet
  | .help topic => .success (helpText topic) []

end ReviewStream.Cli
