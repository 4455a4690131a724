import ReviewStream.Config.File

/-!
# Answering the passphrase prompt

The client asks a helper program for the passphrase of a key.  The helper is a script beside the
control socket that prints a variable of its environment, so the passphrase itself never reaches the
file system.

* `AskPass.install?`: creates the helper of a control socket.
* `AskPass.environment`: the variables under which the client uses the helper.
* `AskPass.output`: what the helper prints.
-/

namespace ReviewStream.Ssh

/-! ## Paths -/

/-- A path without the slashes and the dots for the same directory at its end. -/
def trimPath (path : List Char) : List Char :=
  (drop path.reverse).reverse
where
  /-- Drops them from the front of a reversed path. -/
  drop : List Char → List Char
    | '/' :: c :: rest => drop (c :: rest)
    | '.' :: '/' :: c :: rest => drop (c :: rest)
    | cs => cs

/-- A name without its extension: what stands before the last dot, if that is not empty. -/
def stem (name : List Char) : List Char :=
  match Text.cutAt '.' name.reverse with
  | some (_, before) => if before.isEmpty then name else before.reverse
  | none => name

/-- The folder part of a path, with the slash at its end, and its last name. -/
def splitPath (path : List Char) : List Char × List Char :=
  ((path.reverse.dropWhile (· != '/')).reverse, (path.reverse.takeWhile (· != '/')).reverse)

/-- The last name of a path. -/
def lastName (path : String) : String :=
  String.ofList (splitPath (trimPath path.toList)).2

/-- A path with another extension of its last name; a path without a last name stays as it is. -/
def withExtension (path extension : String) : String :=
  let trimmed := trimPath path.toList
  let (folder, name) := splitPath trimmed
  if name.isEmpty || name == ['.', '.'] then path
  else String.ofList (folder ++ stem name) ++ "." ++ extension

/-- The folder that a path lies in. -/
def parent (path : String) : String :=
  let folder := (splitPath (trimPath path.toList)).1
  String.ofList (if folder == ['/'] then folder else folder.dropLast)

/-! ## Files -/

/-- What exists: folders and files by their paths. -/
structure Places where
  folders : List String
  files : List String

/-- Creates a file where there is nothing yet. -/
def Places.create? (p : Places) (path : String) : Except String Places :=
  if p.files.contains path || p.folders.contains path then .error "File exists (os error 17)"
  else if p.folders.contains (parent path) then .ok { p with files := path :: p.files }
  else .error "No such file or directory (os error 2)"

/-- Removes a file. -/
def Places.remove (p : Places) (path : String) : Places :=
  { p with files := p.files.filter (· != path) }

/-! ## The helper -/

/-- An installed helper. -/
structure AskPass where
  path : String
deriving DecidableEq

namespace AskPass

/-- The path of the helper of a control socket. -/
def pathFor (control : String) : String := withExtension control "askpass"

/-- The variable that holds the passphrase. -/
def secretVariable : String := "GERRIT_EVENTS_KEY_PASSPHRASE"

/-- The text of the helper. -/
def script : String := "#!/bin/sh\nprintf '%s\\n' \"$" ++ secretVariable ++ "\"\n"

/-- The permissions of the helper: all for its owner and none for anyone else. -/
def mode : String := "700"

/-- Creates the helper of a control socket; there may be no file in its place. -/
def install? (p : Places) (control : String) : Except TransportError (AskPass × Places) :=
  let path := pathFor control
  match p.create? path with
  | .ok p => .ok (⟨path⟩, p)
  | .error e =>
    .error (.clientUnavailable ("Failed to create askpass helper " ++ path ++ ": " ++ e))

/-- Removes the helper. -/
def remove (a : AskPass) (p : Places) : Places := p.remove a.path

/-- The variables under which the client asks the helper.  A display has to be named for that; one
that is there already is kept. -/
def environment (a : AskPass) (passphrase : String) (hasDisplay : Bool) : Environment :=
  (if hasDisplay then [] else [("DISPLAY", ":0")]) ++
    [(secretVariable, passphrase), ("SSH_ASKPASS", a.path), ("SSH_ASKPASS_REQUIRE", "force")]

/-- What the helper prints in an environment. -/
def output (env : Environment) : String := (env.lookup secretVariable).getD "" ++ "\n"

end AskPass

end ReviewStream.Ssh
