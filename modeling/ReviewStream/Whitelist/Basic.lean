import ReviewStream.Text.Pieces
import ReviewStream.Text.Utf8

/-!
# The whitelist of projects

A set of project names.  An empty whitelist admits every project, any other one only its members.

* `Whitelist.ofOctets?`: the whitelist that a file's content stands for: its lines up to the first
  empty one.
* `WhitelistHandle`: the snapshot in use, replaced as a whole; a reload that fails leaves it.
-/

namespace ReviewStream

open Text (Octet)

/-- A set of project names, each of them listed once. -/
structure Whitelist where
  projects : List String
deriving DecidableEq

namespace Whitelist

/-- The set of some names. -/
def ofList (names : List String) : Whitelist := ⟨names.eraseDups⟩

/-- The whitelist that admits every project. -/
def empty : Whitelist := ⟨[]⟩

/-- How many names the whitelist has. -/
def size (w : Whitelist) : Nat := w.projects.length

/-- Whether the whitelist has no name. -/
def isEmpty (w : Whitelist) : Bool := w.projects.isEmpty

/-- Whether a project passes. -/
def admits (w : Whitelist) (project : String) : Bool :=
  w.projects.isEmpty || w.projects.contains project

/-- Whether two whitelists have the same names. -/
def sameAs (v w : Whitelist) : Bool :=
  v.projects.all w.projects.contains && w.projects.all v.projects.contains

/-! ## Files -/

/-- Why a whitelist file was not read. -/
inductive ReadError where
  | notFound
  /-- A line is not UTF-8. -/
  | invalidData
deriving DecidableEq

/-- The lines of a file as octets: each ends at a line feed, with one carriage return before it
dropped; an unterminated last piece is a line and keeps its carriage return. -/
def rawLines (bs : List Octet) : List (List Octet) :=
  let pieces := Text.splitAll 10 bs
  let last := pieces.getLastD []
  pieces.dropLast.map dropReturn ++ (if last.isEmpty then [] else [last])
where
  /-- Drops one carriage return at the end. -/
  dropReturn (bs : List Octet) : List Octet :=
    if bs.getLast? = some 13 then bs.dropLast else bs

/-- Reads names up to the first empty line. -/
def readNames? : List (List Octet) → Option (List String)
  | [] => some []
  | [] :: _ => some []
  | raw :: rest =>
    match Text.decode? raw with
    | none => none
    | some cs => (readNames? rest).map (String.ofList cs :: ·)

/-- The whitelist of a file's content. -/
def ofOctets? (bs : List Octet) : Except ReadError Whitelist :=
  match readNames? (rawLines bs) with
  | some names => .ok (ofList names)
  | none => .error .invalidData

/-- The whitelist of a file, which may be absent. -/
def ofFile? : Option (List Octet) → Except ReadError Whitelist
  | none => .error .notFound
  | some bs => ofOctets? bs

end Whitelist

/-! ## The snapshot in use -/

/-- Holds the whitelist in use. -/
structure WhitelistHandle where
  snapshot : Whitelist

namespace WhitelistHandle

/-- Whether a project passes the whitelist in use. -/
def admits (h : WhitelistHandle) (project : String) : Bool := h.snapshot.admits project

/-- Puts another whitelist into use. -/
def replace (_ : WhitelistHandle) (w : Whitelist) : WhitelistHandle := ⟨w⟩

/-- Puts the whitelist of a file into use and gives its size; if it cannot be read, the whitelist
in use stays. -/
def reload (h : WhitelistHandle) (file : Option (List Octet)) :
    Except Whitelist.ReadError Nat × WhitelistHandle :=
  match Whitelist.ofFile? file with
  | .ok w => (.ok w.size, h.replace w)
  | .error e => (.error e, h)

end WhitelistHandle

end ReviewStream
