import ReviewStream.Toml.Scalar

/-!
# Reading TOML documents

A document is a sequence of lines: members of the current table, headers that open another one, and
comments.  Tables may be extended as long as their origin allows it.

* `readValue`: values; the nesting of arrays and braces is bounded.
* `assign?`, `openTable?`, `openItem?`: what a line does to the tables.
* `read?`: the root table of a document.
-/

namespace ReviewStream.Toml

open Json (Reading)

/-- How deep arrays and tables between braces may be nested. -/
def depthLimit : Nat := 80

/-! ## Blanks and comments -/

/-- Drops a comment in front, up to its line end. -/
def skipComment : List Char → Option (List Char)
  | '#' :: r =>
    let rest := r.dropWhile isPlain
    if rest.isEmpty ∨ (newline? rest).isSome then some rest else none
  | cs => some cs

/-- Drops blanks, line ends and comments in front. -/
def skipTrivia : (fuel : Nat) → List Char → Option (List Char)
  | 0, cs => some cs
  | fuel + 1, cs =>
    match skipComment (skipSpace cs) with
    | none => none
    | some r =>
      match newline? r with
      | some r => skipTrivia fuel r
      | none => some r

/-- Drops blanks, line ends and comments between the items of an array. -/
def skipBetween (cs : List Char) : Option (List Char) := skipTrivia (cs.length + 1) cs

/-! ## Extending tables -/

/-- Changes the value under a key; a key that is absent is added at the end. -/
def alter? (key : String) (f : Option Toml → Option Toml) :
    List (String × Toml) → Option (List (String × Toml))
  | [] => (f none).map fun v => [(key, v)]
  | (k, v) :: rest =>
    if k = key then (f (some v)).map fun v => (k, v) :: rest
    else (alter? key f rest).map ((k, v) :: ·)

/-- Changes the last element of a list. -/
def alterLast? (f : α → Option α) : List α → Option (List α)
  | [] => none
  | [a] => (f a).map fun a => [a]
  | a :: b :: rest => (alterLast? f (b :: rest)).map (a :: ·)

/-- The members of a table. -/
abbrev Members := List (String × Toml)

/-- Goes down a path, making the tables that are missing, and changes the table at its end, whose
origin is passed along.  A dotted key makes dotted tables and may not enter a table with a header
of its own; a header makes parents and may enter every table but one between braces. -/
def descend? (dotted : Bool) (path : List String) (f : Origin → Members → Option Members)
    (origin : Origin) (members : Members) : Option Members :=
  match path with
  | [] => f origin members
  | key :: path =>
    alter? key (fun
      | none =>
        let made := if dotted then Origin.dotted else .parent
        (descend? dotted path f made []).map (.table made)
      | some (.table made inner) =>
        if made == .braces || (dotted && made == .header) then none
        else (descend? dotted path f made inner).map (.table made)
      | some (.tables items) =>
        (alterLast? (fun
          | .table made inner => (descend? dotted path f made inner).map (.table made)
          | _ => none) items).map .tables
      | some _ => none) members

/-- Puts a value under a dotted key of a table. -/
def assign? (key : List String) (value : Toml) (origin : Origin) (members : Members) :
    Option Members :=
  match key.getLast? with
  | none => none
  | some last =>
    let path := key.dropLast
    descend? true path (fun made inner =>
      -- A dotted key ends in a table that dotted keys made, a simple one in the table itself.
      if (made == .dotted) == path.isEmpty then none
      else alter? last (fun
        | none => some value
        | some _ => none) inner) origin members

/-- Opens the table of a header. -/
def openTable? (path : List String) (root : Members) : Option Members :=
  match path.getLast? with
  | none => none
  | some last =>
    descend? false path.dropLast (fun _ inner =>
      alter? last (fun
        | none => some (.table .header [])
        | some (.table .parent inner) => some (.table .header inner)
        | some _ => none) inner) .header root

/-- Opens a further table of a repeated header. -/
def openItem? (path : List String) (root : Members) : Option Members :=
  match path.getLast? with
  | none => none
  | some last =>
    descend? false path.dropLast (fun _ inner =>
      alter? last (fun
        | none => some (.tables [.table .header []])
        | some (.tables items) => some (.tables (items ++ [.table .header []]))
        | some _ => none) inner) .header root

/-! ## Values -/

/-- The items of an array after its opening bracket; a comma may follow the last one. -/
def readItems (value : List Char → Reading Toml) : (fuel : Nat) → List Char → Reading (List Toml)
  | 0, _ => none
  | fuel + 1, cs =>
    match skipBetween cs with
    | none => none
    | some (']' :: r) => some ([], r)
    | some cs =>
      match value cs with
      | none => none
      | some (v, r) =>
        match skipBetween r with
        | some (']' :: r) => some ([v], r)
        | some (',' :: r) => (readItems value fuel r).map fun (vs, r) => (v :: vs, r)
        | _ => none

/-- A key, an equals sign and a value. -/
def readMember (value : List Char → Reading Toml) (cs : List Char) :
    Reading (List String × Toml) :=
  match readKey? (cs.length + 1) cs with
  | some (key, '=' :: r) =>
    if depthLimit < key.length then none
    else (value (skipSpace r)).map fun (v, r) => ((key, v), r)
  | _ => none

/-- The members of a table between braces, from the first one on. -/
def readMembers (value : List Char → Reading Toml) :
    (fuel : Nat) → Members → List Char → Reading Members
  | 0, _, _ => none
  | fuel + 1, members, cs =>
    match readMember value cs with
    | none => none
    | some ((key, v), r) =>
      match assign? key v .braces members with
      | none => none
      | some members =>
        match skipSpace r with
        | '}' :: r => some (members, r)
        | ',' :: r => readMembers value fuel members r
        | _ => none

/-- A value. -/
def readValue : (depth : Nat) → List Char → Reading Toml
  | 0, _ => none
  | depth + 1, cs =>
    match cs with
    | '"' :: _ | '\'' :: _ => (readString? cs).map fun (s, r) => (.text s, r)
    | '[' :: r => (readItems (readValue depth) (r.length + 1) r).map fun (vs, r) => (.array vs, r)
    | '{' :: r =>
      match skipSpace r with
      | '}' :: r => some (.table .braces [], r)
      | r => (readMembers (readValue depth) (r.length + 1) [] r).map fun (ms, r) =>
        (.table .braces ms, r)
    | cs =>
      let (run, r) := takeRun cs
      (ofRun? run).map fun v => (v, r)

/-! ## Documents -/

/-- What follows the content of a line: blanks, a comment and the line end. -/
def endLine? (cs : List Char) : Option (List Char) :=
  match skipComment (skipSpace cs) with
  | none => none
  | some [] => some []
  | some r => newline? r

/-- A header after its opening brackets. -/
def readHeader? (close : List Char) (cs : List Char) : Reading (List String) :=
  match readKey? (cs.length + 1) cs with
  | none => none
  | some (path, r) =>
    if depthLimit < path.length ∨ !close.isPrefixOf r then none
    else some (path, r.drop close.length)

/-- Reads the lines of a document into the tables, `current` being the path of the open one. -/
def readLines : (fuel : Nat) → (current : List String) → Members → List Char → Option Members
  | 0, _, _, _ => none
  | fuel + 1, current, root, cs =>
    match skipBetween cs with
    | none => none
    | some [] => some root
    | some ('[' :: '[' :: r) =>
      match readHeader? [']', ']'] r with
      | none => none
      | some (path, r) =>
        match openItem? path root, endLine? r with
        | some root, some r => readLines fuel path root r
        | _, _ => none
    | some ('[' :: r) =>
      match readHeader? [']'] r with
      | none => none
      | some (path, r) =>
        match openTable? path root, endLine? r with
        | some root, some r => readLines fuel path root r
        | _, _ => none
    | some cs =>
      match readMember (readValue depthLimit) cs with
      | none => none
      | some ((key, v), r) =>
        match descend? false current (assign? key v) .header root, endLine? r with
        | some root, some r => readLines fuel current root r
        | _, _ => none

/-- The root table of a document, which may begin with a byte order mark. -/
def read? (s : String) : Option Toml :=
  let cs := match s.toList with
    | '\uFEFF' :: cs => cs
    | cs => cs
  (readLines (cs.length + 1) [] [] cs).map (.table .header)

end ReviewStream.Toml
