import ReviewStream.Text.Integer
import ReviewStream.Text.Pieces
import ReviewStream.Toml.Scalar

/-!
# Writing TOML documents

The pretty form of a table: its own values first, a line each, then its tables under headers of
their own, a blank line between them.  A list of tables is written under repeated headers, any
other list of two or more items over several lines.

* `write`: the text of a root table.
* `quoted`: the least ornate kind of string that can hold a text.
-/

namespace ReviewStream.Toml

/-! ## Strings -/

/-- The length of the longest run of a character. -/
def longestRun (c : Char) (cs : List Char) : Nat :=
  (cs.foldl (fun (longest, run) d =>
    let run := if c = d then run + 1 else 0
    (max longest run, run)) (0, 0)).1

/-- Whether a character can only be written as an escape. -/
def needsEscape (c : Char) : Bool :=
  (c.toNat < 0x20 && c != '\t' && c != '\n') || c.toNat == 0x7F

/-- The escape of a character by its number. -/
def numberEscape (c : Char) : List Char :=
  let digits := (Nat.toDigits 16 c.toNat).map Char.toUpper
  '\\' :: 'u' :: (List.replicate (4 - digits.length) '0' ++ digits)

/-- A character in a basic string; over several lines, line feeds stand for themselves. -/
def basicChar (overLines : Bool) (c : Char) : List Char :=
  match c with
  | '\x08' => ['\\', 'b']
  | '\t' => ['\\', 't']
  | '\n' => if overLines then ['\n'] else ['\\', 'n']
  | '\x0c' => ['\\', 'f']
  | '\r' => ['\\', 'r']
  | '\\' => ['\\', '\\']
  | c => if needsEscape c then numberEscape c else [c]

/-- The characters of a basic string; a run of more quotes than may stand there is broken by a
backslash. -/
def basicChars (overLines : Bool) : (run : Nat) → List Char → List Char
  | _, [] => []
  | run, '"' :: r =>
    if (if overLines then 2 else 0) < run + 1 then '\\' :: '"' :: basicChars overLines 0 r
    else '"' :: basicChars overLines (run + 1) r
  | _, c :: r => basicChar overLines c ++ basicChars overLines 0 r

/-- A string between given quotes. -/
def between (quote : String) (body : List Char) : List Char :=
  quote.toList ++ body ++ quote.toList

/-- A string between given quotes that may go over several lines; a text that does so begins on a
line of its own. -/
def betweenLines (quote : String) (newline : Bool) (body : List Char) : List Char :=
  between quote (if newline then '\n' :: body else body)

/-- The string of a text: basic without escapes, literal, and either of them over several lines,
whichever is the first that can hold it; and else basic with escapes. -/
def quoted (s : String) : List Char :=
  let cs := s.toList
  let escapes := cs.any needsEscape
  let backslash := cs.contains '\\'
  let newline := cs.contains '\n'
  let doubles := longestRun '"' cs
  let singles := longestRun '\'' cs
  if !escapes && !backslash && doubles == 0 && !newline then
    between "\"" (basicChars false 0 cs)
  else if !escapes && singles == 0 && !newline then between "'" cs
  else if !escapes && !backslash && doubles ≤ 2 then
    betweenLines "\"\"\"" newline (basicChars true 0 cs)
  else if !escapes && singles ≤ 2 then betweenLines "'''" newline cs
  else if newline then betweenLines "\"\"\"" newline (basicChars true 0 cs)
  else between "\"" (basicChars false 0 cs)

/-- A key: bare if it can be, and else a string on one line. -/
def keyText (s : String) : List Char :=
  let cs := s.toList
  if !cs.isEmpty && cs.all isBare then cs
  else
    let escapes := cs.any needsEscape || cs.contains '\n'
    if !escapes && !cs.contains '\\' && !cs.contains '"' then between "\"" (basicChars false 0 cs)
    else if !escapes && !cs.contains '\'' then between "'" cs
    else between "\"" (basicChars false 0 cs)

/-! ## Values -/

mutual

/-- A value inside a line. -/
def inlineText : Toml → List Char
  | .text s => quoted s
  | .integer i => (Text.intText i).toList
  | .real literal => literal.toList
  | .bool b => (if b then "true" else "false").toList
  | .moment literal => literal.toList
  | .array [] => "[]".toList
  | .array [v] => '[' :: (inlineText v ++ [']'])
  | .array items => '[' :: (itemLines items ++ "\n]".toList)
  | .table _ members => "\x7b ".toList ++ inlineMembers members ++ " \x7d".toList
  | .tables items => '[' :: (itemLines items ++ "\n]".toList)

/-- Items on lines of their own. -/
def itemLines : List Toml → List Char
  | [] => []
  | v :: vs => "\n    ".toList ++ inlineText v ++ [','] ++ itemLines vs

/-- Members with commas between them. -/
def inlineMembers : List (String × Toml) → List Char
  | [] => []
  | [(k, v)] => keyText k ++ " = ".toList ++ inlineText v
  | (k, v) :: rest => keyText k ++ " = ".toList ++ inlineText v ++ ", ".toList ++ inlineMembers rest

end

/-! ## Documents -/

/-- Whether a value is written under a header. -/
def hasHeader : Toml → Bool
  | .table .. => true
  | .tables items => !items.isEmpty
  | _ => false

/-- The lines of a table's own values. -/
def valueLines (members : List (String × Toml)) : List Char :=
  members.flatMap fun (k, v) =>
    if hasHeader v then [] else keyText k ++ " = ".toList ++ inlineText v ++ ['\n']

/-- A dotted path of keys. -/
def pathText (path : List String) : List Char :=
  ['.'].intercalate (path.map keyText)

mutual

/-- The sections of a table and of the tables in it.  A table without values of its own needs no
header if it has tables. -/
def sections (path : List String) (repeated : Bool) : Toml → List (List Char)
  | .table _ members =>
    let own := valueLines members
    let header :=
      if repeated then "[[".toList ++ pathText path ++ "]]\n".toList
      else '[' :: (pathText path ++ "]\n".toList)
    let shown := repeated || members.isEmpty || !own.isEmpty
    let rest := memberSections path members
    if path.isEmpty then (if own.isEmpty then rest else own :: rest)
    else if shown then (header ++ own) :: rest
    else rest
  | _ => []

/-- The sections of the tables among some members. -/
def memberSections (path : List String) : List (String × Toml) → List (List Char)
  | [] => []
  | (k, .tables items) :: rest => itemSections (path ++ [k]) items ++ memberSections path rest
  | (k, .table o ms) :: rest =>
    sections (path ++ [k]) false (.table o ms) ++ memberSections path rest
  | _ :: rest => memberSections path rest

/-- The sections of some tables under one repeated header. -/
def itemSections (path : List String) : List Toml → List (List Char)
  | [] => []
  | v :: vs => sections path true v ++ itemSections path vs

end

/-- The text of a root table. -/
def write (root : Toml) : String :=
  String.ofList (['\n'].intercalate (sections [] false root))

end ReviewStream.Toml
