import ReviewStream.Json.Writer
import ReviewStream.Text.Integer
import ReviewStream.Text.Visible

/-!
# Reading JSON values as typed data

A *shape* reads a value as data of some type or names the fault that keeps it from being one.  A
record is described by its *fields* in the order of their declaration, and may be written in two
ways:

* as an object: the members with a known key are read in the order in which the object lists them,
  and the first bad one is the fault; members with other keys have no influence; only then are keys
  missed, in the order of declaration;
* as a list: the items are read by position in the order of declaration, and items left over are a
  fault.

`Fields` is an applicative functor, so that a record is described by its constructor followed by
one field after the other.
-/

namespace ReviewStream.Json

/-! ## Faults -/

/-- What a shape asks for, as it is named in a fault. -/
inductive Wanted where
  | text
  | sequence
  | map
  | pathText
  | unsigned16
  | unsigned64
  | size
  | clockText
  | weekday
  | record (name : String)
deriving DecidableEq

/-- The wording of what was asked for. -/
def Wanted.message : Wanted → String
  | .text => "a string"
  | .sequence => "a sequence"
  | .map => "a map"
  | .pathText => "path string"
  | .unsigned16 => "u16"
  | .unsigned64 => "u64"
  | .size => "usize"
  | .clockText => "a formatted time string"
  | .weekday => "Weekday"
  | .record name => "struct " ++ name

/-- Why a text is no time of day. -/
inductive ClockFault where
  | short
  | long
  | invalid
  | outOfRange
deriving DecidableEq

/-- The wording of a fault in a time of day. -/
def ClockFault.message : ClockFault → String
  | .short => "premature end of input"
  | .long => "trailing input"
  | .invalid => "input contains invalid characters"
  | .outOfRange => "input is out of range"

/-- Why a value does not have a shape. -/
inductive Fault where
  /-- A value of another kind. -/
  | wrongType (got : Json) (wanted : Wanted)
  /-- An integer outside the range of its type. -/
  | outOfRange (got : Int) (wanted : Wanted)
  /-- A list that ends before a field that has to be present, `index` being its position. -/
  | tooShort (index : Nat) (record : String) (fields : Nat)
  /-- A list with items left over. -/
  | tooLong (length : Nat)
  | missing (key : String)
  /-- A value that is neither an integer of its type nor a text. -/
  | noForm
  | integer (fault : Text.IntegerFault)
  | clock (fault : ClockFault)
  | weekday
deriving DecidableEq

/-- How a value is described in a fault. -/
def describe : Json → String
  | .null => "null"
  | .bool b => "boolean `" ++ (if b then "true" else "false") ++ "`"
  | .number (.integer i) => "integer `" ++ Text.intText i ++ "`"
  | .number (.real x) => "floating point `" ++ x.decimalText ++ "`"
  | .text s => "string " ++ String.ofList (debugQuoted s)
  | .list _ => "sequence"
  | .object _ => "map"
where
  /-- A text between quotes, in the way that strings are shown inside messages. -/
  debugQuoted (s : String) : List Char :=
    '"' :: (s.toList.flatMap debugEscape ++ ['"'])
  /-- A character of a shown text. -/
  debugEscape (c : Char) : List Char :=
    match c with
    | '"' => ['\\', '"']
    | '\\' => ['\\', '\\']
    | '\t' => ['\\', 't']
    | '\n' => ['\\', 'n']
    | '\r' => ['\\', 'r']
    | '\x00' => ['\\', '0']
    | c =>
      if Text.isVisible c then [c]
      else "\\u\x7b".toList ++ Nat.toDigits 16 c.toNat ++ ['\x7d']

/-- The wording of a fault. -/
def Fault.message : Fault → String
  | .wrongType got wanted =>
    "invalid type: " ++ describe got ++ ", expected " ++ wanted.message
  | .outOfRange got wanted =>
    "invalid value: " ++ describe (.int got) ++ ", expected " ++ wanted.message
  | .tooShort index record fields =>
    "invalid length " ++ Text.natText index ++ ", expected struct " ++ record ++ " with "
      ++ Text.natText fields ++ " element" ++ (if fields = 1 then "" else "s")
  | .tooLong length =>
    "invalid length " ++ Text.natText length ++ ", expected fewer elements in array"
  | .missing key => "missing field `" ++ key ++ "`"
  | .noForm => "data did not match any variant of untagged enum Raw"
  | .integer fault => fault.message
  | .clock fault => fault.message
  | .weekday => "short or long weekday names expected"

/-! ## Shapes -/

/-- A reader of values as data of a type. -/
abbrev Shape (α : Type) := Json → Except Fault α

namespace Shape

/-- A text. -/
def text : Shape String
  | .text s => .ok s
  | v => .error (.wrongType v .text)

/-- A text that is a path. -/
def path : Shape String
  | .text s => .ok s
  | v => .error (.wrongType v .pathText)

/-- An integer from zero to `limit`. -/
def unsigned (limit : Nat) (wanted : Wanted) : Shape Nat
  | .number (.integer i) =>
    if 0 ≤ i ∧ i ≤ limit then .ok i.toNat else .error (.outOfRange i wanted)
  | v => .error (.wrongType v wanted)

/-- An unsigned integer of 64 bits. -/
def unsigned64 : Shape Nat := unsigned (UInt64.size - 1) .unsigned64

/-- A size in memory. -/
def size : Shape Nat := unsigned (UInt64.size - 1) .size

/-- An unsigned integer of 16 bits. -/
def unsigned16 : Shape Nat := unsigned (UInt16.size - 1) .unsigned16

/-- A value that may be null. -/
def nullable (shape : Shape α) : Shape (Option α)
  | .null => .ok none
  | v => (shape v).map some

/-- A list of values of one shape; the first bad item is the fault. -/
def items (shape : Shape α) : Shape (List α)
  | .list vs => vs.mapM shape
  | v => .error (.wrongType v .sequence)

/-- An object whose values are texts, as pairs in the order of its members. -/
def textMap : Shape (List (String × String))
  | .object members => members.mapM fun (k, v) => (text v).map fun s => (k, s)
  | v => .error (.wrongType v .map)

end Shape

/-! ## Records -/

/-- The description of some fields of a record. -/
structure Fields (α : Type) where
  /-- How many fields there are. -/
  count : Nat
  /-- The fault of a member, if its key is known and its value is bad. -/
  fault? : String → Json → Option Fault
  /-- Reads the fields from the members of an object. -/
  ofMembers : List (String × Json) → Except Fault α
  /-- Reads the fields from the front of a list.  The fault of an item that is missing gets the
  position of the first field. -/
  ofItems : (index : Nat) → (short : Nat → Fault) → List Json → Except Fault (α × List Json)

/-- The fault of a result. -/
def faultOf : Except Fault α → Option Fault
  | .ok _ => none
  | .error e => some e

namespace Fields

/-- A field whose absence has a given meaning. -/
def field (key : String) (absent : Option α) (shape : Shape α) : Fields α where
  count := 1
  fault? k v := if k = key then faultOf (shape v) else none
  ofMembers members :=
    match find? key members, absent with
    | some v, _ => shape v
    | none, some a => .ok a
    | none, none => .error (.missing key)
  ofItems index short items :=
    match items, absent with
    | v :: rest, _ => (shape v).map fun a => (a, rest)
    | [], some a => .ok (a, [])
    | [], none => .error (short index)

/-- A field that has to be present. -/
def required (key : String) (shape : Shape α) : Fields α := field key none shape

/-- A field with a value to be taken when it is absent. -/
def defaulted (key : String) (value : α) (shape : Shape α) : Fields α :=
  field key (some value) shape

/-- A field that may be absent or null. -/
def optional (key : String) (shape : Shape α) : Fields (Option α) :=
  field key (some none) shape.nullable

/-- No field. -/
def nothing (a : α) : Fields α where
  count := 0
  fault? _ _ := none
  ofMembers _ := .ok a
  ofItems _ _ items := .ok (a, items)

/-- Some fields and then some more. -/
def andThen (f : Fields (α → β)) (g : Fields α) : Fields β where
  count := f.count + g.count
  fault? k v := (f.fault? k v).or (g.fault? k v)
  ofMembers members := do
    let h ← f.ofMembers members
    let a ← g.ofMembers members
    pure (h a)
  ofItems index short items := do
    let (h, items) ← f.ofItems index short items
    let (a, items) ← g.ofItems (index + f.count) short items
    pure (h a, items)

instance : Applicative Fields where
  pure := nothing
  seq f g := f.andThen (g ())

/-- The first bad member. -/
def firstFault? (f : Fields α) : List (String × Json) → Option Fault
  | [] => none
  | (k, v) :: rest => (f.fault? k v).or (firstFault? f rest)

end Fields

/-- A record with a name and fields. -/
def Shape.record (name : String) (f : Fields α) : Shape α
  | .object members =>
    match f.firstFault? members with
    | some e => .error e
    | none => f.ofMembers members
  | .list items => do
    let (a, rest) ← f.ofItems 0 (.tooShort · name f.count) items
    if rest.isEmpty then pure a else .error (.tooLong items.length)
  | v => .error (.wrongType v (.record name))

end ReviewStream.Json
