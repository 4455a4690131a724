import ReviewStream.Json.Basic
import ReviewStream.Text.Integer

/-!
# Reading JSON

A reader for JSON texts.  The members of an object that was read are sorted by their keys, the last
of equal keys being kept.  Lists and objects may be nested up to a fixed depth; the depth is the
argument on which reading recurs.

* `read?`: the value of a text, if the text is one value with blanks around it.
* `readNumber`: numbers; an integer that leaves the range of 64 bits, and any number with a
  fraction or an exponent, is a double.
-/

namespace ReviewStream.Json

/-- The depth at which a list or an object is refused. -/
def depthLimit : Nat := 128

/-- A reader of one token or value: what was read and what follows it, or nothing if the text is
not well-formed. -/
abbrev Reading (α : Type) := Option (α × List Char)

/-- The blanks of JSON. -/
def isSpace (c : Char) : Bool :=
  c == ' ' || c == '\n' || c == '\t' || c == '\r'

/-- Drops the blanks in front. -/
def skip (cs : List Char) : List Char :=
  cs.dropWhile isSpace

/-! ## Numbers -/

/-- The greatest significand and the greatest unsigned integer. -/
def natLimit : Nat := UInt64.size - 1

/-- Takes digits onto a significand as long as they fit; `taken` counts them. -/
def takeDigits (significand taken : Nat) : List Char → Nat × Nat × List Char
  | [] => (significand, taken, [])
  | c :: cs =>
    match Text.digitValue? c with
    | none => (significand, taken, c :: cs)
    | some d =>
      if natLimit < significand * 10 + d then (significand, taken, c :: cs)
      else takeDigits (significand * 10 + d) (taken + 1) cs

/-- The digits in front and what follows them. -/
def spanDigits (cs : List Char) : List Char × List Char :=
  (cs.takeWhile (Text.digitValue? · |>.isSome), cs.dropWhile (Text.digitValue? · |>.isSome))

/-- The exponent after its letter: an optional sign and at least one digit. -/
def readExponent (cs : List Char) : Reading Int :=
  let (sign, cs) : Int × List Char := match cs with
    | '+' :: cs => (1, cs)
    | '-' :: cs => (-1, cs)
    | cs => (1, cs)
  match spanDigits cs with
  | ([], _) => none
  | (ds, rest) =>
    some (sign * (ds.foldl (fun n c => n * 10 + (Text.digitValue? c).getD 0) 0 : Nat), rest)

/-- The double for a significand, with an exponent part if one follows. -/
def readScaled (negative : Bool) (significand : Nat) (exponent : Int) (cs : List Char) :
    Reading Number :=
  let scaled : Reading Int := match cs with
    | 'e' :: cs | 'E' :: cs => (readExponent cs).map fun (e, rest) => (exponent + e, rest)
    | cs => some (exponent, cs)
  match scaled with
  | none => none
  | some (exponent, rest) =>
    (Binary64.ofDecimal? significand exponent).map fun x =>
      (.real (if negative then x.negate else x), rest)

/-- The double for a number whose fraction follows, the point being passed: the digits that fit
into the significand are taken, the others have no influence. -/
def readFraction (negative : Bool) (significand : Nat) (exponent : Int) (cs : List Char) :
    Reading Number :=
  if (spanDigits cs).1.isEmpty then none
  else
    let (significand, taken, rest) := takeDigits significand 0 cs
    readScaled negative significand (exponent - taken) (spanDigits rest).2

/-- A number without its sign.  Digits of the integer part that no longer fit into the significand
count as powers of ten. -/
def readMagnitude (negative : Bool) (cs : List Char) : Reading Number :=
  match spanDigits cs with
  | ([], _) => none
  | ('0' :: _ :: _, _) => none
  | (digits, _) =>
    let (significand, taken, rest) := takeDigits 0 0 cs
    let dropped := digits.length - taken
    match (spanDigits rest).2 with
    | '.' :: rest => readFraction negative significand dropped rest
    | 'e' :: rest => readScaled negative significand dropped ('e' :: rest)
    | 'E' :: rest => readScaled negative significand dropped ('E' :: rest)
    | rest =>
      if 0 < dropped then readScaled negative significand dropped rest
      else if negative then
        if significand = 0 ∨ -(significand : Int) < Int64.minValue.toInt then
          some (.real (Binary64.ofNat significand).negate, rest)
        else some (.integer (-(significand : Int)), rest)
      else some (.integer significand, rest)

/-- A number. -/
def readNumber : List Char → Reading Number
  | '-' :: cs => readMagnitude true cs
  | cs => readMagnitude false cs

/-! ## Strings -/

/-- The value of a hexadecimal digit of either case. -/
def hexValue? (c : Char) : Option Nat :=
  if '0' ≤ c ∧ c ≤ '9' then some (c.toNat - '0'.toNat)
  else if 'a' ≤ c ∧ c ≤ 'f' then some (c.toNat - 'a'.toNat + 10)
  else if 'A' ≤ c ∧ c ≤ 'F' then some (c.toNat - 'A'.toNat + 10)
  else none

/-- The number of four hexadecimal digits. -/
def hexUnit? (a b c d : Char) : Option Nat := do
  pure ((((← hexValue? a) * 16 + (← hexValue? b)) * 16 + (← hexValue? c)) * 16 + (← hexValue? d))

/-- The characters of a string after its opening quote, up to and without the closing one.  A
surrogate is read only as the first half of a pair that is complete. -/
def readString : List Char → Reading (List Char)
  | [] => none
  | '"' :: cs => some ([], cs)
  | '\\' :: '"' :: cs => (readString cs).map fun (s, r) => ('"' :: s, r)
  | '\\' :: '\\' :: cs => (readString cs).map fun (s, r) => ('\\' :: s, r)
  | '\\' :: '/' :: cs => (readString cs).map fun (s, r) => ('/' :: s, r)
  | '\\' :: 'b' :: cs => (readString cs).map fun (s, r) => ('\x08' :: s, r)
  | '\\' :: 'f' :: cs => (readString cs).map fun (s, r) => ('\x0c' :: s, r)
  | '\\' :: 'n' :: cs => (readString cs).map fun (s, r) => ('\n' :: s, r)
  | '\\' :: 'r' :: cs => (readString cs).map fun (s, r) => ('\r' :: s, r)
  | '\\' :: 't' :: cs => (readString cs).map fun (s, r) => ('\t' :: s, r)
  | '\\' :: 'u' :: a :: b :: c :: d :: cs =>
    match hexUnit? a b c d with
    | none => none
    | some unit =>
      if unit < 0xD800 ∨ 0xDFFF < unit then
        (readString cs).map fun (s, r) => (Char.ofNat unit :: s, r)
      else if 0xDC00 ≤ unit then none
      else match cs with
        | '\\' :: 'u' :: a :: b :: c :: d :: cs =>
          match hexUnit? a b c d with
          | none => none
          | some low =>
            if low < 0xDC00 ∨ 0xDFFF < low then none
            else
              let c := Char.ofNat (0x10000 + (unit - 0xD800) * 0x400 + (low - 0xDC00))
              (readString cs).map fun (s, r) => (c :: s, r)
        | _ => none
  | '\\' :: _ => none
  | c :: cs => if c.toNat < 0x20 then none else (readString cs).map fun (s, r) => (c :: s, r)

/-! ## Values -/

/-- The items of a list from the first on, up to its closing bracket. -/
def readItems (value : List Char → Reading Json) : (fuel : Nat) → List Char → Reading (List Json)
  | 0, _ => none
  | fuel + 1, cs =>
    match value cs with
    | none => none
    | some (v, rest) =>
      match skip rest with
      | ']' :: rest => some ([v], rest)
      | ',' :: rest => (readItems value fuel rest).map fun (vs, rest) => (v :: vs, rest)
      | _ => none

/-- A key with blanks before it and the colon after it. -/
def readKey (cs : List Char) : Reading String :=
  match skip cs with
  | '"' :: cs =>
    match readString cs with
    | none => none
    | some (key, rest) =>
      match skip rest with
      | ':' :: rest => some (String.ofList key, rest)
      | _ => none
  | _ => none

/-- The members of an object from the first key on, up to its closing brace, in their order in the
text.  What a member has for a value is up to the reader of values. -/
def readMembers {α : Type} (value : List Char → Reading α) :
    (fuel : Nat) → List Char → Reading (List (String × α))
  | 0, _ => none
  | fuel + 1, cs =>
    match readKey cs with
    | none => none
    | some (key, rest) =>
      match value rest with
      | none => none
      | some (v, rest) =>
        match skip rest with
        | '}' :: rest => some ([(key, v)], rest)
        | ',' :: rest =>
          (readMembers value fuel rest).map fun (members, rest) => ((key, v) :: members, rest)
        | _ => none

/-- A value with blanks before it, inside at most `depth - 1` further lists and objects. -/
def readValue : (depth : Nat) → List Char → Reading Json
  | 0, _ => none
  | depth + 1, cs =>
    match skip cs with
    | 'n' :: 'u' :: 'l' :: 'l' :: rest => some (.null, rest)
    | 't' :: 'r' :: 'u' :: 'e' :: rest => some (.bool true, rest)
    | 'f' :: 'a' :: 'l' :: 's' :: 'e' :: rest => some (.bool false, rest)
    | '"' :: rest => (readString rest).map fun (s, rest) => (.text (String.ofList s), rest)
    | '[' :: rest =>
      if depth = 0 then none
      else match skip rest with
        | ']' :: rest => some (.list [], rest)
        | rest => (readItems (readValue depth) rest.length rest).map fun (vs, rest) =>
          (.list vs, rest)
    | '{' :: rest =>
      if depth = 0 then none
      else match skip rest with
        | '}' :: rest => some (.object [], rest)
        | rest => (readMembers (readValue depth) rest.length rest).map fun (members, rest) =>
          (.object (sortMembers members), rest)
    | cs => (readNumber cs).map fun (n, rest) => (.number n, rest)

/-- The value of a text that is one value with blanks around it. -/
def readChars? (cs : List Char) : Option Json :=
  match readValue depthLimit cs with
  | none => none
  | some (v, rest) => if (skip rest).isEmpty then some v else none

/-- The value of a text that is one value with blanks around it. -/
def read? (s : String) : Option Json :=
  readChars? s.toList

end ReviewStream.Json
