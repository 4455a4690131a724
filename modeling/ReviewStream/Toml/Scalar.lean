import ReviewStream.Clock.Calendar
import ReviewStream.Json.Reader
import ReviewStream.Toml.Basic

/-!
# TOML scalars

Keys, strings, numbers and moments.  Numbers and moments are read in two steps: the run of
characters that they may consist of is taken from the text, and the whole run is then classified.

* `readString?`: the four kinds of strings.
* `readKey?`: a dotted key.
* `ofRun?`: the value of a run of characters.
-/

namespace ReviewStream.Toml

open Json (Reading)

/-- The blanks inside a line. -/
def isSpace (c : Char) : Bool := c == ' ' || c == '\t'

/-- Drops the blanks in front, inside a line. -/
def skipSpace (cs : List Char) : List Char := cs.dropWhile isSpace

/-- A line end in front: a line feed, or CR LF. -/
def newline? : List Char → Option (List Char)
  | '\n' :: rest => some rest
  | '\r' :: '\n' :: rest => some rest
  | _ => none

/-- Whether a character may stand in strings and comments as it is. -/
def isPlain (c : Char) : Bool :=
  c == '\t' || (0x20 ≤ c.toNat && c.toNat ≠ 0x7F)

/-! ## Strings -/

/-- The number of some hexadecimal digits. -/
def hexNumber? (cs : List Char) : Option Nat :=
  cs.foldlM (fun n c => (Json.hexValue? c).map (n * 16 + ·)) 0

/-- The character of a given number, unless it is a surrogate or beyond the last one. -/
def scalar? (n : Nat) : Option Char :=
  if n < 0xD800 ∨ (0xDFFF < n ∧ n < 0x110000) then some (Char.ofNat n) else none

/-- The character of an escape, the backslash being passed. -/
def readEscape? : List Char → Reading Char
  | 'b' :: r => some ('\x08', r)
  | 't' :: r => some ('\t', r)
  | 'n' :: r => some ('\n', r)
  | 'f' :: r => some ('\x0c', r)
  | 'r' :: r => some ('\r', r)
  | '"' :: r => some ('"', r)
  | '\\' :: r => some ('\\', r)
  | 'u' :: r =>
    if r.length < 4 then none
    else ((hexNumber? (r.take 4)).bind scalar?).map fun c => (c, r.drop 4)
  | 'U' :: r =>
    if r.length < 8 then none
    else ((hexNumber? (r.take 8)).bind scalar?).map fun c => (c, r.drop 8)
  | _ => none

/-- Drops blanks and line ends in front. -/
def skipLines : List Char → List Char
  | ' ' :: r => skipLines r
  | '\t' :: r => skipLines r
  | '\n' :: r => skipLines r
  | '\r' :: '\n' :: r => skipLines r
  | cs => cs

/-- The rest of a basic string after its opening quote. -/
def readBasic? : (fuel : Nat) → List Char → Reading (List Char)
  | 0, _ => none
  | fuel + 1, cs =>
    match cs with
    | '"' :: r => some ([], r)
    | '\\' :: r =>
      match readEscape? r with
      | none => none
      | some (c, r) => (readBasic? fuel r).map fun (s, r) => (c :: s, r)
    | c :: r => if isPlain c then (readBasic? fuel r).map fun (s, r) => (c :: s, r) else none
    | [] => none

/-- The rest of a literal string after its opening quote. -/
def readLiteral? : List Char → Reading (List Char)
  | '\'' :: r => some ([], r)
  | c :: r => if isPlain c then (readLiteral? r).map fun (s, r) => (c :: s, r) else none
  | [] => none

/-- A run of at least three quotes ends a string over several lines; up to two of them belong to
its text. -/
def closing? (quote : Char) (cs : List Char) : Reading (List Char) :=
  let run := (cs.takeWhile (· == quote)).length
  if run < 3 then none
  else
    let own := min run 5 - 3
    some (List.replicate own quote, cs.drop (own + 3))

/-- The rest of a basic string over several lines. -/
def readBasicLines? : (fuel : Nat) → List Char → Reading (List Char)
  | 0, _ => none
  | fuel + 1, cs =>
    match closing? '"' cs, newline? cs, cs with
    | some (own, r), _, _ => some (own, r)
    | none, some r, _ => (readBasicLines? fuel r).map fun (s, r) => ('\n' :: s, r)
    | none, none, '\\' :: r =>
      match newline? (skipSpace r), readEscape? r with
      | some r, _ => readBasicLines? fuel (skipLines r)
      | none, some (c, r) => (readBasicLines? fuel r).map fun (s, r) => (c :: s, r)
      | none, none => none
    | none, none, c :: r =>
      if isPlain c then (readBasicLines? fuel r).map fun (s, r) => (c :: s, r) else none
    | none, none, [] => none

/-- The rest of a literal string over several lines. -/
def readLiteralLines? : (fuel : Nat) → List Char → Reading (List Char)
  | 0, _ => none
  | fuel + 1, cs =>
    match closing? '\'' cs, newline? cs, cs with
    | some (own, r), _, _ => some (own, r)
    | none, some r, _ => (readLiteralLines? fuel r).map fun (s, r) => ('\n' :: s, r)
    | none, none, c :: r =>
      if isPlain c then (readLiteralLines? fuel r).map fun (s, r) => (c :: s, r) else none
    | none, none, [] => none

/-- Drops a line end that follows the opening quotes at once. -/
def dropFirstNewline (cs : List Char) : List Char :=
  (newline? cs).getD cs

/-- A string of any kind. -/
def readString? (cs : List Char) : Reading String :=
  let read : Reading (List Char) := match cs with
    | '"' :: '"' :: '"' :: r => readBasicLines? (r.length + 1) (dropFirstNewline r)
    | '"' :: r => readBasic? (r.length + 1) r
    | '\'' :: '\'' :: '\'' :: r => readLiteralLines? (r.length + 1) (dropFirstNewline r)
    | '\'' :: r => readLiteral? r
    | _ => none
  read.map fun (s, r) => (String.ofList s, r)

/-! ## Keys -/

/-- Whether a character may stand in a key without quotes. -/
def isBare (c : Char) : Bool :=
  c.isAlphanum || c == '_' || c == '-'

/-- One part of a key. -/
def readKeyPart? (cs : List Char) : Reading String :=
  match cs with
  | '"' :: r => (readBasic? (r.length + 1) r).map fun (s, r) => (String.ofList s, r)
  | '\'' :: r => (readLiteral? r).map fun (s, r) => (String.ofList s, r)
  | cs =>
    let part := cs.takeWhile isBare
    if part.isEmpty then none else some (String.ofList part, cs.dropWhile isBare)

/-- The parts of a dotted key, with blanks around them. -/
def readKey? : (fuel : Nat) → List Char → Reading (List String)
  | 0, _ => none
  | fuel + 1, cs =>
    match readKeyPart? (skipSpace cs) with
    | none => none
    | some (part, r) =>
      match skipSpace r with
      | '.' :: r => (readKey? fuel r).map fun (parts, r) => (part :: parts, r)
      | r => some ([part], r)

/-! ## Numbers -/

/-- Whether digits stand alone or with single underscores between them. -/
def isDigitRun (digit : Char → Bool) (cs : List Char) : Bool :=
  (Text.splitAll '_' cs).all fun part => !part.isEmpty && part.all digit

/-- The number that digits of a base stand for, underscores being passed over. -/
def numberOf (base : Nat) (cs : List Char) : Nat :=
  (cs.filter (· != '_')).foldl (fun n c => n * base + (Json.hexValue? c).getD 0) 0

/-- An integer of 64 bits. -/
def integer? (i : Int) : Option Toml :=
  if Int64.minValue.toInt ≤ i ∧ i ≤ Int64.maxValue.toInt then some (.integer i) else none

/-- Splits a sign off. -/
def cutSign : List Char → Bool × List Char
  | '-' :: r => (true, r)
  | '+' :: r => (false, r)
  | r => (false, r)

/-- Whether decimal digits stand without a superfluous zero in front. -/
def isDecimal (cs : List Char) : Bool :=
  isDigitRun Char.isDigit cs && (cs.length == 1 || cs.head? != some '0')

/-- The value of digits after the mark of their base. -/
def ofBase? (base : Nat) (digit : Char → Bool) (cs : List Char) : Option Toml :=
  if isDigitRun digit cs then integer? (numberOf base cs) else none

/-- An integer. -/
def ofIntegerRun? (run : List Char) : Option Toml :=
  match run with
  | '0' :: 'x' :: r => ofBase? 16 (fun c => (Json.hexValue? c).isSome) r
  | '0' :: 'o' :: r => ofBase? 8 (fun c => '0' ≤ c && c ≤ '7') r
  | '0' :: 'b' :: r => ofBase? 2 (fun c => c == '0' || c == '1') r
  | run =>
    let (negative, digits) := cutSign run
    if isDecimal digits then
      let n : Int := numberOf 10 digits
      integer? (if negative then -n else n)
    else none

/-- Whether a decimal number is below the greatest double. -/
def isFinite (digits : Nat) (exponent : Int) : Bool :=
  let size : Int := (Text.natDigits digits).length + exponent
  if digits = 0 ∨ size < -400 then true
  else if 400 < size then false
  else match exponent with
    | .ofNat n => (Binary64.ofRatio? (digits * Nat.pow 10 n) 1).isSome
    | .negSucc n => (Binary64.ofRatio? digits (Nat.pow 10 (n + 1))).isSome

/-- A floating point number: decimal digits with a fraction, an exponent or both, or one of the two
names.  A number beyond the greatest double is refused, one below the least is not. -/
def ofRealRun? (run : List Char) : Option Toml :=
  let (below, body) := cutSign run
  let literal := Toml.real (String.ofList run)
  if body = "inf".toList ∨ body = "nan".toList then some literal
  else
    let lower := body.map fun c => if c == 'E' then 'e' else c
    let (mantissa, exponent) := match Text.cutAt 'e' lower with
      | some (m, e) => (m, some e)
      | none => (lower, none)
    let (whole, fraction) := match Text.cutAt '.' mantissa with
      | some (w, f) => (w, some f)
      | none => (mantissa, none)
    let (negative, power) := cutSign (exponent.getD [])
    let wellFormed := isDecimal whole
      && fraction.all (isDigitRun Char.isDigit)
      && (exponent.isNone || isDigitRun Char.isDigit power)
      && (fraction.isSome || exponent.isSome)
    let places := ((fraction.getD []).filter (· != '_')).length
    let scale : Int := (if negative then -(numberOf 10 power : Int) else numberOf 10 power) - places
    let digits := numberOf 10 (whole ++ fraction.getD [])
    if wellFormed && (below || isFinite digits scale) then some literal else none

/-! ## Moments -/

/-- The number of exactly `count` digits in front. -/
def fixedDigits? (count : Nat) (cs : List Char) : Reading Nat :=
  let ds := cs.take count
  if ds.length = count ∧ ds.all Char.isDigit then some (numberOf 10 ds, cs.drop count) else none

/-- Takes a given character. -/
def mark? (c : Char) : List Char → Option (List Char)
  | d :: r => if c = d then some r else none
  | [] => none

/-- A date. -/
def date? (cs : List Char) : Option (List Char) := do
  let (year, r) ← fixedDigits? 4 cs
  let (month, r) ← fixedDigits? 2 (← mark? '-' r)
  let (day, r) ← fixedDigits? 2 (← mark? '-' r)
  let _ ← dayNumber? year month day
  pure r

/-- A time of day. -/
def time? (cs : List Char) : Option (List Char) := do
  let (hour, r) ← fixedDigits? 2 cs
  let (minute, r) ← fixedDigits? 2 (← mark? ':' r)
  let (second, r) ← fixedDigits? 2 (← mark? ':' r)
  if 23 < hour ∨ 59 < minute ∨ 60 < second then none
  else match r with
    | '.' :: r =>
      let ds := r.takeWhile Char.isDigit
      if ds.isEmpty then none else some (r.drop ds.length)
    | r => some r

/-- Whether a text is the offset of a moment, which may be absent. -/
def isOffset : List Char → Bool
  | [] => true
  | ['Z'] | ['z'] => true
  | sign :: r =>
    (sign == '+' || sign == '-') &&
      match (do
        let (hour, r) ← fixedDigits? 2 r
        let (minute, r) ← fixedDigits? 2 (← mark? ':' r)
        pure (hour ≤ 23 && minute ≤ 59 && r.isEmpty) : Option Bool) with
      | some b => b
      | none => false

/-- Whether a text is a date, a time, or both with an offset. -/
def isMoment (run : List Char) : Bool :=
  match date? run, time? run with
  | some [], _ => true
  | some (sep :: r), _ =>
    (sep == 'T' || sep == 't' || sep == ' ') && (time? r).any isOffset
  | none, some r => r.isEmpty
  | none, none => false

/-! ## Runs -/

/-- Whether a character may belong to a number, a moment or a name. -/
def isRunChar (c : Char) : Bool :=
  c.isAlphanum || c == '+' || c == '-' || c == '_' || c == '.' || c == ':'

/-- Takes the run in front.  A blank between a date and a time belongs to it. -/
def takeRun (cs : List Char) : List Char × List Char :=
  let run := cs.takeWhile isRunChar
  let rest := cs.dropWhile isRunChar
  match date? run, rest with
  | some [], ' ' :: c :: r =>
    if c.isDigit then
      (run ++ ' ' :: (c :: r).takeWhile isRunChar, (c :: r).dropWhile isRunChar)
    else (run, rest)
  | _, _ => (run, rest)

/-- The value of a whole run. -/
def ofRun? (run : List Char) : Option Toml :=
  if run = "true".toList then some (.bool true)
  else if run = "false".toList then some (.bool false)
  else if isMoment run then some (.moment (String.ofList run))
  else (ofIntegerRun? run).or (ofRealRun? run)

end ReviewStream.Toml
