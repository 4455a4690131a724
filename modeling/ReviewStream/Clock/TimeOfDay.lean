import ReviewStream.Json.Fields
import ReviewStream.Text.Blank

/-!
# Times of day

A time of day counts whole seconds since midnight and nanoseconds; a leap second is kept as a
fraction of a second or more on top of second 59.

* `TimeOfDay.read?`: hours, minutes and, if they are given, seconds with a fraction.
* `TimeOfDay.toText`: two digits each, and a fraction of 3, 6 or 9 digits if it is not zero.
-/

namespace ReviewStream

/-- A time of day. -/
structure TimeOfDay where
  /-- Whole seconds since midnight. -/
  second : Nat
  /-- Nanoseconds, beyond `10 ^ 9` in a leap second. -/
  nano : Nat
deriving DecidableEq

namespace TimeOfDay

/-- Nanoseconds in a second. -/
def nanosPerSecond : Nat := 1000000000

/-- Whether a time is one that a program can hold, in which a leap second may stand on top of any
second. -/
structure InRange (t : TimeOfDay) : Prop where
  second_lt : t.second < 86400
  nano_lt : t.nano < 2 * nanosPerSecond

/-- Whether a time is one that a clock shows: a leap second stands on top of second 59 only. -/
structure IsProper (t : TimeOfDay) : Prop extends InRange t where
  leap : nanosPerSecond ≤ t.nano → t.second % 60 = 59

/-- Whether a time comes before another. -/
def less (a b : TimeOfDay) : Bool :=
  a.second < b.second || (a.second == b.second && a.nano < b.nano)

/-- Whether a time is another or comes before it. -/
def lessEq (a b : TimeOfDay) : Bool := !b.less a

/-! ## Reading -/

/-- A number of one or two digits with blanks before it. -/
def readPair (cs : List Char) : Except Json.ClockFault (Nat × List Char) :=
  match Text.trimStart cs with
  | [] => .error .short
  | c :: rest =>
    match Text.digitValue? c, rest with
    | none, _ => .error .invalid
    | some d, [] => .ok (d, [])
    | some d, c :: more =>
      match Text.digitValue? c with
      | none => .ok (d, c :: more)
      | some e => .ok (d * 10 + e, more)

/-- A number of one or two digits that must not exceed a limit. -/
def readUpTo (limit : Nat) (cs : List Char) : Except Json.ClockFault (Nat × List Char) := do
  let (n, rest) ← readPair cs
  if limit < n then .error .outOfRange else pure (n, rest)

/-- A colon with blanks before it. -/
def readColon (cs : List Char) : Except Json.ClockFault (List Char) :=
  match Text.trimStart cs with
  | [] => .error .short
  | ':' :: rest => .ok rest
  | _ => .error .invalid

/-- The nanoseconds of a fraction, if a point follows: nine digits count, the others are
dropped. -/
def readFraction (cs : List Char) : Except Json.ClockFault (Nat × List Char) :=
  match cs with
  | '.' :: rest =>
    let digits := rest.takeWhile (Text.digitValue? · |>.isSome)
    if digits.isEmpty then .error (if rest.isEmpty then .short else .invalid)
    else
      let nine := (digits ++ List.replicate 9 '0').take 9
      let nano := nine.foldl (fun n c => n * 10 + (Text.digitValue? c).getD 0) 0
      .ok (nano, rest.drop digits.length)
  | cs => .ok (0, cs)

/-- The seconds after the minutes: from 0 to 60, with a fraction. -/
def readSeconds (cs : List Char) : Except Json.ClockFault ((Nat × Nat) × List Char) := do
  let rest ← readColon cs
  let (second, rest) ← readUpTo 60 rest
  let (nano, rest) ← readFraction rest
  pure ((second, nano), Text.trimStart rest)

/-- The time of hours, minutes and seconds. -/
def ofParts (hour minute second nano : Nat) : TimeOfDay :=
  if second = 60 then ⟨(hour * 60 + minute) * 60 + 59, nanosPerSecond + nano⟩
  else ⟨(hour * 60 + minute) * 60 + second, nano⟩

/-- The hour and the minute in front. -/
def readHourMinute (cs : List Char) : Except Json.ClockFault ((Nat × Nat) × List Char) := do
  let (hour, rest) ← readUpTo 23 cs
  let rest ← readColon rest
  let (minute, rest) ← readUpTo 59 rest
  pure ((hour, minute), rest)

/-- A time with blanks around its parts.  Seconds that cannot be read are no seconds, and what
stands in their place is then left over. -/
def readChars? (cs : List Char) : Except Json.ClockFault TimeOfDay := do
  let ((hour, minute), rest) ← readHourMinute cs
  let ((second, nano), rest) := match readSeconds rest with
    | .ok r => r
    | .error _ => ((0, 0), rest)
  if (Text.trimStart rest).isEmpty then pure (ofParts hour minute second nano) else .error .long

/-- A time with blanks around its parts, the seconds being among them. -/
def readFull? (cs : List Char) : Except Json.ClockFault TimeOfDay := do
  let ((hour, minute), rest) ← readHourMinute cs
  let ((second, nano), rest) ← readSeconds rest
  if rest.isEmpty then pure (ofParts hour minute second nano) else .error .long

/-- The time that a text is. -/
def read? (s : String) : Except Json.ClockFault TimeOfDay := readChars? s.toList

/-- The shape of a time. -/
def shape : Json.Shape TimeOfDay
  | .text s => (read? s).mapError .clock
  | v => .error (.wrongType v .clockText)

/-! ## Writing -/

/-- The fraction of a second: none, or a point and 3, 6 or 9 digits. -/
def fractionText (nano : Nat) : String :=
  if nano = 0 then ""
  else if nano % 1000000 = 0 then "." ++ Text.paddedText 3 (nano / 1000000)
  else if nano % 1000 = 0 then "." ++ Text.paddedText 6 (nano / 1000)
  else "." ++ Text.paddedText 9 nano

/-- The text of a time. -/
def toText (t : TimeOfDay) : String :=
  let leap := t.nano / nanosPerSecond
  Text.paddedText 2 (t.second / 3600) ++ ":" ++ Text.paddedText 2 (t.second / 60 % 60) ++ ":"
    ++ Text.paddedText 2 (t.second % 60 + leap) ++ fractionText (t.nano % nanosPerSecond)

end TimeOfDay

end ReviewStream
