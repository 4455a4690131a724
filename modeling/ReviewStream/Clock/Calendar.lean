import ReviewStream.Clock.TimeOfDay
import ReviewStream.Text.Pieces

/-!
# Days

A day is its number, counted from the first of January 1970, which was a Thursday.

* `Weekday`: the days of the week, and `weekdayOf` the one of a day.
* `LocalTime`: a day and a time of that day.
* `LocalTime.read?`: a date and a time with a `T` between them.
-/

namespace ReviewStream

/-- A day of the week. -/
inductive Weekday where
  | mon | tue | wed | thu | fri | sat | sun
deriving DecidableEq

namespace Weekday

/-- The days of the week from Monday on. -/
def all : List Weekday := [.mon, .tue, .wed, .thu, .fri, .sat, .sun]

/-- The short name of a day. -/
def shortName : Weekday → String
  | .mon => "Mon"
  | .tue => "Tue"
  | .wed => "Wed"
  | .thu => "Thu"
  | .fri => "Fri"
  | .sat => "Sat"
  | .sun => "Sun"

/-- The full name of a day. -/
def fullName : Weekday → String
  | .mon => "Monday"
  | .tue => "Tuesday"
  | .wed => "Wednesday"
  | .thu => "Thursday"
  | .fri => "Friday"
  | .sat => "Saturday"
  | .sun => "Sunday"

/-- The day with a given short or full name, in any mix of cases. -/
def ofName? (name : String) : Option Weekday :=
  let lower (s : String) := s.toList.map Char.toLower
  all.find? fun d => lower d.shortName == lower name || lower d.fullName == lower name

/-- The shape of a day. -/
def shape : Json.Shape Weekday
  | .text s => match ofName? s with
    | some d => .ok d
    | none => .error .weekday
  | v => .error (.wrongType v .weekday)

end Weekday

/-- The weekday of a day number. -/
def weekdayOf (day : Int) : Weekday :=
  match (day + 3) % 7 with
  | 0 => .mon
  | 1 => .tue
  | 2 => .wed
  | 3 => .thu
  | 4 => .fri
  | 5 => .sat
  | _ => .sun

/-- A moment on the local clock. -/
structure LocalTime where
  day : Int
  time : TimeOfDay
deriving DecidableEq

/-- The weekday of a moment. -/
def LocalTime.weekday (t : LocalTime) : Weekday := weekdayOf t.day

/-! ## Dates -/

/-- Whether a year has a leap day. -/
def isLeapYear (year : Nat) : Bool :=
  year % 4 == 0 && (year % 100 != 0 || year % 400 == 0)

/-- How many days a month has. -/
def daysInMonth (year month : Nat) : Nat :=
  match month with
  | 2 => if isLeapYear year then 29 else 28
  | 4 | 6 | 9 | 11 => 30
  | _ => 31

/-- The number of days before a year, counted from year zero. -/
def daysBeforeYear (year : Nat) : Nat :=
  if year = 0 then 0 else
    let y := year - 1
    366 + y * 365 + y / 4 - y / 100 + y / 400

/-- The number of a day given by its date, if there is such a date. -/
def dayNumber? (year month day : Nat) : Option Int :=
  if month = 0 ∨ 12 < month ∨ day = 0 ∨ daysInMonth year month < day then none
  else
    let before := ((List.range month).drop 1).foldl (fun n m => n + daysInMonth year m) 0
    some ((daysBeforeYear year + before + (day - 1) : Nat) - (719528 : Int))

/-- The number that all of a text's digits stand for. -/
def allDigits? (cs : List Char) : Option Nat :=
  if cs.isEmpty then none
  else cs.foldlM (fun n c => (Text.digitValue? c).map (n * 10 + ·)) 0

/-- A moment written as `2024-02-29T22:30:00`, with a fraction if there is one. -/
def LocalTime.read? (s : String) : Option LocalTime := do
  let (date, clock) ← Text.cutAt 'T' s.toList
  match Text.splitAll '-' date with
  | [y, m, d] =>
    let day ← dayNumber? (← allDigits? y) (← allDigits? m) (← allDigits? d)
    match TimeOfDay.readFull? clock with
    | .ok time => some ⟨day, time⟩
    | .error _ => none
  | _ => none

end ReviewStream
