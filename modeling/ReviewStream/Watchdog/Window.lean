import ReviewStream.Clock.Calendar

/-!
# Windows of expected silence

A recurring interval of the day in which a silent stream is nothing unusual.  A window whose start
is later than its end wraps past midnight, one whose start is its end covers whole days, and one
without weekdays applies to every day.

* `Window.contains`: whether a moment lies in a window.
* `isExempt`: whether it lies in one of several.
-/

namespace ReviewStream

/-- A recurring interval of the day. -/
structure Window where
  start : TimeOfDay
  stop : TimeOfDay
  weekdays : List Weekday
deriving DecidableEq

namespace Window

/-- Whether a window is between times that a program can hold. -/
structure InRange (w : Window) : Prop where
  start : w.start.InRange
  stop : w.stop.InRange

/-- Whether a window is between times that a clock shows. -/
structure IsProper (w : Window) : Prop where
  start : w.start.IsProper
  stop : w.stop.IsProper

/-- Whether a moment lies in the window, its weekday being looked up as it is at the moment. -/
def contains (w : Window) (t : LocalTime) : Bool :=
  (w.weekdays.isEmpty || w.weekdays.contains t.weekday) &&
    if w.start = w.stop then true
    else if w.start.less w.stop then w.start.lessEq t.time && t.time.less w.stop
    else w.start.lessEq t.time || t.time.less w.stop

/-- The shape of a window. -/
def shape : Json.Shape Window :=
  .record "WatchdogWindow" <|
    Window.mk <$> .required "start" TimeOfDay.shape <*> .required "end" TimeOfDay.shape
      <*> .defaulted "weekdays" [] Weekday.shape.items

/-- The record of a window. -/
def toJson (w : Window) : Json :=
  .object [("start", .text w.start.toText), ("end", .text w.stop.toText),
    ("weekdays", .texts (w.weekdays.map Weekday.shortName))]

/-- The text of a window: its interval, and its weekdays in brackets if it has any. -/
def toText (w : Window) : String :=
  w.start.toText ++ "-" ++ w.stop.toText ++
    if w.weekdays.isEmpty then ""
    else " [" ++ Text.joined ", " (w.weekdays.map Weekday.shortName) ++ "]"

end Window

/-- Whether a moment lies in one of the windows. -/
def isExempt (windows : List Window) (t : LocalTime) : Bool :=
  windows.any (·.contains t)

end ReviewStream
