import Mathlib.Data.Prod.Lex
import ReviewStream.Watchdog.Window

/-!
# The moments in a window

A window applies to the days whose weekday it lists.  On each of them it is one interval: the whole
day if its start is its end, and otherwise from its start to its end, which comes on the following
day if it is earlier than the start.

* `TimeOfDay.stamp`, `LocalTime.stamp`: times and moments as points of a linear order.
* `Window.AppliesOn`: the days that a window applies to.
* `Window.contains_iff_of_wraps`, `Window.exists_day_iff`: what a window that wraps past midnight
  contains, and what the intervals of its days cover.
* `Window.contains_iff_of_everyDay`: without weekdays, both are the same.
* **`Window.contains_iff_intervals`**: a window contains the moments of its intervals, but for those
  after midnight if only one of the two days around that midnight is listed.
-/

namespace ReviewStream

/-! ## The order of moments -/

/-- The place of a time in the day. -/
def TimeOfDay.stamp (a : TimeOfDay) : ℕ ×ₗ ℕ := toLex (a.second, a.nano)

/-- The place of a moment among all moments. -/
def LocalTime.stamp (t : LocalTime) : ℤ ×ₗ ℕ ×ₗ ℕ := toLex (t.day, t.time.stamp)

namespace TimeOfDay

variable {a b : TimeOfDay}

lemma less_iff : a.less b = true ↔ a.stamp < b.stamp := by
  rw [stamp, stamp, Prod.Lex.toLex_lt_toLex, less]
  simp

lemma lessEq_iff : a.lessEq b = true ↔ a.stamp ≤ b.stamp := by
  rw [lessEq, Bool.not_eq_true', ← Bool.not_eq_true, less_iff, not_lt]

end TimeOfDay

namespace Window

variable {w : Window} {t : LocalTime}

/-- Whether a window applies to a day: its weekday is listed, or none is. -/
def AppliesOn (w : Window) (day : Int) : Prop := w.weekdays = [] ∨ weekdayOf day ∈ w.weekdays

/-! ## What a window contains -/

lemma appliesOn_iff :
    (w.weekdays.isEmpty || w.weekdays.contains t.weekday) = true ↔ w.AppliesOn t.day := by
  rw [AppliesOn, Bool.or_eq_true, List.isEmpty_iff, List.contains_iff_mem, LocalTime.weekday]

lemma contains_iff_of_whole (h : w.start = w.stop) : w.contains t ↔ w.AppliesOn t.day := by
  rw [contains, if_pos h, Bool.and_true, appliesOn_iff]

lemma contains_iff_of_inside (h : w.start.stamp < w.stop.stamp) :
    w.contains t ↔ w.AppliesOn t.day ∧ w.start.stamp ≤ t.time.stamp
      ∧ t.time.stamp < w.stop.stamp := by
  have hne : w.start ≠ w.stop := fun heq => h.ne (congrArg TimeOfDay.stamp heq)
  rw [contains, if_neg hne, if_pos (TimeOfDay.less_iff.mpr h), Bool.and_eq_true, Bool.and_eq_true,
    appliesOn_iff, TimeOfDay.lessEq_iff, TimeOfDay.less_iff]

/-- What wraps past midnight is looked at from the day of the moment, on both sides of midnight. -/
lemma contains_iff_of_wraps (h : w.stop.stamp < w.start.stamp) :
    w.contains t ↔ w.AppliesOn t.day ∧ (w.start.stamp ≤ t.time.stamp
      ∨ t.time.stamp < w.stop.stamp) := by
  have hne : w.start ≠ w.stop := fun heq => h.ne' (congrArg TimeOfDay.stamp heq)
  have hless : ¬ w.start.less w.stop = true := fun hless => h.asymm (TimeOfDay.less_iff.mp hless)
  rw [contains, if_neg hne, if_neg hless, Bool.and_eq_true, appliesOn_iff, Bool.or_eq_true,
    TimeOfDay.lessEq_iff, TimeOfDay.less_iff]

/-! ## The intervals of a window -/

/-- The interval of a day reaches a moment of that day from the start on, and a moment of the next
day up to the end. -/
lemma exists_day_iff (w : Window) (t : LocalTime) :
    (∃ day, w.AppliesOn day ∧ (LocalTime.mk day w.start).stamp ≤ t.stamp
        ∧ t.stamp < (LocalTime.mk (day + 1) w.stop).stamp)
      ↔ w.AppliesOn t.day ∧ w.start.stamp ≤ t.time.stamp
        ∨ w.AppliesOn (t.day - 1) ∧ t.time.stamp < w.stop.stamp := by
  simp only [LocalTime.stamp, Prod.Lex.toLex_le_toLex, Prod.Lex.toLex_lt_toLex]
  constructor
  · rintro ⟨day, happlies, hle, hlt⟩
    rcases hlt with hbefore | ⟨hnext, htime⟩
    · rcases hle with hearlier | ⟨rfl, htime⟩
      · omega
      · exact .inl ⟨happlies, htime⟩
    · have hday : t.day - 1 = day := by omega
      exact .inr ⟨hday ▸ happlies, htime⟩
  · rintro (⟨happlies, htime⟩ | ⟨happlies, htime⟩)
    · exact ⟨t.day, happlies, .inr ⟨rfl, htime⟩, .inl (by omega)⟩
    · exact ⟨t.day - 1, happlies, .inl (by omega), .inr ⟨by omega, htime⟩⟩

/-- A window that wraps past midnight is right about a moment unless the moment comes after midnight
and only one of the days on both sides of that midnight is listed. -/
lemma contains_iff_exists_day_iff (h : w.stop.stamp < w.start.stamp) :
    (w.contains t ↔ ∃ day, w.AppliesOn day ∧ (LocalTime.mk day w.start).stamp ≤ t.stamp
        ∧ t.stamp < (LocalTime.mk (day + 1) w.stop).stamp)
      ↔ (t.time.stamp < w.stop.stamp → (w.AppliesOn t.day ↔ w.AppliesOn (t.day - 1))) := by
  rw [contains_iff_of_wraps h, exists_day_iff]
  by_cases hafter : t.time.stamp < w.stop.stamp
  · have hbefore : ¬ w.start.stamp ≤ t.time.stamp := not_le.mpr (hafter.trans h)
    simp only [hafter, hbefore, or_true, and_true, and_false, false_or, true_implies]
  · simp only [hafter, or_false, and_false, false_implies]

/-- A window that lists no weekday has the moments of one interval per day. -/
lemma contains_iff_of_everyDay (hevery : w.weekdays = []) (h : w.stop.stamp < w.start.stamp) :
    w.contains t ↔ ∃ day, (LocalTime.mk day w.start).stamp ≤ t.stamp
      ∧ t.stamp < (LocalTime.mk (day + 1) w.stop).stamp := by
  have happlies (day : Int) : w.AppliesOn day := .inl hevery
  have hright := (contains_iff_exists_day_iff h).mpr fun _ =>
    iff_of_true (happlies t.day) (happlies (t.day - 1))
  simpa only [happlies, true_and] using hright

/-- **A window is one interval for each day that it applies to**, and one of several windows exempts
a moment.  A window that wraps past midnight fails at the moments after midnight, where it looks at
the weekday of the moment and not at that of the day on which the interval began: there, it is right
exactly if both of these days are listed or neither is. -/
theorem contains_iff_intervals (w : Window) (windows : List Window) (t : LocalTime) :
    (w.start = w.stop → (w.contains t ↔ w.AppliesOn t.day))
      ∧ (w.start.stamp < w.stop.stamp →
        (w.contains t ↔ w.AppliesOn t.day ∧ w.start.stamp ≤ t.time.stamp
          ∧ t.time.stamp < w.stop.stamp))
      ∧ (w.stop.stamp < w.start.stamp →
        ((w.contains t ↔ ∃ day, w.AppliesOn day ∧ (LocalTime.mk day w.start).stamp ≤ t.stamp
            ∧ t.stamp < (LocalTime.mk (day + 1) w.stop).stamp)
          ↔ (t.time.stamp < w.stop.stamp → (w.AppliesOn t.day ↔ w.AppliesOn (t.day - 1)))))
      ∧ (isExempt windows t ↔ ∃ w ∈ windows, w.contains t) :=
  ⟨contains_iff_of_whole, contains_iff_of_inside, contains_iff_exists_day_iff, List.any_eq_true⟩

/-- Five in the morning on Saturday, the sixth of January 2024: a night that lists Friday and
Saturday contains it as a part of Friday's interval, and so does the whole of Saturday; Saturday's
noon does not. -/
theorem contains_iff_intervals_of_saturday :
    let night : Window := ⟨⟨79200, 0⟩, ⟨21600, 0⟩, [.fri, .sat]⟩
    let noon : Window := ⟨⟨43200, 0⟩, ⟨46800, 0⟩, [.sat]⟩
    let whole : Window := ⟨⟨0, 0⟩, ⟨0, 0⟩, [.sat]⟩
    let t : LocalTime := ⟨19728, ⟨18000, 0⟩⟩
    (whole.start = whole.stop ∧ noon.start.stamp < noon.stop.stamp
        ∧ night.stop.stamp < night.start.stamp ∧ t.time.stamp < night.stop.stamp
        ∧ (night.AppliesOn t.day ↔ night.AppliesOn (t.day - 1)))
      ∧ whole.contains t ∧ ¬ noon.contains t
      ∧ (night.contains t ∧ ∃ day, night.AppliesOn day
        ∧ (LocalTime.mk day night.start).stamp ≤ t.stamp
        ∧ t.stamp < (LocalTime.mk (day + 1) night.stop).stamp)
      ∧ isExempt [noon, night] t := by
  intro night noon whole t
  have hnight : night.stop.stamp < night.start.stamp := by decide
  have hnoon : noon.start.stamp < noon.stop.stamp := by decide
  have hdays : night.AppliesOn t.day ↔ night.AppliesOn (t.day - 1) :=
    iff_of_true (.inr (by decide)) (.inr (by decide))
  obtain ⟨hwhole, -, -, -⟩ := contains_iff_intervals whole [] t
  obtain ⟨-, hinside, -, -⟩ := contains_iff_intervals noon [] t
  obtain ⟨-, -, hwraps, hexempt⟩ := contains_iff_intervals night [noon, night] t
  have hcontains : night.contains t := by decide
  refine ⟨⟨rfl, hnoon, hnight, by decide, hdays⟩, (hwhole rfl).mpr (.inr (by decide)), ?_,
    ⟨hcontains, ((hwraps hnight).mpr fun _ => hdays).mp hcontains⟩,
    hexempt.mpr ⟨night, by simp, hcontains⟩⟩
  rw [hinside hnoon]
  exact fun hafter => absurd hafter.2.1 (by decide)

/-- **After midnight a window looks at the wrong day.**  A night that lists Saturday only does not
contain five in the morning on Sunday, which is in Saturday's interval, but contains five in the
morning on Saturday, which is in no interval. -/
theorem contains_ne_intervals_after_midnight :
    let night : Window := ⟨⟨79200, 0⟩, ⟨21600, 0⟩, [.sat]⟩
    let saturday : LocalTime := ⟨19728, ⟨18000, 0⟩⟩
    let sunday : LocalTime := ⟨19729, ⟨18000, 0⟩⟩
    night.stop.stamp < night.start.stamp
      ∧ (night.contains sunday = false ∧ ∃ day, night.AppliesOn day
        ∧ (LocalTime.mk day night.start).stamp ≤ sunday.stamp
        ∧ sunday.stamp < (LocalTime.mk (day + 1) night.stop).stamp)
      ∧ night.contains saturday = true ∧ ¬ ∃ day, night.AppliesOn day
        ∧ (LocalTime.mk day night.start).stamp ≤ saturday.stamp
        ∧ saturday.stamp < (LocalTime.mk (day + 1) night.stop).stamp := by
  intro night saturday sunday
  refine ⟨by decide, ⟨by decide, ?_⟩, by decide, ?_⟩
  · rw [exists_day_iff]
    exact .inr ⟨.inr (by decide), by decide⟩
  · rw [exists_day_iff, not_or, not_and, not_and]
    refine ⟨fun _ => by decide, fun hfriday => ?_⟩
    rcases hfriday with hnone | hlisted
    · cases hnone
    · exact absurd hlisted (by decide)

end Window

end ReviewStream
