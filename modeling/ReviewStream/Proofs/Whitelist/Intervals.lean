import Mathlib.Algebra.Group.Nat.Defs
import Mathlib.Logic.Function.Iterate
import Mathlib.Tactic.Lemma
import Mathlib.Tactic.SplitIfs
import ReviewStream.Proofs.Whitelist.Refreshing

/-!
# Reloads at intervals

A refresh with a period reloads when it first runs and then once in every period, with what is in
the file at that moment.

* `WhitelistConfig.refreshSecs_eq_iff`: the period is what the settings ask for as long as it is
  below 2⁶⁴ seconds.
* `WhitelistConfig.refreshSecs_eq_zero_iff`: the only setting of a file that leaves no period.
* `Refresh.during`: a refresh that runs at every moment of some time.
* **`Refresh.during_eq`**: the reloads of a refresh.
* `Refresh.runUntil_eq_during`: a refresh that runs for some time at once does the same.
-/

namespace ReviewStream

/-! ## Periods -/

lemma toNat_max (m n : UInt64) : (max m n).toNat = max m.toNat n.toNat := by
  change (if m ≤ n then n else m).toNat = _
  split_ifs with h
  · exact (Nat.max_eq_right h).symm
  · exact (Nat.max_eq_left (Nat.le_of_not_le h)).symm

namespace WhitelistConfig

/-- The product is reckoned in words of 64 bits. -/
lemma toNat_refreshSecs (c : WhitelistConfig) :
    c.refreshSecs.toNat = 60 * max 1 c.refreshMinutes.toNat % 2 ^ 64 := by
  rw [refreshSecs, UInt64.toNat_mul, toNat_max, Nat.mul_comm, Nat.max_comm]
  rfl

/-- The period is what the settings ask for unless the product is too great for a word. -/
lemma refreshSecs_eq_iff (c : WhitelistConfig) :
    c.refreshSecs.toNat = 60 * max 1 c.refreshMinutes.toNat
      ↔ 60 * max 1 c.refreshMinutes.toNat < 2 ^ 64 := by
  rw [toNat_refreshSecs]
  exact ⟨fun h => h ▸ Nat.mod_lt _ (Nat.two_pow_pos 64), Nat.mod_eq_of_lt⟩

/-- Of the settings that fit into a file, just one leaves no period. -/
lemma refreshSecs_eq_zero_iff {c : WhitelistConfig} (h : c.refreshMinutes.toNat < 2 ^ 63) :
    c.refreshSecs.toNat = 0 ↔ c.refreshMinutes.toNat = 2 ^ 62 := by
  rw [toNat_refreshSecs]
  generalize c.refreshMinutes.toNat = minutes at h ⊢
  refine ⟨fun hzero => ?_, ?_⟩
  · rcases Nat.eq_zero_or_pos minutes with rfl | hpos
    · cases hzero
    · -- Sixty is four times an odd number, so all but two of the factors of 2⁶⁴ are the setting's.
      have hdvd : 4 * 2 ^ 62 ∣ 4 * (15 * minutes) := by
        rw [← Nat.mul_assoc, ← Nat.max_eq_right hpos]
        exact Nat.dvd_of_mod_eq_zero hzero
      have hcoprime : Nat.Coprime (2 ^ 62) 15 := .pow_left 62 (by decide)
      obtain ⟨k, rfl⟩ :=
        hcoprime.dvd_of_dvd_mul_left (Nat.dvd_of_mul_dvd_mul_left (by decide) hdvd)
      have hlt : k < 2 := Nat.lt_of_mul_lt_mul_left (a := 2 ^ 62) h
      have hk : 0 < k := Nat.pos_of_mul_pos_left hpos
      obtain rfl : k = 1 := by omega
      rfl
  · rintro rfl
    rfl

end WhitelistConfig

/-! ## Reloads -/

namespace Refresh

variable {location : String} {period moment due : Nat} {r : Refresh}

/-- How many reloads are due by a moment, the next one being due at `due`. -/
def dueBy (period due moment : Nat) : Nat := if moment < due then 0 else (moment - due) / period + 1

lemma dueBy_of_lt (h : moment < due) : dueBy period due moment = 0 := if_pos h

/-- After a reload, the others are due. -/
lemma dueBy_of_le (hperiod : 0 < period) (h : due ≤ moment) :
    dueBy period due moment = dueBy period (due + period) moment + 1 := by
  rw [dueBy, if_neg (Nat.not_lt.mpr h), dueBy]
  split_ifs with hlater
  · rw [Nat.div_eq_of_lt (by omega)]
  · have hsplit : moment - due = moment - (due + period) + period := by omega
    rw [hsplit, Nat.add_div_right _ hperiod]

lemma dueBy_le (period due moment : Nat) : dueBy period due moment ≤ moment + 1 - due := by
  rw [dueBy]
  split_ifs with hlater
  · exact Nat.zero_le _
  · have hdiv := Nat.div_le_self (moment - due) period
    omega

/-- Reloads happen as often as they are due. -/
lemma reloads_eq (files : Files) (hperiod : 0 < period) {fuel : Nat}
    (hfuel : dueBy period due moment ≤ fuel) (h : WhitelistHandle) :
    reloads files location period moment fuel due h
      = (due + dueBy period due moment * period,
        (fun h => (h.reload (files location)).2)^[dueBy period due moment] h) := by
  induction fuel generalizing due h with
  | zero =>
      rw [Nat.le_zero.mp hfuel, reloads, Nat.zero_mul, Nat.add_zero]
      rfl
  | succ fuel ih =>
      rw [reloads]
      split_ifs with hdue
      · rw [dueBy_of_le hperiod hdue] at hfuel ⊢
        rw [ih (Nat.le_of_succ_le_succ hfuel), Nat.add_mul, Nat.one_mul, Nat.add_assoc,
          Nat.add_comm period]
        rfl
      · rw [dueBy_of_lt (Nat.not_le.mp hdue), Nat.zero_mul, Nat.add_zero]
        rfl

/-- A refresh that goes on. -/
structure GoesOn (r : Refresh) : Prop where
  period_pos : 0 < r.period
  cancelled : r.cancelled = false
  finished : r.finished = false

lemma GoesOn.runUntil_eq (hr : r.GoesOn) (files : Files) (now moment : Nat) (h : WhitelistHandle)
    (hnext : r.next.getD now = due) :
    r.runUntil files now moment h
      = ({ r with next := some (due + dueBy r.period due moment * r.period) },
        (fun h => (h.reload (files r.location)).2)^[dueBy r.period due moment] h) := by
  rw [Refresh.runUntil_eq r hr.cancelled (Nat.ne_of_gt hr.period_pos) hr.finished, hnext,
    reloads_eq files hr.period_pos (dueBy_le _ _ _)]

/-- A refresh that runs at every moment of some time from `start` on, each time with what there is
at that moment. -/
def during (files : Nat → Files) (start : Nat) (r : Refresh) (h : WhitelistHandle) :
    Nat → Refresh × WhitelistHandle
  | 0 => (r, h)
  | n + 1 =>
    let (r, h) := r.during files start h n
    r.runUntil (files (start + n)) (start + n) (start + n) h

/-- Reloads at the beginning of so many periods. -/
def reloadsFrom (files : Nat → Files) (location : String) (period start k : Nat)
    (h : WhitelistHandle) : WhitelistHandle :=
  (List.range k).foldl (fun h j => (h.reload (files (start + j * period) location)).2) h

lemma reloadsFrom_succ (files : Nat → Files) (location : String) (period start k : Nat)
    (h : WhitelistHandle) :
    reloadsFrom files location period start (k + 1) h
      = ((reloadsFrom files location period start k h).reload
        (files (start + k * period) location)).2 := by
  rw [reloadsFrom, List.range_succ, List.foldl_append]
  rfl

/-- After some moments a refresh has reloaded at the beginning of all periods that have begun, and
the next one has not begun. -/
lemma exists_during (hr : r.GoesOn) (hnew : r.next = none) (files : Nat → Files) (start n : Nat)
    (h : WhitelistHandle) :
    ∃ next k, n ≤ k * r.period ∧ k * r.period < n + r.period
      ∧ next.getD (start + n) = start + k * r.period ∧ (0 < n → next.isSome = true)
      ∧ r.during files start h n
        = ({ r with next }, reloadsFrom files r.location r.period start k h) := by
  induction n with
  | zero =>
      refine ⟨r.next, 0, by omega, ?_, ?_, nofun, rfl⟩
      · have hpos := hr.period_pos
        omega
      · rw [hnew, Nat.zero_mul]
        rfl
  | succ n ih =>
      obtain ⟨next, k, hbegun, hlast, hnext, -, hbefore⟩ := ih
      have hgoes : ({ r with next } : Refresh).GoesOn := ⟨hr.period_pos, hr.cancelled, hr.finished⟩
      have hrun := hgoes.runUntil_eq (files (start + n)) (start + n) (start + n)
        (reloadsFrom files r.location r.period start k h) hnext
      dsimp only at hrun
      rw [during, hbefore]
      dsimp only
      rw [hrun]
      rcases Nat.lt_or_eq_of_le hbegun with hlt | heq
      · -- The next period has not begun yet.
        rw [dueBy_of_lt (Nat.add_lt_add_left hlt start), Nat.zero_mul, Nat.add_zero]
        exact ⟨_, k, hlt, by omega, rfl, fun _ => rfl, rfl⟩
      · have hdue : dueBy r.period (start + k * r.period) (start + n) = 1 := by
          rw [heq, dueBy_of_le hr.period_pos (Nat.le_refl _),
            dueBy_of_lt (Nat.lt_add_of_pos_right hr.period_pos)]
        have hpos := hr.period_pos
        rw [hdue, heq, Nat.one_mul]
        refine ⟨some _, k + 1, ?_, ?_, rfl, fun _ => rfl, ?_⟩
        · rw [Nat.add_mul]
          omega
        · rw [Nat.add_mul]
          omega
        · rw [reloadsFrom_succ, Nat.add_mul, Nat.one_mul, Nat.add_assoc]
          rfl

/-- **A refresh reloads when it first runs and then once in every period**, each time what there is
at that moment. -/
theorem during_eq (hr : r.GoesOn) (hnew : r.next = none) (files : Nat → Files) (start n : Nat)
    (h : WhitelistHandle) :
    r.during files start h (n + 1)
      = ({ r with next := some (start + (n / r.period + 1) * r.period) },
        reloadsFrom files r.location r.period start (n / r.period + 1) h) := by
  obtain ⟨next, k, hbegun, hlast, hnext, hsome, hduring⟩ :=
    exists_during hr hnew files start (n + 1) h
  have hk : k = n / r.period + 1 := by
    cases k with
    | zero => omega
    | succ j =>
        rw [Nat.div_eq_of_lt_le ?_ hbegun]
        rw [Nat.add_mul] at hlast
        omega
  obtain ⟨due, rfl⟩ := Option.isSome_iff_exists.mp (hsome (Nat.succ_pos n))
  obtain rfl : due = start + k * r.period := hnext
  rw [hduring, ← hk]

/-- A refresh that runs for some time at once does the same, if nothing changes meanwhile. -/
lemma runUntil_eq_during (hr : r.GoesOn) (hnew : r.next = none) (files : Files) (start n : Nat)
    (h : WhitelistHandle) :
    r.runUntil files start (start + n) h = r.during (fun _ => files) start h (n + 1) := by
  have hdue : dueBy r.period start (start + n) = n / r.period + 1 := by
    rw [dueBy, if_neg (Nat.not_lt.mpr (Nat.le_add_right start n)), Nat.add_sub_cancel_left]
  have hfirst : r.next.getD start = start := by
    rw [hnew]
    rfl
  have hsame : ∀ k, (fun h : WhitelistHandle => (h.reload (files r.location)).2)^[k] h
      = reloadsFrom (fun _ => files) r.location r.period start k h := by
    intro k
    induction k with
    | zero => rfl
    | succ k ih => rw [Function.iterate_succ_apply', ih, reloadsFrom_succ]
  rw [during_eq hr hnew, hr.runUntil_eq files start (start + n) h hfirst, hdue, hsame]

end Refresh

end ReviewStream
