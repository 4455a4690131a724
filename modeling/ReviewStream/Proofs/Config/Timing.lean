import ReviewStream.Proofs.Config.Words
import ReviewStream.Proofs.Dispatch.Deadlines
import ReviewStream.Proofs.Whitelist.Intervals

/-!
# Times of settings that are loaded

Words of a file have 63 bits, but what is reckoned from them does not always fit: the period of a
refresh is a product of 64 bits, and the end of a grace period a moment of a clock that counts to
2⁶³ seconds.

* `WhitelistConfig.KeepsTime`: when the whitelist is reloaded.
* `Dispatcher.KeepsTime`: how far calls come that shut a dispatcher down.
* **`Config.times_of_ofFile?`**: both for all settings that are loaded.
-/

namespace ReviewStream

/-! ## Refreshes -/

namespace WhitelistConfig

/-- Milliseconds between two reloads, by the settings. -/
def period (c : WhitelistConfig) : Nat := 60000 * max 1 c.refreshMinutes.toNat

/-- When a whitelist is reloaded. -/
structure KeepsTime (c : WhitelistConfig) : Prop where
  /-- The seconds between two reloads are those of the settings unless they do not fit. -/
  exact : c.refreshSecs.toNat = 60 * max 1 c.refreshMinutes.toNat
    ↔ 60 * max 1 c.refreshMinutes.toNat < 2 ^ 64
  /-- Just one setting leaves a refresh without a period, and such a refresh crashes. -/
  crash : ∀ r, Refresh.start? c = some r →
    (r.period = 0 ↔ c.refreshMinutes.toNat = 2 ^ 62)
      ∧ (r.period = 0 → ∀ files now moment h,
        r.runUntil files now moment h = ({ r with finished := true }, h))
  /-- If the seconds fit, the whitelist is reloaded at once and then once in each period. -/
  reloads : 60 * max 1 c.refreshMinutes.toNat < 2 ^ 64 → ∀ r, Refresh.start? c = some r →
    ∀ files start n h, r.during files start h (n + 1)
      = ({ r with next := some (start + (n / c.period + 1) * c.period) },
        Refresh.reloadsFrom files r.location c.period start (n / c.period + 1) h)

lemma period_of_start? {c : WhitelistConfig} {r : Refresh} (h : Refresh.start? c = some r) :
    r.period = c.refreshSecs.toNat * 1000 := by
  obtain ⟨location, -, rfl⟩ := Option.map_eq_some_iff.mp h
  rfl

lemma keepsTime {c : WhitelistConfig} (h : c.refreshMinutes.toNat < 2 ^ 63) : c.KeepsTime where
  exact := c.refreshSecs_eq_iff
  crash r hr := by
    refine ⟨?_, fun hzero files now moment h => ?_⟩
    · rw [← refreshSecs_eq_zero_iff h, period_of_start? hr]
      exact ⟨fun hzero => by omega, fun hzero => by rw [hzero]⟩
    · obtain ⟨location, -, rfl⟩ := Option.map_eq_some_iff.mp hr
      exact Refresh.runUntil_of_period_eq_zero _ hzero rfl
  reloads hfits r hr files start n h := by
    have hperiod : r.period = c.period := by
      rw [period_of_start? hr, c.refreshSecs_eq_iff.mpr hfits, period]
      omega
    have hpos : 0 < r.period := by
      rw [hperiod, period]
      omega
    obtain ⟨location, -, rfl⟩ := Option.map_eq_some_iff.mp hr
    rw [← hperiod]
    exact Refresh.during_eq ⟨hpos, rfl, rfl⟩ rfl files start n h

end WhitelistConfig

/-! ## Shutdowns -/

namespace Dispatcher

/-- How far calls come that shut a dispatcher down. -/
structure KeepsTime (d : Dispatcher) : Prop where
  /-- A deadline can be expressed, and a shutdown that waits has a result, unless it is too late for
  the clock. -/
  deadline : ∀ now, (deadline? now d.graceSecs).isSome = true ↔ now + d.graceSecs.toNat < 2 ^ 63
  shutdown : ∀ population held now,
    (d.shutdown population held true now).isSome = true ↔ now + d.graceSecs.toNat < 2 ^ 63
  /-- Whatever workers and other calls do meanwhile, a call that shuts the dispatcher down has
  returned, can go on, waits no longer than a grace period, or has crashed over its deadline; it has
  had at most ten turns; and none has crashed unless it is too late for the clock. -/
  calls : ∀ population start acts s happened made,
    (Clocked.ofDispatcher d start).run population acts = some (s, happened, made) →
      (∀ call < s.attended.calls.length, s.Stands population call)
        ∧ (∀ call, acts.countP (·.isOf call) ≤ 10)
        ∧ (s.now + d.graceSecs.toNat < 2 ^ 63 → ∀ call, s.deadlines call ≠ .crashed)

lemma isSome_deadline?_iff {now : Nat} {grace : UInt64} :
    (deadline? now grace).isSome = true ↔ now + grace.toNat < 2 ^ 63 := by
  rw [Option.isSome_iff_ne_none, ne_eq, deadline?_eq_none_iff, Nat.not_le]

lemma keepsTime {d : Dispatcher} (hd : Attended.IsNew d) : d.KeepsTime where
  deadline now := isSome_deadline?_iff
  shutdown population held now := by
    rw [← isSome_deadline?_iff, Dispatcher.shutdown]
    cases deadline? now d.graceSecs <;> simp
    split <;> rfl
  calls population start acts s happened made h := Clocked.stands_of_run hd h

lemma isNew_ofConfig (c : DispatchConfig) (w : Whitelist) (decoder : Decoder) :
    Attended.IsNew (ofConfig c w decoder) := ⟨⟨_, _, rfl⟩, rfl⟩

end Dispatcher

/-! ## Settings -/

namespace Config

variable {path : String} {file : FileContent} {c : Config}

/-- **The times of settings that are loaded.**  All words have 63 bits.  Idle workers are kept for
ten seconds at least, the whitelist is reloaded in the periods of the settings if these fit, and a
shutdown that waits returns if the clock can express its deadlines. -/
theorem times_of_ofFile? (h : ofFile? path file = .ok c) :
    (∀ n ∈ c.words, n.toNat < 2 ^ 63)
      ∧ c.dispatch.keepAlive.toNat = max 10 c.dispatch.keepAliveSecs.toNat
      ∧ c.whitelist.KeepsTime
      ∧ ∀ w decoder, (Dispatcher.ofConfig c.dispatch w decoder).KeepsTime := by
  have hmax : Int64.maxValue.toInt = 2 ^ 63 - 1 := by decide
  have hwords : ∀ n ∈ c.words, n.toNat < 2 ^ 63 := by
    intro n hn
    have hfits : (n.toNat : Int) ≤ Int64.maxValue.toInt := fits_of_ofFile? h n hn
    omega
  have hrefresh : c.whitelist.refreshMinutes.toNat < 2 ^ 63 := hwords _ (by simp [words])
  refine ⟨hwords, ?_, WhitelistConfig.keepsTime hrefresh, fun w decoder => ?_⟩
  · rw [DispatchConfig.keepAlive, toNat_max, Nat.max_comm]
    rfl
  · exact Dispatcher.keepsTime (Dispatcher.isNew_ofConfig _ w decoder)

/-- A file whose settings ask for the shortest times.  The whitelist is reloaded after 0, 60 and 120
seconds.  A call that shuts the dispatcher down waits for a deadline that it has reckoned late. -/
theorem times_of_ofFile?_of_short_times :
    let text := "[gerrit]\nhost=\"h\"\nusername=\"u\"\n[dispatch]\nkeep_alive_secs=5\n"
      ++ "shutdown_grace_secs=7\n[whitelist]\nlocation=\"w\"\nrefresh_minutes=0\n"
    let listener : Listener := ⟨fun _ => true, fun _ _ => ⟨.failed ⟨"busy"⟩, []⟩⟩
    let acts : List Dispatcher.Clocked.Act := [.attend (.shutdown true), .attend (.goOn 0),
      .elapse 5, .reckon 0, .attend (.goOn 0)]
    ∃ c r s happened made, ofFile? "settings" (.octets (Text.encode text.toList)) = .ok c
      ∧ c.dispatch.keepAlive.toNat = 10 ∧ c.whitelist.refreshSecs.toNat = 60
      ∧ Refresh.start? c.whitelist = some r
      ∧ (∀ files h, (r.during files 0 h 120001).2
          = Refresh.reloadsFrom files r.location 60000 0 3 h)
      ∧ (Dispatcher.Clocked.ofDispatcher (Dispatcher.ofConfig c.dispatch .empty .json) 100).run
          (fun _ => listener) acts = some (s, happened, made)
      ∧ s.attended.calls = [.draining .waiting] ∧ s.deadlines 0 = .set 112
      ∧ s.Stands (fun _ => listener) 0 := by
  intro text listener acts
  obtain ⟨c, hc, hdispatch, hwhitelist⟩ :
      ∃ c, ofFile? "settings" (.octets (Text.encode text.toList)) = .ok c
        ∧ c.dispatch = ⟨3, 5, 40, 7, []⟩ ∧ c.whitelist = ⟨some "w", 0⟩ := by
    refine ⟨⟨⟨"defaultServer", "h", 29418, none, "", "u", none, none, 0, 16384, 0, []⟩, _, _⟩, ?_,
      rfl, rfl⟩
    decide +kernel
  obtain ⟨-, hkeep, hwhite, hshut⟩ := times_of_ofFile? hc
  obtain ⟨r, hr⟩ : ∃ r, Refresh.start? c.whitelist = some r := by
    rw [hwhitelist]
    exact ⟨_, rfl⟩
  obtain ⟨⟨s, happened, made⟩, hrun, hend⟩ :
      ∃ r, (Dispatcher.Clocked.ofDispatcher (Dispatcher.ofConfig c.dispatch .empty .json) 100).run
          (fun _ => listener) acts = some r
        ∧ (r.1.attended.calls, r.1.deadlines 0)
          = ([.draining .waiting], .set 112) := by
    rw [hdispatch]
    exact Option.map_eq_some_iff.mp (by decide +kernel)
  simp only [Prod.mk.injEq] at hend
  obtain ⟨hcalls, hdeadline⟩ := hend
  refine ⟨c, r, s, happened, made, hc, ?_, ?_, hr, fun files h => ?_, hrun, hcalls, hdeadline, ?_⟩
  · rw [hkeep, hdispatch]
    rfl
  · rw [hwhite.exact.mpr (by rw [hwhitelist]; decide), hwhitelist]
    rfl
  · rw [hwhite.reloads (by rw [hwhitelist]; decide) r hr files 0 120000 h, hwhitelist]
    rfl
  · exact ((hshut .empty .json).calls _ 100 acts s happened made hrun).1 0 (by simp [hcalls])

/-- Times of a file that do not fit: the refresh has no period and crashes before its first reload,
and a shutdown that waits crashes over its deadline. -/
theorem crashes_of_late_times :
    let text := "[gerrit]\nhost=\"h\"\nusername=\"u\"\n[dispatch]\n"
      ++ "shutdown_grace_secs=9223372036854775807\n"
      ++ "[whitelist]\nlocation=\"w\"\nrefresh_minutes=4611686018427387904\n"
    let listener : Listener := ⟨fun _ => true, fun _ _ => ⟨.failed ⟨"busy"⟩, []⟩⟩
    let acts : List Dispatcher.Clocked.Act :=
      [.attend (.shutdown true), .attend (.goOn 0), .reckon 0]
    ∃ c r s happened made, ofFile? "settings" (.octets (Text.encode text.toList)) = .ok c
      ∧ c.whitelist.refreshSecs = 0 ∧ Refresh.start? c.whitelist = some r
      ∧ (∀ files now moment h, r.runUntil files now moment h = ({ r with finished := true }, h))
      ∧ (∀ population held, (Dispatcher.ofConfig c.dispatch .empty .json).shutdown population held
          true 100 = none)
      ∧ (Dispatcher.Clocked.ofDispatcher (Dispatcher.ofConfig c.dispatch .empty .json) 100).run
          (fun _ => listener) acts = some (s, happened, made)
      ∧ s.deadlines 0 = .crashed := by
  intro text listener acts
  obtain ⟨c, hc, hdispatch, hwhitelist⟩ :
      ∃ c, ofFile? "settings" (.octets (Text.encode text.toList)) = .ok c
        ∧ c.dispatch = ⟨3, 1200, 40, 9223372036854775807, []⟩
        ∧ c.whitelist = ⟨some "w", 4611686018427387904⟩ := by
    refine ⟨⟨⟨"defaultServer", "h", 29418, none, "", "u", none, none, 0, 16384, 0, []⟩, _, _⟩, ?_,
      rfl, rfl⟩
    decide +kernel
  obtain ⟨r, hr⟩ : ∃ r, Refresh.start? c.whitelist = some r := by
    rw [hwhitelist]
    exact ⟨_, rfl⟩
  have hrefresh : c.whitelist.refreshSecs = 0 := by
    rw [hwhitelist]
    decide
  obtain ⟨⟨s, happened, made⟩, hrun, hcrashed⟩ :
      ∃ r, (Dispatcher.Clocked.ofDispatcher (Dispatcher.ofConfig c.dispatch .empty .json) 100).run
          (fun _ => listener) acts = some r ∧ r.1.deadlines 0 = .crashed := by
    rw [hdispatch]
    exact Option.map_eq_some_iff.mp (by decide +kernel)
  refine ⟨c, r, s, happened, made, hc, hrefresh, hr, fun files now moment h => ?_,
    fun population held => ?_, hrun, hcrashed⟩
  · have hzero : r.period = 0 := by rw [WhitelistConfig.period_of_start? hr, hrefresh]; rfl
    obtain ⟨location, -, rfl⟩ := Option.map_eq_some_iff.mp hr
    exact Refresh.runUntil_of_period_eq_zero _ hzero rfl
  · have hlate : Dispatcher.deadline? 100 9223372036854775807 = none := by decide
    rw [hdispatch, Dispatcher.shutdown]
    simp [Dispatcher.ofConfig, hlate]

end Config

end ReviewStream
