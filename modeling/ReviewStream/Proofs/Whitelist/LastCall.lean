import ReviewStream.Proofs.Whitelist.Refreshing

/-!
# The last call for a refresh

A call for a refresh starts a task, if the settings have a location, and aborts the one before.  If
no other call follows, the settings of this one decide which whitelist is in use, as far as earlier
tasks do not come in between, and except for one thing: settings without a location leave the
whitelist as it is.

* `Refreshing.versions`: the files as they are from a moment on.
* `Refreshing.Follows`, `Refreshing.IsDue`: what holds from the last call on, and the reloads that
  come to their end then.
* `Refreshing.Ended.le_task`: tasks that have ended reload no more.
* **`Refreshing.handle_of_last_call`**: what the last call decides.
* `Refreshing.kept_out_without_location`: settings without a location do not empty the whitelist.
* `Refreshing.overtaken_by_earlier_reload`: why it has to be the last reload that is of the new
  file.
-/

namespace ReviewStream

open Text (Octet)

variable {files : Files} {n : Nat} {c : WhitelistConfig} {content : Option (List Octet)}
  {loads early late : List Load} {h : WhitelistHandle}

/-! ## Reloads -/

namespace WhitelistHandle

lemma reload_of_error {e : Whitelist.ReadError} (hfile : Whitelist.ofFile? content = .error e) :
    (h.reload content).2 = h := by
  rw [reload, hfile]

lemma reload_of_ok {w : Whitelist} (hfile : Whitelist.ofFile? content = .ok w) :
    (h.reload content).2 = ⟨w⟩ := by
  rw [reload, hfile]
  rfl

/-- Reloads that fail may be left out. -/
lemma reloads_filter {keep : Load → Bool}
    (hfail : ∀ load ∈ loads, ¬ keep load → ∃ e, Whitelist.ofFile? load.content = .error e) :
    h.reloads (loads.filter keep) = h.reloads loads := by
  induction loads generalizing h with
  | nil => rfl
  | cons load rest ih =>
      have hrest (h : WhitelistHandle) : h.reloads (rest.filter keep) = h.reloads rest :=
        ih fun later hlater => hfail later (List.mem_cons_of_mem _ hlater)
      by_cases hkeep : keep load
      · rw [List.filter_cons_of_pos hkeep]
        exact hrest _
      · obtain ⟨e, he⟩ := hfail load List.mem_cons_self hkeep
        rw [List.filter_cons_of_neg hkeep, hrest, reloads, reloads, List.foldl_cons,
          reload_of_error he]

/-- The last reload decides, if it reads its file. -/
lemma reloads_of_getLast? {load : Load} {w : Whitelist} (hlast : loads.getLast? = some load)
    (hfile : Whitelist.ofFile? load.content = .ok w) : h.reloads loads = ⟨w⟩ := by
  obtain ⟨front, rfl⟩ := List.getLast?_eq_some_iff.mp hlast
  rw [reloads_append]
  exact reload_of_ok hfile

end WhitelistHandle

namespace Refreshing

variable {s t u : Refreshing} {a : Act} {acts before after : List Act}

/-! ## From the last call on -/

/-- The files that an act leaves, if it changes them. -/
def Act.written? : Act → Option Files
  | .write files => some files
  | _ => none

/-- The files as they are now and as they become. -/
def versions (s : Refreshing) (acts : List Act) : List Files :=
  s.files :: acts.filterMap Act.written?

/-- What may happen after the last call: anything but a call, the files becoming one of some
versions. -/
structure Act.IsLate (versions : List Files) (a : Act) : Prop where
  settings? : a.settings? = none
  written? : ∀ files, a.written? = some files → files ∈ versions

/-- What holds from a call on if it is the last one: of the tasks that have not been there before,
one at most, each reloads the file that the settings ask for, in one of its versions; and no earlier
task is noted once the call has returned. -/
structure Follows (n : Nat) (c : WhitelistConfig) (versions : List Files) (s : Refreshing) :
    Prop where
  files_mem : s.files ∈ versions
  own : ∀ i p, n ≤ i → s.tasks[i]? = some p → i = n ∧ c.location = some p.location
    ∧ ∀ content, p.phase = .holding content → ∃ files ∈ versions, content = files p.location
  call : ∀ i, s.call = some (some i) → n ≤ i
  slot : s.call = none → ∀ i, s.slot = some i → n ≤ i

lemma follows_begin {versions : List Files} (hfiles : s.files ∈ versions) (c : WhitelistConfig) :
    Follows s.tasks.length c versions (s.begin c) where
  files_mem := hfiles
  own i p hi hp := by
    rcases of_getElem?_begin hp with hold | ⟨rfl, location, hlocation, rfl⟩
    · rw [List.getElem?_eq_none hi] at hold
      cases hold
    · exact ⟨rfl, hlocation, nofun⟩
  call i hi := by
    obtain ⟨-, -, rfl⟩ := Option.map_eq_some_iff.mp (Option.some.inj hi)
    exact Nat.le_refl _
  slot := nofun

/-- What a reload since the last call can be: one of an earlier task, or one of the file that the
settings ask for, in one of its versions. -/
def IsDue (n : Nat) (c : WhitelistConfig) (versions : List Files) (load : Load) : Prop :=
  load.task < n ∨ ∃ path, c.location = some path ∧ ∃ files ∈ versions, load = ⟨n, files path⟩

lemma Follows.step {versions : List Files} (hs : Follows n c versions s) (ha : a.IsLate versions)
    (hstep : s.step a = some (t, loads)) :
    Follows n c versions t ∧ ∀ load ∈ loads, IsDue n c versions load := by
  rcases step_cases hstep with ⟨c', rfl, -, -, -⟩ | ⟨task, -, hcall, rfl, rfl⟩ |
    ⟨i, p, b, q, -, hturns⟩ | ⟨files, rfl, rfl, rfl⟩
  · cases ha.settings?
  · refine ⟨⟨hs.files_mem, fun i q hi hq => ?_, nofun, fun _ i hi => ?_⟩, nofun⟩
    · rw [getElem?_noteTask] at hq
      obtain ⟨p, hp, rfl⟩ := Option.map_eq_some_iff.mp hq
      split_ifs
      · exact hs.own i p hi hp
      · exact hs.own i p hi hp
    · exact hs.call i (hcall.trans (congrArg some hi))
  · refine ⟨⟨?_, fun j r hj hr => ?_, ?_, ?_⟩, fun load hload => ?_⟩
    · rw [hturns.eq]
      exact hs.files_mem
    · rcases hturns.of_getElem? hr with ⟨rfl, rfl⟩ | hother
      · obtain ⟨hn, hlocation, -⟩ := hs.own j p hj hturns.there
        rw [hturns.moves.location]
        refine ⟨hn, hlocation, fun content hcontent => ?_⟩
        exact ⟨s.files, hs.files_mem, hturns.moves.holding content hcontent⟩
      · exact hs.own j r hj hother
    · rw [hturns.eq]
      exact hs.call
    · rw [hturns.eq]
      exact hs.slot
    · rw [hturns.loads_eq] at hload
      obtain ⟨content, hcontent, rfl⟩ := List.mem_map.mp hload
      rcases Nat.lt_or_ge i n with hlt | hge
      · exact .inl hlt
      · obtain ⟨rfl, hlocation, hholding⟩ := hs.own i p hge hturns.there
        obtain ⟨files, hfiles, rfl⟩ := hholding content (hturns.moves.stored content hcontent)
        exact .inr ⟨p.location, hlocation, files, hfiles, rfl⟩
  · exact ⟨⟨ha.written? files rfl, hs.own, hs.call, hs.slot⟩, nofun⟩

lemma Follows.run {versions : List Files} (hs : Follows n c versions s)
    (hacts : ∀ a ∈ acts, a.IsLate versions) (hrun : s.run acts = some (t, loads)) :
    Follows n c versions t ∧ ∀ load ∈ loads, IsDue n c versions load :=
  forall_loads_of_run Follows.step hs hacts hrun

/-! ## Tasks that have ended -/

/-- The first tasks have ended. -/
def Ended (n : Nat) (s : Refreshing) : Prop :=
  ∀ i < n, ∃ p, s.tasks[i]? = some p ∧ p.phase = .ended

/-- A task that has ended does nothing any more. -/
lemma Ended.step (hs : s.Ended n) (hstep : s.step a = some (t, loads)) :
    t.Ended n ∧ ∀ load ∈ loads, n ≤ load.task := by
  rcases step_cases hstep with ⟨c, -, -, rfl, rfl⟩ | ⟨task, -, -, rfl, rfl⟩ |
    ⟨j, r, b, q, -, hturns⟩ | ⟨files, -, rfl, rfl⟩
  · refine ⟨fun i hi => ?_, nofun⟩
    obtain ⟨p, hp, hphase⟩ := hs i hi
    obtain ⟨hlt, -⟩ := List.getElem?_eq_some_iff.mp hp
    exact ⟨p, (List.getElem?_append_left hlt).trans hp, hphase⟩
  · refine ⟨fun i hi => ?_, nofun⟩
    obtain ⟨p, hp, hphase⟩ := hs i hi
    refine ⟨_, by rw [getElem?_noteTask, hp]; rfl, ?_⟩
    dsimp only
    split_ifs <;> exact hphase
  · have hother : ∀ i < n, i ≠ j := by
      rintro i hi rfl
      obtain ⟨p, hp, hphase⟩ := hs i hi
      obtain rfl := Option.some.inj (hp.symm.trans hturns.there)
      exact hturns.moves.phase_ne hphase
    rw [hturns.eq]
    refine ⟨fun i hi => ?_, fun load hload => ?_⟩
    · obtain ⟨p, hp, hphase⟩ := hs i hi
      exact ⟨p, (List.getElem?_set_ne (hother i hi).symm).trans hp, hphase⟩
    · rw [hturns.loads_eq] at hload
      obtain ⟨content, -, rfl⟩ := List.mem_map.mp hload
      exact Nat.le_of_not_lt fun hlt => hother j hlt rfl
  · exact ⟨hs, nofun⟩

lemma Ended.le_task (hs : s.Ended n) (hrun : s.run acts = some (t, loads)) :
    ∀ load ∈ loads, n ≤ load.task := by
  have hall := forall_loads_of_run (I := Ended n) (A := fun _ => True)
    (L := fun load => n ≤ load.task) (fun hs _ hstep => hs.step hstep) hs (fun _ _ => trivial) hrun
  exact hall.2

/-! ## What the last call decides -/

/-- **What the last call for a refresh decides.**  Once it has returned, every earlier task is
aborted.  From the call on, the reloads that come to their end decide which whitelist is in use:
those that earlier tasks still make, and those of the file that the settings ask for.  If there is
no such file, or it cannot be read, only the former count, so that the whitelist stays if there are
none of them either.  If the file can be read, and the last reload is one of it, its projects are in
use.  Once the earlier tasks have ended, no reload is theirs. -/
theorem handle_of_last_call {w : Whitelist}
    (hbefore : (ofWhitelist w files).run before = some (s, early))
    (hafter : s.run (.call c :: after) = some (t, late))
    (hlast : ∀ a ∈ after, a.settings? = none) :
    (t.call = none → ∀ i p, i < s.tasks.length → t.tasks[i]? = some p → p.aborted)
      ∧ t.handle = s.handle.reloads late
      ∧ (∀ load ∈ late, IsDue s.tasks.length c (s.versions after) load)
      ∧ ((∀ path, c.location = some path → ∀ files ∈ s.versions after,
          ∃ e, Whitelist.ofFile? (files path) = .error e) →
        t.handle = s.handle.reloads (late.filter (·.task < s.tasks.length)))
      ∧ (∀ path v load, c.location = some path →
          (∀ files ∈ s.versions after, Whitelist.ofFile? (files path) = .ok v) →
        late.getLast? = some load → s.tasks.length ≤ load.task → t.handle = ⟨v⟩)
      ∧ (t.Ended s.tasks.length → ∀ acts u more, t.run acts = some (u, more) →
        ∀ load ∈ more, s.tasks.length ≤ load.task) := by
  obtain ⟨u, now, later, hcall, hlater, rfl⟩ := isRun.exists_of_cons hafter
  obtain ⟨rfl, rfl⟩ : u = s.begin c ∧ now = [] := by
    rw [step] at hcall
    split_ifs at hcall
    cases hcall
    exact ⟨rfl, rfl⟩
  have htended : t.Tended := ((tended_ofWhitelist w files).run hbefore).run hafter
  have hhandle : t.handle = (s.begin c).handle.reloads later := handle_of_run hlater
  have hlate : ∀ a ∈ after, a.IsLate (s.versions after) := fun a ha =>
    ⟨hlast a ha, fun files hfiles =>
      List.mem_cons_of_mem _ (List.mem_filterMap.mpr ⟨a, ha, hfiles⟩)⟩
  obtain ⟨hfollows, hdue⟩ := (follows_begin List.mem_cons_self c).run hlate hlater
  rw [List.nil_append]
  refine ⟨fun hdone i p hi hp => ?_, hhandle, hdue, fun hfail => ?_, fun path v load hpath hv hend
    htask => ?_, fun hended acts u more hrun => hended.le_task hrun⟩
  · rcases htended i p hp with haborted | hslot | hcalled
    · exact haborted
    · exact absurd (hfollows.slot hdone i hslot) (Nat.not_le_of_lt hi)
    · exact absurd (hfollows.call i hcalled) (Nat.not_le_of_lt hi)
  · rw [hhandle]
    refine (WhitelistHandle.reloads_filter fun load hload hkeep => ?_).symm
    rcases hdue load hload with hearlier | ⟨path, hpath, files, hfiles, rfl⟩
    · exact absurd (decide_eq_true hearlier) hkeep
    · exact hfail path hpath files hfiles
  · rw [hhandle]
    rcases hdue load (List.mem_of_getLast? hend) with hearlier | ⟨path', hpath', files, hfiles, rfl⟩
    · exact absurd htask (Nat.not_le_of_lt hearlier)
    · obtain rfl := Option.some.inj (hpath.symm.trans hpath')
      exact WhitelistHandle.reloads_of_getLast? hend (hv files hfiles)

/-- Two calls with different files: the first task is in the middle of a reload when it is aborted,
and still finishes it; the second one reloads after that. -/
theorem handle_of_last_call_of_two_files :
    let files : Files := fun path =>
      some (Text.encode (if path = "/old" then "tools\n" else "kernel\n").toList)
    let s : Refreshing :=
      ⟨⟨.empty⟩, files, [⟨"/old", .holding (files "/old"), false⟩], some 0, none⟩
    let after : List Act :=
      [.task 1 .wake, .note, .task 0 .store, .task 0 .rest, .task 1 .read, .task 1 .store]
    let t : Refreshing :=
      ⟨⟨⟨["kernel"]⟩⟩, files, [⟨"/old", .ended, true⟩, ⟨"/new", .running, false⟩], some 1, none⟩
    let late : List Load := [⟨0, files "/old"⟩, ⟨1, files "/new"⟩]
    (ofWhitelist .empty files).run
          [.call ⟨some "/old", 30⟩, .note, .task 0 .wake, .task 0 .read] = some (s, [])
      ∧ s.run (.call ⟨some "/new", 30⟩ :: after) = some (t, late)
      ∧ (∀ a ∈ after, a.settings? = none)
      ∧ t.handle = ⟨⟨["kernel"]⟩⟩ := by
  intro files s after t late
  have hbefore : (ofWhitelist .empty files).run
      [.call ⟨some "/old", 30⟩, .note, .task 0 .wake, .task 0 .read] = some (s, []) := rfl
  have hafter : s.run (.call ⟨some "/new", 30⟩ :: after) = some (t, late) := rfl
  have hlast : ∀ a ∈ after, a.settings? = none := by
    simp [after, Act.settings?]
  have hversions : ∀ version ∈ s.versions after,
      Whitelist.ofFile? (version "/new") = .ok ⟨["kernel"]⟩ := by
    intro version hversion
    rw [List.mem_singleton.mp hversion]
    rfl
  exact ⟨hbefore, hafter, hlast, (handle_of_last_call hbefore hafter hlast).2.2.2.2.1 "/new"
    ⟨["kernel"]⟩ ⟨1, files "/new"⟩ rfl hversions rfl (Nat.le_refl 1)⟩

/-- Settings without a location do not empty the whitelist: what an earlier task has put into use
is still there when that task has ended, and projects are kept out. -/
theorem kept_out_without_location :
    let files : Files := fun _ => some (Text.encode "tools\n".toList)
    ∃ s early t late,
      (ofWhitelist .empty files).run
          [.call ⟨some "/etc/projects", 30⟩, .note, .task 0 .wake, .task 0 .read, .task 0 .store,
            .task 0 .rest] = some (s, early)
        ∧ s.run [.call ⟨none, 30⟩, .note, .task 0 .wake] = some (t, late)
        ∧ t.call = none ∧ t.tasks.map (·.phase) = [.ended]
        ∧ t.handle.snapshot ≠ .empty ∧ t.handle.admits "kernel" = false :=
  ⟨_, _, _, _, rfl, rfl, rfl, rfl, by decide, by decide⟩

/-- A reload of an earlier task that comes to its end last decides, although the new task has
already reloaded its own file. -/
theorem overtaken_by_earlier_reload :
    let files : Files := fun path =>
      some (Text.encode (if path = "/old" then "tools\n" else "kernel\n").toList)
    ∃ t loads,
      (ofWhitelist .empty files).run
          [.call ⟨some "/old", 30⟩, .note, .task 0 .wake, .task 0 .read, .call ⟨some "/new", 30⟩,
            .note, .task 1 .wake, .task 1 .read, .task 1 .store, .task 0 .store, .task 0 .rest]
          = some (t, loads)
        ∧ t.call = none ∧ t.tasks.map (·.phase) = [.ended, .running]
        ∧ t.handle = ⟨⟨["tools"]⟩⟩ :=
  ⟨_, _, rfl, rfl, rfl, rfl⟩

end Refreshing

end ReviewStream
