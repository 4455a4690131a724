import ReviewStream.Proofs.Ssh.Numbers

/-!
# Connects of one process stay apart

Every connect has a number of its own until the counter of connects comes back to where it began.
The number is at the end of all its paths, and so no connect comes across anything that another one
has left in the file system or told the client.

* `Tended`: whose the helpers are that are in place.
* `Logged`: whose the calls and the sessions are.
* `Apart`: what follows for paths, masters, sessions and helpers.
* **`Process.apart_of_run`**: connects stay apart in every run with no more than `2 ^ 64` of them.
-/

namespace ReviewStream.Ssh

open AskPass (pathFor)

variable {directory : Nat → String} {process k : Nat} {cs : List ConnectionConfig} {p q : Process}
  {a b : Attempt} {as bs : List Attempt} {w world : World} {places : Places}
  {foreign : List String} {phase : Phase} {x : Step} {c : ConnectionConfig}

/-! ## Helpers -/

/-- A connect that is as far as it says: the session names its control socket, its helper is the one
for that socket, and it has not found another one in its place. -/
inductive Phase.Fits (foreign : List String) (control : String) : Phase → Prop
  | numbered : Fits foreign control .numbered
  | equipped {s : Session} {askpass : Option AskPass} (hs : s.Names control)
      (hhelper : ∀ h, askpass = some h → h = ⟨pathFor control⟩) :
      Fits foreign control (.equipped s askpass)
  | started {askpass : Option AskPass} {result : Except TransportError Nat}
      (hhelper : ∀ h, askpass = some h → h = ⟨pathFor control⟩)
      (hresult : result = .error (AskPass.occupied control) → pathFor control ∈ foreign) :
      Fits foreign control (.started askpass result)
  | ended {result : Except TransportError Nat}
      (hresult : result = .error (AskPass.occupied control) → pathFor control ∈ foreign) :
      Fits foreign control (.ended result)

lemma Phase.Fits.path_eq {control path : String} (h : phase.Fits foreign control)
    (hhelper : phase.askpass? = some ⟨path⟩) : path = pathFor control := by
  cases h with
  | numbered | ended => cases hhelper
  | equipped _ hown | started hown => exact AskPass.mk.inj (hown _ hhelper)

section Lists

variable {α : Type} {xs : List α} {y z : α} {P : α → Prop}

lemma forall_mem_set (h : ∀ x ∈ xs, P x) (hz : P z) : ∀ x ∈ xs.set k z, P x := by
  intro x hx
  rcases List.mem_or_eq_of_mem_set hx with hmem | rfl
  · exact h x hmem
  · exact hz

/-- What some member has, some member has after one of them has been replaced. -/
lemma exists_mem_set (hy : xs[k]? = some y) (h : ∃ x ∈ xs, P x) (hz : P y → P z) :
    ∃ x ∈ xs.set k z, P x := by
  obtain ⟨x, hx, hP⟩ := h
  obtain ⟨j, hj⟩ := List.mem_iff_getElem?.mp hx
  by_cases hjk : k = j
  · subst hjk
    cases Option.some.inj (hy.symm.trans hj)
    exact ⟨z, List.mem_set (List.getElem?_eq_some_iff.mp hy).1 z, hz hP⟩
  · exact ⟨x, List.mem_of_getElem? ((List.getElem?_set_ne hjk).trans hj), hP⟩

end Lists

/-- The files are those that other programs have left and the helpers that are in place. -/
structure Tended (foreign : List String) (places : Places) (as : List Attempt) : Prop where
  fits : ∀ a ∈ as, a.phase.Fits foreign a.control
  files : ∀ path ∈ places.files,
    path ∈ foreign ∨ ∃ a ∈ as, a.phase.askpass? = some ⟨path⟩
  folders : ∀ path ∈ places.folders, path ∈ foreign

namespace Tended

/-- A connect goes on and leaves the files alone. -/
lemma set (h : Tended foreign places as) (ha : as[k]? = some a)
    (hfits : phase.Fits foreign a.control)
    (hhelper : ∀ askpass, a.phase.askpass? = some askpass → phase.askpass? = some askpass) :
    Tended foreign places (as.set k { a with phase }) where
  fits := forall_mem_set h.fits hfits
  files path hpath :=
    (h.files path hpath).imp_right fun hhas => exists_mem_set ha hhas (hhelper ⟨path⟩)
  folders := h.folders

lemma concat (h : Tended foreign places as) (hb : b.phase = .numbered) :
    Tended foreign places (as ++ [b]) where
  fits := by
    intro a ha
    rcases List.mem_append.mp ha with hmem | hlast
    · exact h.fits a hmem
    · cases List.mem_singleton.mp hlast
      rw [hb]
      exact .numbered
  files path hpath := by
    refine (h.files path hpath).imp_right ?_
    rintro ⟨a, ha, hhelper⟩
    exact ⟨a, List.mem_append_left _ ha, hhelper⟩
  folders := h.folders

/-- A connect finds something in the place of its helper only if other programs have left it. -/
lemma foreign_of_occupied (h : Tended foreign p.world.places p.attempts)
    (hnumbered : Numbered directory process cs p) (hcount : cs.length ≤ 2 ^ 64)
    (ha : a ∈ p.attempts) (hphase : a.phase = .numbered)
    (hplace : pathFor a.control ∈ p.world.places.files
      ∨ pathFor a.control ∈ p.world.places.folders) : pathFor a.control ∈ foreign := by
  rcases hplace with hfile | hfolder
  · rcases h.files _ hfile with hforeign | ⟨b, hb, hhelper⟩
    · exact hforeign
    · -- It would be the helper of the connect itself, which has none yet.
      have hpath := (h.fits b hb).path_eq hhelper
      cases hnumbered.eq_of_pathFor_eq hcount ha hb hpath
      rw [hphase] at hhelper
      cases hhelper
  · exact h.folders _ hfolder

/-- A connect has its helper in place. -/
lemma help (h : Tended foreign places as) (ha : as[k]? = some a) (hphase : a.phase = .numbered)
    {s : Session} (hs : s.Names a.control) :
    Tended foreign { places with files := pathFor a.control :: places.files }
      (as.set k { a with phase := .equipped s (some ⟨pathFor a.control⟩) }) where
  fits := by
    refine forall_mem_set h.fits (.equipped hs fun askpass hhelper => ?_)
    exact (Option.some.inj hhelper).symm
  files path hpath := by
    rcases List.mem_cons.mp hpath with rfl | hold
    · exact .inr ⟨_, List.mem_set (List.getElem?_eq_some_iff.mp ha).1 _, rfl⟩
    · refine (h.files path hold).imp_right fun hhas => exists_mem_set ha hhas fun hnone => ?_
      rw [hphase] at hnone
      cases hnone
  folders := h.folders

/-- A connect takes its helper away. -/
lemma release (h : Tended foreign w.places as) (ha : as[k]? = some a)
    {askpass : Option AskPass} {result last : Except TransportError Nat}
    (hphase : a.phase = .started askpass result)
    (hlast : last = .error (AskPass.occupied a.control) → last = result) :
    Tended foreign (w.release askpass).places (as.set k { a with phase := .ended last }) := by
  have hfits : (Phase.ended last).Fits foreign a.control := by
    refine .ended fun heq => ?_
    have hold := h.fits a (List.mem_of_getElem? ha)
    rw [hphase] at hold
    cases hold with
    | started _ hresult => exact hresult ((hlast heq).symm.trans heq)
  cases askpass with
  | none =>
      refine h.set ha hfits fun askpass hhelper => ?_
      rw [hphase] at hhelper
      cases hhelper
  | some askpass =>
      refine ⟨forall_mem_set h.fits hfits, fun path hpath => ?_, h.folders⟩
      obtain ⟨hold, hother⟩ := List.mem_filter.mp hpath
      refine (h.files path hold).imp_right fun hhas => exists_mem_set ha hhas fun hhelper => ?_
      rw [hphase] at hhelper
      cases hhelper
      simp at hother

lemma turn (h : Tended foreign p.world.places p.attempts)
    (hnumbered : Numbered directory process cs p) (hcount : cs.length ≤ 2 ^ 64)
    (ha : p.attempts[k]? = some a) (hturn : a.Turns p.world (phase, world)) :
    Tended foreign world.places (p.attempts.set k { a with phase }) := by
  have hmem := List.mem_of_getElem? ha
  have hfits := h.fits a hmem
  cases hturn with
  | rests hphase =>
      rw [hphase] at hfits
      exact h.set ha hfits fun askpass hhelper => hphase ▸ hhelper
  | refused hphase hplace =>
      refine h.set ha (.ended fun heq => ?_) fun askpass hhelper => ?_
      · exact h.foreign_of_occupied hnumbered hcount hmem hphase (hplace (Except.error.inj heq))
      · rw [hphase] at hhelper
        cases hhelper
  | equipped hphase hs =>
      refine h.set ha (.equipped hs nofun) fun askpass hhelper => ?_
      rw [hphase] at hhelper
      cases hhelper
  | helped hphase hs => exact h.help ha hphase hs
  | unstarted hphase hresult | started hphase hresult =>
      rw [hphase] at hfits
      cases hfits with
      | equipped _ hhelper =>
          refine h.set ha (.started hhelper fun heq => absurd heq hresult) fun askpass hold => ?_
          rwa [hphase] at hold
  | @released askpass result last up hphase hlast => exact h.release ha hphase hlast

/-- What other programs leave is known as theirs. -/
lemma change (h : Tended foreign places as) (change : Places.Change)
    (hforeign : ∀ path, change.left? = some path → path ∈ foreign) :
    Tended foreign (places.change change) as := by
  cases change with
  | file path =>
      exact ⟨h.fits, List.forall_mem_cons.mpr ⟨.inl (hforeign path rfl), h.files⟩, h.folders⟩
  | folder path =>
      exact ⟨h.fits, h.files, List.forall_mem_cons.mpr ⟨hforeign path rfl, h.folders⟩⟩
  | gone path =>
      exact ⟨h.fits, fun other hother => h.files other (List.mem_of_mem_filter hother),
        fun other hother => h.folders other (List.mem_of_mem_filter hother)⟩

lemma step (h : Tended foreign p.world.places p.attempts)
    (hnumbered : Numbered directory process cs p) (hcount : cs.length ≤ 2 ^ 64)
    (hforeign : ∀ path, x.left? = some path → path ∈ foreign) (hstep : p.Steps x q) :
    Tended foreign q.world.places q.attempts := by
  cases hstep with
  | numbered => exact h.concat rfl
  | turned ha hturn _ => exact h.turn hnumbered hcount ha hturn
  | spoke hspeaks _ =>
      cases hspeaks with
      | silent | spoken => exact ⟨h.fits, h.files, h.folders⟩
  | disturbed => exact h.change _ hforeign
  | answered => exact h

end Tended

/-! ## Calls and sessions -/

/-- Whether the master of a connect has not been started yet. -/
def Phase.isPending : Phase → Bool
  | .numbered | .equipped .. => true
  | .started .. | .ended _ => false

/-- Connects go on: none gets lost, and none starts its master twice. -/
def Grows (as bs : List Attempt) : Prop :=
  ∀ a ∈ as, ∃ b ∈ bs,
    b.control = a.control ∧ (a.phase.isPending = false → b.phase.isPending = false)

lemma grows_refl (as : List Attempt) : Grows as as := fun a ha => ⟨a, ha, rfl, id⟩

lemma grows_concat (as : List Attempt) (b : Attempt) : Grows as (as ++ [b]) :=
  fun a ha => ⟨a, List.mem_append_left _ ha, rfl, id⟩

/-- A master is started once at most. -/
lemma Attempt.Turns.isPending (h : a.Turns w (phase, world))
    (hpending : a.phase.isPending = false) : phase.isPending = false := by
  cases h with
  | rests hphase => rwa [hphase] at hpending
  | refused hphase | equipped hphase | helped hphase =>
      rw [hphase] at hpending
      cases hpending
  | unstarted | started | released => rfl

lemma grows_set (ha : as[k]? = some a) (hturn : a.Turns w (phase, world)) :
    Grows as (as.set k { a with phase }) := by
  intro b hb
  exact exists_mem_set ha ⟨b, hb, rfl, id⟩ fun ⟨hcontrol, hpending⟩ =>
    ⟨hcontrol, fun h => hturn.isPending (hpending h)⟩

lemma Session.Names.socket?_eq {s : Session} {control : String} (h : s.Names control) :
    s.socket? = some control := h _

/-- Calls, masters and sessions belong to connects, and no connect has two of the latter. -/
structure Logged (w : World) (as : List Attempt) : Prop where
  fits : ∀ s ∈ w.sessions, ∃ a ∈ as, s.Names a.control
  calls : ∀ call ∈ w.calls, ∃ a ∈ as, call.socket? = some a.control
  masters : ∀ call ∈ w.masters,
    ∃ a ∈ as, call.socket? = some a.control ∧ a.phase.isPending = false
  masters_nodup : (w.masters.map Invocation.socket?).Nodup
  sessions_sublist :
    (w.sessions.map Session.socket?).Sublist (w.masters.map Invocation.socket?)

namespace Logged

/-- Connects go on without a call. -/
lemma grow (h : Logged w as) (hgrows : Grows as bs) (hcalls : world.calls = w.calls)
    (hsessions : world.sessions = w.sessions) : Logged world bs where
  fits := by
    intro s hs
    obtain ⟨a, ha, hnames⟩ := h.fits s (hsessions ▸ hs)
    obtain ⟨b, hb, hcontrol, -⟩ := hgrows a ha
    exact ⟨b, hb, hcontrol ▸ hnames⟩
  calls := by
    intro call hcall
    obtain ⟨a, ha, hsocket⟩ := h.calls call (hcalls ▸ hcall)
    obtain ⟨b, hb, hcontrol, -⟩ := hgrows a ha
    exact ⟨b, hb, hcontrol ▸ hsocket⟩
  masters := by
    intro call hcall
    rw [World.masters, hcalls] at hcall
    obtain ⟨a, ha, hsocket, hpending⟩ := h.masters call hcall
    obtain ⟨b, hb, hcontrol, hkept⟩ := hgrows a ha
    exact ⟨b, hb, hcontrol ▸ hsocket, hkept hpending⟩
  masters_nodup := by
    rw [World.masters, hcalls]
    exact h.masters_nodup
  sessions_sublist := by
    rw [World.masters, hcalls, hsessions]
    exact h.sessions_sublist

/-- A session makes a call. -/
lemma speak (h : Logged w as) (hspeaks : w.Speaks world) : Logged world as := by
  cases hspeaks with
  | silent => exact h
  | @spoken s call up hs hargs hpurpose =>
      obtain ⟨rest, hrest⟩ := hargs
      obtain ⟨a, ha, hnames⟩ := h.fits s hs
      have hsocket : call.socket? = some a.control := by
        rw [Invocation.socket?, hrest]
        exact hnames rest
      have hmasters : World.masters { w with calls := w.calls ++ [call], up } = w.masters := by
        simp [World.masters, hpurpose]
      refine ⟨h.fits, ?_, hmasters ▸ h.masters, hmasters ▸ h.masters_nodup,
        hmasters ▸ h.sessions_sublist⟩
      exact List.forall_mem_append.mpr ⟨h.calls, List.forall_mem_singleton.mpr ⟨a, ha, hsocket⟩⟩

/-- A connect that has not started its master has told its socket to none. -/
lemma notMem_masters (h : Logged p.world p.attempts) (hnumbered : Numbered directory process cs p)
    (hcount : cs.length ≤ 2 ^ 64) (ha : a ∈ p.attempts) (hpending : a.phase.isPending = true) :
    some a.control ∉ p.world.masters.map Invocation.socket? := by
  intro hmem
  obtain ⟨call, hcall, hsocket⟩ := List.mem_map.mp hmem
  obtain ⟨b, hb, hother, hstarted⟩ := h.masters call hcall
  cases hnumbered.eq_of_control_eq hcount ha hb (Option.some.inj (hsocket.symm.trans hother))
  rw [hpending] at hstarted
  cases hstarted

/-- A connect starts its master, and no master has been told its socket before. -/
lemma start (h : Logged w as) (ha : a ∈ as) (hpending : a.phase.isPending = false) {s : Session}
    (hnames : s.Names a.control) (hfresh : some a.control ∉ w.masters.map Invocation.socket?)
    {environment : Environment} {sessions : List Session} {up : List Nat}
    (hsessions : sessions = w.sessions ∨ sessions = w.sessions ++ [s]) :
    Logged { w with calls := w.calls ++ [s.master environment], sessions, up } as := by
  have hsocket : (s.master environment).socket? = some a.control := hnames _
  have hmasters : World.masters { w with calls := w.calls ++ [s.master environment], sessions, up }
      = w.masters ++ [s.master environment] := by
    simp [World.masters, Session.master]
  refine ⟨?_, ?_, ?_, ?_, ?_⟩
  · rcases hsessions with rfl | rfl
    · exact h.fits
    · exact List.forall_mem_append.mpr ⟨h.fits, List.forall_mem_singleton.mpr ⟨a, ha, hnames⟩⟩
  · exact List.forall_mem_append.mpr ⟨h.calls, List.forall_mem_singleton.mpr ⟨a, ha, hsocket⟩⟩
  · rw [hmasters]
    exact List.forall_mem_append.mpr
      ⟨h.masters, List.forall_mem_singleton.mpr ⟨a, ha, hsocket, hpending⟩⟩
  · rw [hmasters, List.map_append, List.map_singleton, hsocket]
    rw [← List.concat_eq_append]
    exact h.masters_nodup.concat hfresh
  · rw [hmasters, List.map_append, List.map_singleton, hsocket]
    rcases hsessions with rfl | rfl
    · exact h.sessions_sublist.trans (List.sublist_append_left _ _)
    · rw [List.map_append, List.map_singleton, hnames.socket?_eq]
      exact h.sessions_sublist.append (List.Sublist.refl _)

lemma step (h : Logged p.world p.attempts) (hnumbered : Numbered directory process cs p)
    (htended : Tended foreign p.world.places p.attempts) (hcount : cs.length ≤ 2 ^ 64)
    (hstep : p.Steps x q) : Logged q.world q.attempts := by
  cases hstep with
  | numbered => exact h.grow (grows_concat _ _) rfl rfl
  | @turned x k a phase world ha hturn _ =>
      have hgrows := grows_set ha hturn
      have hfits := htended.fits a (List.mem_of_getElem? ha)
      cases hturn with
      | started hphase _ hsessions =>
          rw [hphase] at hfits
          cases hfits with
          | equipped hnames _ =>
              have hfresh := h.notMem_masters hnumbered hcount (List.mem_of_getElem? ha)
                (by rw [hphase]; rfl)
              exact (h.grow hgrows rfl rfl).start
                (List.mem_set (List.getElem?_eq_some_iff.mp ha).1 _) rfl hnames hfresh hsessions
      | @released askpass =>
          cases askpass <;> exact h.grow hgrows rfl rfl
      | rests | refused | equipped | helped | unstarted => exact h.grow hgrows rfl rfl
  | spoke hspeaks _ => exact h.speak hspeaks
  | disturbed | answered => exact h.grow (grows_refl _) rfl rfl

end Logged

/-! ## Runs -/

/-- What every step keeps. -/
structure Sound (directory : Nat → String) (process : Nat) (foreign : List String)
    (cs : List ConnectionConfig) (p : Process) : Prop where
  numbered : Numbered directory process cs p
  tended : Tended foreign p.world.places p.attempts
  logged : Logged p.world p.attempts

namespace Sound

lemma start (client : Option Client) (hasDisplay : Bool) (directory : Nat → String) (process : Nat)
    (places : Places) (hfiles : ∀ path ∈ places.files, path ∈ foreign)
    (hfolders : ∀ path ∈ places.folders, path ∈ foreign) :
    Sound directory process foreign []
      (Process.new client hasDisplay directory process places) where
  numbered := .start client hasDisplay directory process places
  tended := ⟨List.forall_mem_nil _, fun path hpath => .inl (hfiles path hpath), hfolders⟩
  logged := ⟨List.forall_mem_nil _, List.forall_mem_nil _, List.forall_mem_nil _, List.nodup_nil,
    List.Sublist.refl _⟩

lemma step (h : Sound directory process foreign cs p) (hcount : cs.length ≤ 2 ^ 64)
    (hforeign : ∀ path, x.left? = some path → path ∈ foreign) (hstep : p.Steps x q) :
    Sound directory process foreign (cs ++ x.connect?.toList) q where
  numbered := h.numbered.step hstep
  tended := h.tended.step h.numbered hcount hforeign hstep
  logged := h.logged.step h.numbered h.tended hcount hstep

lemma run (h : Sound directory process foreign cs p) {steps : List Step}
    (hcount : (cs ++ steps.filterMap Step.connect?).length ≤ 2 ^ 64)
    (hforeign : ∀ x ∈ steps, ∀ path, x.left? = some path → path ∈ foreign) :
    Sound directory process foreign (cs ++ steps.filterMap Step.connect?) (p.run steps) := by
  induction steps generalizing cs p with
  | nil => rwa [List.filterMap_nil, List.append_nil]
  | cons x steps ih =>
      obtain ⟨hx, hrest⟩ := List.forall_mem_cons.mp hforeign
      have hle : cs.length ≤ 2 ^ 64 := by
        rw [List.length_append] at hcount
        omega
      rw [filterMap_connect?_cons, ← List.append_assoc] at hcount ⊢
      exact ih (h.step hle hx (p.steps_step x)) hcount hrest

end Sound

/-! ## Connects stay apart -/

/-- No connect comes across anything of another one. -/
structure Apart (foreign : List String) (p : Process) : Prop where
  paths_nodup : (p.attempts.flatMap Attempt.paths).Nodup
  /-- No two of the paths lead to one place, whatever becomes of the folders in them. -/
  names_nodup : ((p.attempts.flatMap Attempt.paths).map lastName).Nodup
  /-- Whatever the client is called for, it is told the control socket of a connect. -/
  calls : ∀ call ∈ p.world.calls, ∃ a ∈ p.attempts, call.socket? = some a.control
  /-- No two masters are told to listen at one socket. -/
  masters_nodup : (p.world.masters.map Invocation.socket?).Nodup
  /-- The calls of a session are told the socket of one connect, and nothing listens there but the
  master of the session, as long as it is up. -/
  served : ∀ n s, p.world.sessions[n]? = some s → ∃ a ∈ p.attempts, s.Names a.control ∧
    ∀ m, m ∈ p.world.mastersAt a.control ↔ m = n ∧ p.world.isConnected n
  /-- The helper of a connect is its own. -/
  helpers : ∀ a ∈ p.attempts, ∀ path, a.phase.askpass? = some ⟨path⟩ → path = pathFor a.control
  /-- What a connect finds in the place of its helper was left by other programs. -/
  foreign_of_occupied : ∀ a ∈ p.attempts, a.phase = .ended (.error (AskPass.occupied a.control)) →
    pathFor a.control ∈ foreign

/-- At the socket of a session nothing listens but its own master. -/
lemma Logged.mem_mastersAt_iff (h : Logged w as) {n : Nat} {s : Session}
    (hs : w.sessions[n]? = some s) (hsocket : s.socket? = some a.control) (m : Nat) :
    m ∈ w.mastersAt a.control ↔ m = n ∧ w.isConnected n := by
  rw [World.mastersAt, List.mem_filter, World.isConnected, List.contains_iff_mem]
  constructor
  · rintro ⟨hup, hany⟩
    obtain ⟨t, ht, hother⟩ := (Option.any_eq_true _ _).mp hany
    have hnodup : (w.sessions.map Session.socket?).Nodup :=
      h.masters_nodup.sublist h.sessions_sublist
    have hm : m < (w.sessions.map Session.socket?).length := by
      rw [List.length_map]
      exact (List.getElem?_eq_some_iff.mp ht).1
    have heq : (w.sessions.map Session.socket?)[m]? = (w.sessions.map Session.socket?)[n]? := by
      rw [List.getElem?_map, List.getElem?_map, ht, hs, Option.map_some, Option.map_some, hsocket,
        of_decide_eq_true hother]
    obtain rfl := (List.getElem?_inj hm hnodup).mp heq
    exact ⟨rfl, hup⟩
  · rintro ⟨rfl, hup⟩
    refine ⟨hup, ?_⟩
    rw [hs, Option.any_some]
    exact decide_eq_true hsocket

lemma Sound.apart (h : Sound directory process foreign cs p) (hcount : cs.length ≤ 2 ^ 64) :
    Apart foreign p where
  paths_nodup := (h.numbered.nodup_names hcount).of_map
  names_nodup := h.numbered.nodup_names hcount
  calls := h.logged.calls
  masters_nodup := h.logged.masters_nodup
  served n s hs := by
    obtain ⟨a, ha, hnames⟩ := h.logged.fits s (List.mem_of_getElem? hs)
    exact ⟨a, ha, hnames, h.logged.mem_mastersAt_iff hs hnames.socket?_eq⟩
  helpers a ha path hhelper := (h.tended.fits a ha).path_eq hhelper
  foreign_of_occupied a ha hphase := by
    have hfits := h.tended.fits a ha
    rw [hphase] at hfits
    cases hfits with
    | ended hresult => exact hresult rfl

namespace Process

/-- **Connects of one process stay apart**, in whatever order they go on, as long as no number has
been given out twice: every connect has the paths of its number, they are distinct, and no connect
meets with the master, the socket or the helper of another one. -/
theorem apart_of_run (client : Option Client) (hasDisplay : Bool) (directory : Nat → String)
    (process : Nat) (places : Places) (steps : List Step)
    (hcount : (steps.filterMap Step.connect?).length ≤ 2 ^ 64) :
    let p := (new client hasDisplay directory process places).run steps
    p.attempts.map Attempt.label
        = (steps.filterMap Step.connect?).mapIdx
          (fun n c => (c, controlPath (directory n) c.name process n)) ∧
      Apart (places.files ++ places.folders ++ steps.filterMap Step.left?) p := by
  have hstart : Sound directory process
      (places.files ++ places.folders ++ steps.filterMap Step.left?) []
      (new client hasDisplay directory process places) := by
    refine .start client hasDisplay directory process places (fun path hpath => ?_)
      (fun path hpath => ?_)
    · exact List.mem_append_left _ (List.mem_append_left _ hpath)
    · exact List.mem_append_left _ (List.mem_append_right _ hpath)
  have hforeign : ∀ x ∈ steps, ∀ path, x.left? = some path →
      path ∈ places.files ++ places.folders ++ steps.filterMap Step.left? :=
    fun x hx path hpath => List.mem_append_right _ (List.mem_filterMap.mpr ⟨x, hx, hpath⟩)
  have hsound := hstart.run hcount hforeign
  refine ⟨?_, hsound.apart hcount⟩
  refine hsound.numbered.label_eq.trans ?_
  rw [List.nil_append, List.mapIdx_eq_mapIdx_iff]
  intro n hn
  rw [labelOf, Nat.mod_eq_of_lt (Nat.lt_of_lt_of_le hn hcount)]

/-- Two connects to servers with slashes, dots, dashes and digits in their names, whose helpers are
in place at the same time. -/
theorem apart_of_overlapping_connects :
    let connect (name : String) : Step :=
      .connect { ConnectionConfig.ofTarget name "review.example.com" "ci-bot" with
        passphrase := some "hunter2" }
    let steps : List Step := [connect "a/b-1", connect "..1.sock", .advance 0, .advance 1,
      .advance 1, .advance 0, .execute 0 "gerrit version", .advance 1, .advance 0]
    let places : Places := ⟨["/tmp", "/tmp/gerrit-events-a"], []⟩
    let p := (new (some ⟨none, []⟩) true (fun _ => "/tmp") 7 places).run steps
    (steps.filterMap Step.connect?).length ≤ 2 ^ 64 ∧ p.world.sessions.length = 2 ∧
      p.attempts.map Attempt.control
        = ["/tmp/gerrit-events-a/b-1-7-0.sock", "/tmp/gerrit-events-..1.sock-7-1.sock"] ∧
      Apart (places.files ++ places.folders ++ steps.filterMap Step.left?) p :=
  ⟨by decide, by decide +kernel, by decide +kernel, (apart_of_run _ _ _ _ _ _ (by decide)).2⟩

end Process

end ReviewStream.Ssh
