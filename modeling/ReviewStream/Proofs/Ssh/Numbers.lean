import Mathlib.Data.List.Nodup
import ReviewStream.Proofs.Ssh.Steps

/-!
# Numbers of connects

Connects are numbered in the order in which they come, by a counter that comes round after
`2 ^ 64` of them.  Until then the paths of a connect tell which one it is.

* `Numbered`: which number each connect has.
* `Numbered.run`: the numbers in every run, of any length.
* **`Numbered.nodup_names`**: no two paths of connects end in one name.
* `Process.control_eq_of_run`: after `2 ^ 64` connects numbers are given out again.
-/

namespace ReviewStream.Ssh

open AskPass (pathFor)

variable {directory : Nat → String} {process k : Nat} {cs : List ConnectionConfig} {p q : Process}
  {a b : Attempt} {as : List Attempt} {w world : World} {phase : Phase} {x : Step}

/-! ## Labels -/

/-- The settings of a connect and its control socket. -/
def Attempt.label (a : Attempt) : ConnectionConfig × String := (a.config, a.control)

/-- What the connect ought to have that comes after so many others. -/
def labelOf (directory : Nat → String) (process k : Nat) (c : ConnectionConfig) :
    ConnectionConfig × String :=
  (c, controlPath (directory (k % 2 ^ 64)) c.name process (k % 2 ^ 64))

/-- The connects have their numbers in the order in which they came. -/
structure Numbered (directory : Nat → String) (process : Nat) (cs : List ConnectionConfig)
    (p : Process) : Prop where
  controlPath_eq : p.world.controlPath = fun name n => controlPath (directory n) name process n
  connects_eq : p.world.connects = UInt64.ofNat cs.length
  label_eq : p.attempts.map Attempt.label = cs.mapIdx (labelOf directory process)

/-- A step of a connect leaves the counter alone. -/
lemma Attempt.Turns.counter (h : a.Turns w (phase, world)) :
    world.controlPath = w.controlPath ∧ world.connects = w.connects := by
  cases h with
  | @released askpass => cases askpass <;> exact ⟨rfl, rfl⟩
  | _ => exact ⟨rfl, rfl⟩

lemma World.Speaks.counter (h : w.Speaks world) :
    world.controlPath = w.controlPath ∧ world.connects = w.connects := by
  cases h <;> exact ⟨rfl, rfl⟩

/-- A connect keeps its label, whatever becomes of it. -/
lemma map_label_set (ha : as[k]? = some a) (phase : Phase) :
    (as.set k { a with phase }).map Attempt.label = as.map Attempt.label := by
  rw [List.map_set]
  refine List.ext_getElem? fun j => ?_
  rw [List.getElem?_set]
  split_ifs with hj hk
  · subst hj
    rw [List.getElem?_map, ha]
    rfl
  · subst hj
    exact (List.getElem?_eq_none (Nat.le_of_not_lt hk)).symm
  · rfl

lemma filterMap_connect?_cons (x : Step) (steps : List Step) :
    (x :: steps).filterMap Step.connect?
      = x.connect?.toList ++ steps.filterMap Step.connect? := by
  cases x <;> rfl

namespace Numbered

lemma start (client : Option Client) (hasDisplay : Bool) (directory : Nat → String) (process : Nat)
    (places : Places) :
    Numbered directory process [] (Process.new client hasDisplay directory process places) where
  controlPath_eq := by dsimp only [Process.new]
  connects_eq := rfl
  label_eq := List.mapIdx_nil.symm

lemma step (h : Numbered directory process cs p) (hstep : p.Steps x q) :
    Numbered directory process (cs ++ x.connect?.toList) q := by
  cases hstep with
  | @numbered c =>
      have hcontrol : p.world.controlPath c.name p.world.connects.toNat
          = controlPath (directory (cs.length % 2 ^ 64)) c.name process (cs.length % 2 ^ 64) := by
        rw [h.controlPath_eq, h.connects_eq, UInt64.toNat_ofNat']
      refine ⟨h.controlPath_eq, ?_, ?_⟩
      · rw [List.length_append, UInt64.ofNat_add, ← h.connects_eq]
        rfl
      · show (p.attempts ++ [_]).map Attempt.label = (cs ++ [c]).mapIdx _
        rw [List.map_append, h.label_eq, List.mapIdx_append]
        simp [Attempt.label, labelOf, hcontrol]
  | @turned x k a phase world ha hturn hx =>
      rw [hx, Option.toList_none, List.append_nil]
      obtain ⟨hpath, hconnects⟩ := hturn.counter
      exact ⟨hpath.trans h.controlPath_eq, hconnects.trans h.connects_eq,
        (map_label_set ha phase).trans h.label_eq⟩
  | spoke hspeaks hx =>
      rw [hx, Option.toList_none, List.append_nil]
      obtain ⟨hpath, hconnects⟩ := hspeaks.counter
      exact ⟨hpath.trans h.controlPath_eq, hconnects.trans h.connects_eq, h.label_eq⟩
  | disturbed | answered =>
      show Numbered directory process (cs ++ []) _
      rw [List.append_nil]
      exact ⟨h.controlPath_eq, h.connects_eq, h.label_eq⟩

lemma run (h : Numbered directory process cs p) (steps : List Step) :
    Numbered directory process (cs ++ steps.filterMap Step.connect?) (p.run steps) := by
  induction steps generalizing cs p with
  | nil => rwa [List.filterMap_nil, List.append_nil]
  | cons x steps ih =>
      have hrest := ih (h.step (p.steps_step x))
      rwa [List.append_assoc, ← filterMap_connect?_cons] at hrest

lemma length_attempts (h : Numbered directory process cs p) : p.attempts.length = cs.length := by
  have hlength := congrArg List.length h.label_eq
  rwa [List.length_map, List.length_mapIdx] at hlength

/-- The path of a control socket, by the number of connects that came before. -/
lemma control_eq (h : Numbered directory process cs p) (ha : p.attempts[k]? = some a) :
    a.control = controlPath (directory (k % 2 ^ 64)) a.config.name process (k % 2 ^ 64) := by
  have hlabel : (p.attempts.map Attempt.label)[k]? = some a.label := by
    rw [List.getElem?_map, ha]
    rfl
  rw [h.label_eq, List.getElem?_mapIdx] at hlabel
  obtain ⟨c, -, hc⟩ := Option.map_eq_some_iff.mp hlabel
  obtain ⟨hconfig, hcontrol⟩ := Prod.mk.inj hc
  rw [← hcontrol, hconfig]

/-- As long as the counter has not come round, the paths of a connect end in the number of connects
that came before. -/
lemma isNumbered (h : Numbered directory process cs p) (hcount : cs.length ≤ 2 ^ 64)
    (ha : p.attempts[k]? = some a) : IsNumbered k "sock".toList a.control := by
  have hk : k < 2 ^ 64 := by
    have hlt := (List.getElem?_eq_some_iff.mp ha).1
    rw [h.length_attempts] at hlt
    omega
  have hcontrol := h.control_eq ha
  rw [Nat.mod_eq_of_lt hk] at hcontrol
  rw [hcontrol]
  exact isNumbered_controlPath ..

/-- The helper of a connect tells which connect it is. -/
lemma eq_of_pathFor_eq (h : Numbered directory process cs p) (hcount : cs.length ≤ 2 ^ 64)
    (ha : a ∈ p.attempts) (hb : b ∈ p.attempts) (heq : pathFor a.control = pathFor b.control) :
    a = b := by
  obtain ⟨j, hj⟩ := List.mem_iff_getElem?.mp ha
  obtain ⟨k, hk⟩ := List.mem_iff_getElem?.mp hb
  have hnumbered := (h.isNumbered hcount hj).pathFor isExtension_sock
  rw [heq] at hnumbered
  obtain ⟨rfl, -⟩ := hnumbered.unique ((h.isNumbered hcount hk).pathFor isExtension_sock)
    isExtension_askpass isExtension_askpass
  exact Option.some.inj (hj.symm.trans hk)

/-- The control socket of a connect tells which connect it is. -/
lemma eq_of_control_eq (h : Numbered directory process cs p) (hcount : cs.length ≤ 2 ^ 64)
    (ha : a ∈ p.attempts) (hb : b ∈ p.attempts) (heq : a.control = b.control) : a = b :=
  h.eq_of_pathFor_eq hcount ha hb (congrArg pathFor heq)

end Numbered

/-! ## Names -/

/-- The paths of a connect: its control socket and its helper. -/
def Attempt.paths (a : Attempt) : List String := [a.control, pathFor a.control]

namespace Numbered

variable (h : Numbered directory process cs p) (hcount : cs.length ≤ 2 ^ 64)
include h hcount

lemma isNumbered_of_mem_paths (ha : p.attempts[k]? = some a) {name : String}
    (hname : name ∈ a.paths.map lastName) :
    ∃ kind, IsExtension kind ∧ IsNumbered k kind name := by
  have hcontrol := h.isNumbered hcount ha
  obtain ⟨path, hpath, rfl⟩ := List.mem_map.mp hname
  rcases List.mem_pair.mp hpath with rfl | rfl
  · exact ⟨_, isExtension_sock, hcontrol.lastName isExtension_sock⟩
  · exact ⟨_, isExtension_askpass,
      (hcontrol.pathFor isExtension_sock).lastName isExtension_askpass⟩

lemma nodup_names_of_mem (ha : p.attempts[k]? = some a) : (a.paths.map lastName).Nodup := by
  have hcontrol := h.isNumbered hcount ha
  refine List.nodup_cons.mpr ⟨fun hmem => ?_, List.nodup_singleton _⟩
  have hsocket := hcontrol.lastName isExtension_sock
  rw [List.mem_singleton.mp hmem] at hsocket
  have hkind := (hsocket.unique
    ((hcontrol.pathFor isExtension_sock).lastName isExtension_askpass)
    isExtension_sock isExtension_askpass).2
  exact absurd hkind (by decide)

/-- **No two paths of connects end in one name.** -/
theorem nodup_names : ((p.attempts.flatMap Attempt.paths).map lastName).Nodup := by
  rw [List.map_flatMap, List.nodup_flatMap]
  constructor
  · intro a ha
    obtain ⟨k, hk⟩ := List.mem_iff_getElem?.mp ha
    exact h.nodup_names_of_mem hcount hk
  · rw [List.pairwise_iff_getElem]
    intro j k hj hk hlt name hfirst hsecond
    obtain ⟨kind, hkind, hnumber⟩ :=
      h.isNumbered_of_mem_paths hcount (List.getElem?_eq_getElem hj) hfirst
    obtain ⟨other, hother, hlater⟩ :=
      h.isNumbered_of_mem_paths hcount (List.getElem?_eq_getElem hk) hsecond
    have heq := (hnumber.unique hlater hkind hother).1
    omega

end Numbered

/-! ## After the last number -/

/-- **Numbers are given out again** after `2 ^ 64` connects: the counter comes round. -/
theorem Process.control_eq_of_run (client : Option Client) (hasDisplay : Bool)
    (directory : Nat → String) (process : Nat) (places : Places) (steps : List Step) {j k : Nat}
    (ha : ((new client hasDisplay directory process places).run steps).attempts[j]? = some a)
    (hb : ((new client hasDisplay directory process places).run steps).attempts[k]? = some b)
    (hmod : j % 2 ^ 64 = k % 2 ^ 64) (hname : a.config.name = b.config.name) :
    a.control = b.control := by
  have hnumbered := (Numbered.start client hasDisplay directory process places).run steps
  rw [hnumbered.control_eq ha, hnumbered.control_eq hb, hmod, hname]

end ReviewStream.Ssh
