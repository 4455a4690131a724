import Mathlib.Data.List.Induction
import Mathlib.Data.List.Nodup
import Mathlib.Tactic.Lemma
import Mathlib.Tactic.SplitIfs
import ReviewStream.Proofs.Listener.Identity
import ReviewStream.Proofs.Listener.Membership

/-!
# A shared set of listeners is a list

Several tasks share a set of listeners.  However their calls take turns, the answers are those of
one list that the calls go through one after the other: a call counts from the moment at which the
list that it makes is stored, or, if it makes none, from the moment at which it looks.

* `ListenerDeed.change`, `ListenerDeed.RightAt`: what a call makes of a list, and the answer that it
  has to give there.
* `SharedListeners.StandsSince`: the latest call that added an instance.
* `ListenerSet.write_spec`: the calls give the right answers on a set that nobody shares.
* `SharedListeners.Agrees`: the list in use is the one that the answers speak of.
  `Agrees.act` and `agrees_after`: one act, and any number of them, keep it so.
* `SharedListeners.begun_eq`: calls are answered in the order in which they get the lock.
  `SharedListeners.reads_eq`: those that only look are answered in the order in which they are made.
* **`SharedListeners.isList_after`**: the set is the list, and the snapshots stay as they are.
-/

namespace ReviewStream

variable {α β : Type}

/-! ## A list that calls go through -/

namespace ListenerDeed

/-- What a call makes of a list, given its answer. -/
def change (members : List (Instance α)) : ListenerDeed α → List (Instance α)
  | added x true => members ++ [x]
  | removed id true => members.filter (·.id != id)
  | cleared _ => []
  | added _ false | removed _ false | asked .. | taken _ => members

/-- The answer that a call has to give when it meets with a list. -/
def RightAt (made : List (ListenerSet α)) (members : List (Instance α)) : ListenerDeed α → Prop
  | added x done => done = true ↔ ∀ l ∈ members, l.id ≠ x.id
  | removed id done => done = true ↔ ∃ l ∈ members, l.id = id
  | cleared all => all = members
  | asked id found => found = true ↔ ∃ l ∈ members, l.id = id
  | taken pointer => made[pointer]? = some ⟨members⟩

/-- Whether a call added an instance or took it out. -/
def concerns (id : String) : ListenerDeed α → Bool
  | added x done => done && x.id == id
  | removed other done => done && other == id
  | cleared _ => true
  | asked .. | taken _ => false

variable {made later : List (ListenerSet α)} {members : List (Instance α)} {d : ListenerDeed α}
  {x : Instance α}

lemma RightAt.mono (h : d.RightAt made members) (hmade : made <+: later) :
    d.RightAt later members := by
  cases d with
  | taken pointer =>
      obtain ⟨more, rfl⟩ := hmade
      obtain ⟨hlt, hlist⟩ := List.getElem?_eq_some_iff.mp h
      exact (List.getElem?_append_left hlt).trans h
  | _ => exact h

/-- The members that a call leaves are those that it does not concern, and the one that it adds. -/
lemma change_eq (h : d.RightAt made members) :
    (∀ x, d ≠ .added x true) ∧ d.change members = members.filter (fun l => !d.concerns l.id) ∨
      ∃ x, d = .added x true ∧ (∀ l ∈ members, l.id ≠ x.id) ∧
        d.change members = members ++ [x] := by
  -- A call that concerns nobody leaves all members.
  have hall : (∀ id, d.concerns id = false) →
      members = members.filter (fun l => !d.concerns l.id) := by
    intro hnone
    refine (List.filter_eq_self.mpr fun l _ => ?_).symm
    rw [hnone]
    rfl
  cases d with
  | added x done =>
      cases done with
      | true => exact .inr ⟨x, rfl, h.mp rfl, rfl⟩
      | false => exact .inl ⟨nofun, hall fun _ => rfl⟩
  | removed id done =>
      cases done with
      | true => exact .inl ⟨nofun, by simp [change, concerns, bne, BEq.comm]⟩
      | false => exact .inl ⟨nofun, hall fun _ => rfl⟩
  | cleared _ => exact .inl ⟨nofun, by simp [change, concerns]⟩
  | asked id found => exact .inl ⟨nofun, hall fun _ => rfl⟩
  | taken pointer => exact .inl ⟨nofun, hall fun _ => rfl⟩

end ListenerDeed

namespace SharedListeners

/-- The list after some calls, the earliest first. -/
def listOf (log : List (ListenerDeed α)) : List (Instance α) :=
  log.foldl ListenerDeed.change []

/-- All answers are those that the calls had to give. -/
def AllRight (made : List (ListenerSet α)) (log : List (ListenerDeed α)) : Prop :=
  ∀ before d later, log = before ++ d :: later → d.RightAt made (listOf before)

/-- The latest call that added an instance: no call behind it has concerned that instance. -/
structure StandsSince (log : List (ListenerDeed α)) (x : Instance α) (n : Nat) : Prop where
  added : log[n]? = some (.added x true)
  last : ∀ m d, n < m → log[m]? = some d → d.concerns x.id = false

variable {made : List (ListenerSet α)} {log : List (ListenerDeed α)} {d : ListenerDeed α}
  {x : Instance α} {n : Nat}

lemma listOf_append (log : List (ListenerDeed α)) (d : ListenerDeed α) :
    listOf (log ++ [d]) = d.change (listOf log) := by
  rw [listOf, List.foldl_append]
  rfl

lemma AllRight.nil : AllRight made ([] : List (ListenerDeed α)) := by
  intro before d later h
  simp at h

lemma allRight_append :
    AllRight made (log ++ [d]) ↔ AllRight made log ∧ d.RightAt made (listOf log) := by
  constructor
  · intro h
    refine ⟨?_, h log d [] rfl⟩
    rintro before d' later rfl
    exact h before d' (later ++ [d]) (by simp)
  · rintro ⟨hlog, hd⟩ before d' later heq
    rcases List.eq_nil_or_concat later with rfl | ⟨rest, last, rfl⟩
    · obtain ⟨rfl, hlast⟩ := List.append_inj' heq rfl
      cases hlast
      exact hd
    · refine hlog before d' rest ?_
      rw [List.concat_eq_append, ← List.cons_append, ← List.append_assoc] at heq
      exact (List.append_inj' heq rfl).1

lemma AllRight.mono {later : List (ListenerSet α)} (h : AllRight made log)
    (hmade : made <+: later) : AllRight later log :=
  fun before d rest heq => (h before d rest heq).mono hmade

lemma getElem?_append_singleton_iff {d' : ListenerDeed α} :
    (log ++ [d])[n]? = some d' ↔ log[n]? = some d' ∨ n = log.length ∧ d = d' := by
  rcases Nat.lt_trichotomy n log.length with hlt | rfl | hgt
  · rw [List.getElem?_append_left hlt]
    simp [Nat.ne_of_lt hlt]
  · simp
  · have hlength : (log ++ [d]).length ≤ n := by simpa using Nat.succ_le_of_lt hgt
    rw [List.getElem?_eq_none hlength, List.getElem?_eq_none (Nat.le_of_lt hgt)]
    simp [Nat.ne_of_gt hgt]

lemma standsSince_append : StandsSince (log ++ [d]) x n ↔
    StandsSince log x n ∧ d.concerns x.id = false ∨ n = log.length ∧ d = .added x true := by
  constructor
  · rintro ⟨hadded, hlast⟩
    rcases getElem?_append_singleton_iff.mp hadded with hbefore | ⟨rfl, rfl⟩
    · have hlt := (List.getElem?_eq_some_iff.mp hbefore).1
      refine .inl ⟨⟨hbefore, fun m d' hm hd' => ?_⟩, ?_⟩
      · exact hlast m d' hm (getElem?_append_singleton_iff.mpr (.inl hd'))
      · exact hlast log.length d hlt (getElem?_append_singleton_iff.mpr (.inr ⟨rfl, rfl⟩))
    · exact .inr ⟨rfl, rfl⟩
  · rintro (⟨⟨hadded, hlast⟩, hd⟩ | ⟨rfl, rfl⟩)
    · refine ⟨getElem?_append_singleton_iff.mpr (.inl hadded), fun m d' hm hd' => ?_⟩
      rcases getElem?_append_singleton_iff.mp hd' with hbefore | ⟨-, rfl⟩
      · exact hlast m d' hm hbefore
      · exact hd
    · refine ⟨getElem?_append_singleton_iff.mpr (.inr ⟨rfl, rfl⟩), fun m d' hm hd' => ?_⟩
      have hlt := (List.getElem?_eq_some_iff.mp hd').1
      rw [List.length_append, List.length_singleton] at hlt
      exact absurd hm (Nat.not_lt_of_le (Nat.le_of_lt_succ hlt))

/-- The list holds the instances that were added last, in that order. -/
structure InOrder (log : List (ListenerDeed α)) (members : List (Instance α)) : Prop where
  mem_iff : ∀ x, x ∈ members ↔ ∃ n, StandsSince log x n
  order : members.Pairwise fun x y => ∃ m n, m < n ∧ StandsSince log x m ∧ StandsSince log y n
  nodup : (members.map (·.id)).Nodup

lemma InOrder.nil : InOrder ([] : List (ListenerDeed α)) [] where
  mem_iff x := ⟨nofun, fun ⟨_, hstands⟩ => by cases hstands.added⟩
  order := .nil
  nodup := .nil

/-- The answers tell in which order the instances were added. -/
lemma InOrder.change {members : List (Instance α)} (h : InOrder log members)
    (hd : d.RightAt made members) : InOrder (log ++ [d]) (d.change members) := by
  rcases ListenerDeed.change_eq hd with ⟨hnone, hchange⟩ | ⟨y, rfl, hnew, hchange⟩
  · rw [hchange]
    refine ⟨fun x => ?_, ?_, ?_⟩
    · simp [List.mem_filter, h.mem_iff, standsSince_append, hnone]
    · refine (h.order.filter _).imp_of_mem fun hx hy hbefore => ?_
      obtain ⟨m, n, hlt, hm, hn⟩ := hbefore
      have hx' := (List.mem_filter.mp hx).2
      have hy' := (List.mem_filter.mp hy).2
      exact ⟨m, n, hlt, standsSince_append.mpr (.inl ⟨hm, by simpa using hx'⟩),
        standsSince_append.mpr (.inl ⟨hn, by simpa using hy'⟩)⟩
    · exact h.nodup.sublist (List.filter_sublist.map _)
  · have hkept : ∀ x ∈ members, (ListenerDeed.added y true).concerns x.id = false := by
      intro x hx
      simpa [ListenerDeed.concerns] using (hnew x hx).symm
    have hlatest : StandsSince (log ++ [.added y true]) y log.length :=
      standsSince_append.mpr (.inr ⟨rfl, rfl⟩)
    rw [hchange]
    refine ⟨fun x => ?_, List.pairwise_append.mpr ⟨?_, List.pairwise_singleton _ _, ?_⟩, ?_⟩
    · constructor
      · intro hx
        rcases List.mem_append.mp hx with hold | hadded
        · obtain ⟨n, hn⟩ := (h.mem_iff x).mp hold
          exact ⟨n, standsSince_append.mpr (.inl ⟨hn, hkept x hold⟩)⟩
        · cases List.mem_singleton.mp hadded
          exact ⟨_, hlatest⟩
      · rintro ⟨n, hn⟩
        rcases standsSince_append.mp hn with ⟨hold, -⟩ | ⟨-, heq⟩
        · exact List.mem_append_left _ ((h.mem_iff x).mpr ⟨n, hold⟩)
        · cases heq
          exact List.mem_append_right _ (List.mem_singleton_self _)
    · refine h.order.imp_of_mem fun hx hz hbefore => ?_
      obtain ⟨m, n, hlt, hm, hn⟩ := hbefore
      exact ⟨m, n, hlt, standsSince_append.mpr (.inl ⟨hm, hkept _ hx⟩),
        standsSince_append.mpr (.inl ⟨hn, hkept _ hz⟩)⟩
    · intro x hx z hz
      cases List.mem_singleton.mp hz
      obtain ⟨m, hm⟩ := (h.mem_iff x).mp hx
      have hlt := (List.getElem?_eq_some_iff.mp hm.added).1
      exact ⟨m, log.length, hlt, standsSince_append.mpr (.inl ⟨hm, hkept x hx⟩), hlatest⟩
    · rw [List.map_append, List.map_singleton, List.nodup_append]
      refine ⟨h.nodup, List.nodup_singleton _, ?_⟩
      intro id hid other hother
      obtain ⟨x, hx, rfl⟩ := List.mem_map.mp hid
      cases List.mem_singleton.mp hother
      exact hnew x hx

lemma inOrder_listOf (h : AllRight made log) : InOrder log (listOf log) := by
  -- The induction is on the calls from the last one on.
  induction log using List.reverseRecOn with
  | nil => exact .nil
  | append_singleton log d ih =>
      obtain ⟨hlog, hd⟩ := allRight_append.mp h
      rw [listOf_append]
      exact (ih hlog).change hd

/-! ## Calls on the list in use -/

end SharedListeners

namespace ListenerSet

variable {l : ListenerSet α} {x : Instance α} {id : String}

lemma add_eq_self (h : (l.add x).1 = false) : (l.add x).2 = l := by
  rw [add] at h ⊢
  split_ifs at h ⊢
  rfl

lemma remove_eq_self (h : (l.remove id).1 = false) : (l.remove id).2 = l := by
  rw [remove] at h ⊢
  split_ifs at h ⊢
  rfl

/-- What a call does to a set that nobody shares. -/
lemma write_spec {l : ListenerSet α} (h : (l.members.map (·.id)).Nodup)
    (made : List (ListenerSet α)) (w : ListenerWrite α) :
    (l.write w).1.RightAt made l.members ∧
      (l.write w).2.members = (l.write w).1.change l.members := by
  cases w with
  | add x =>
      rw [write, add]
      split_ifs with hmem
      · refine ⟨iff_of_false Bool.false_ne_true fun hnone => ?_, rfl⟩
        obtain ⟨y, hy, hid⟩ := contains_iff.mp hmem
        exact hnone y hy hid
      · refine ⟨iff_of_true rfl fun y hy hid => ?_, rfl⟩
        exact hmem (contains_iff.mpr ⟨y, hy, hid⟩)
  | remove id =>
      have hmembers := members_remove (List.pairwise_map.mp h) id
      rw [remove] at hmembers
      rw [write, remove]
      split_ifs at hmembers ⊢ with hmem
      · exact ⟨iff_of_true rfl (contains_iff.mp hmem), hmembers⟩
      · exact ⟨iff_of_false Bool.false_ne_true fun hex => hmem (contains_iff.mpr hex), rfl⟩
  | removeAll => exact ⟨rfl, rfl⟩

end ListenerSet

namespace SharedListeners

variable {s t : SharedListeners α}

@[simp] lemma inUse_store (s : SharedListeners α) (l : ListenerSet α) : (s.store l).inUse = l := by
  simp [inUse, store]

lemma listAt_current (s : SharedListeners α) : s.listAt s.current = s.inUse := by
  simp [listAt, inUse, List.getD, s.current_lt]

/-- The pointer that the writer has loaded. -/
def loaded? (s : SharedListeners α) : Option Nat :=
  match s.writer with
  | some (.adding _ loaded) | some (.removing _ loaded) => loaded
  | _ => none

/-- The call that has the lock and waits for its answer. -/
def pending? (s : SharedListeners α) : Option (ListenerWrite α) :=
  match s.writer with
  | some (.adding x _) => some (.add x)
  | some (.removing id _) => some (.remove id)
  | some .clearing => some .removeAll
  | some .leaving | none => none

/-- A writer that changes nothing stores nothing. -/
lemma settle_spec (s : SharedListeners α) {outcome : Bool × ListenerSet α}
    (deed : Bool → ListenerDeed α) (hsame : outcome.1 = false → outcome.2 = s.inUse) :
    s.made <+: (s.settle outcome deed).made ∧ (s.settle outcome deed).inUse = outcome.2 ∧
      (s.settle outcome deed).log = s.log ++ [deed outcome.1] ∧
      (s.settle outcome deed).writer = some .leaving := by
  obtain ⟨done, l⟩ := outcome
  cases done with
  | true => exact ⟨List.prefix_append _ _, inUse_store s l, rfl, rfl⟩
  | false => exact ⟨List.prefix_rfl, (hsame rfl).symm, rfl, rfl⟩

/-- A writer that goes on either gets ahead without an answer, or its call is answered and the list
that is in use then is the one that the call leaves. -/
lemma advance_cases (hloaded : ∀ pointer, s.loaded? = some pointer → pointer = s.current) :
    (s.advance.made = s.made ∧ s.advance.inUse = s.inUse ∧ s.advance.log = s.log ∧
      s.advance.pending? = s.pending? ∧
      ∀ pointer, s.advance.loaded? = some pointer → pointer = s.advance.current) ∨
    ∃ w, s.pending? = some w ∧ s.made <+: s.advance.made ∧ s.advance.inUse = (s.inUse.write w).2 ∧
      s.advance.log = s.log ++ [(s.inUse.write w).1] ∧ s.advance.writer = some .leaving := by
  cases hwriter : s.writer with
  | none => exact .inl (by simpa [advance, hwriter] using hloaded)
  | some writer =>
      cases writer with
      | adding x loaded =>
          cases loaded with
          | none => exact .inl (by simp [advance, hwriter, loaded?, pending?, inUse])
          | some pointer =>
              obtain rfl := hloaded pointer (by simp [loaded?, hwriter])
              refine .inr ⟨.add x, by simp [pending?, hwriter], ?_⟩
              simp only [advance, hwriter, listAt_current]
              exact settle_spec s (.added x) ListenerSet.add_eq_self
      | removing id loaded =>
          cases loaded with
          | none => exact .inl (by simp [advance, hwriter, loaded?, pending?, inUse])
          | some pointer =>
              obtain rfl := hloaded pointer (by simp [loaded?, hwriter])
              refine .inr ⟨.remove id, by simp [pending?, hwriter], ?_⟩
              simp only [advance, hwriter, listAt_current]
              exact settle_spec s (.removed id) ListenerSet.remove_eq_self
      | clearing =>
          refine .inr ⟨.removeAll, by simp [pending?, hwriter], ?_⟩
          simp only [advance, hwriter]
          exact ⟨List.prefix_append _ _, inUse_store s _, rfl, rfl⟩
      | leaving => exact .inl (by simp [advance, hwriter, loaded?, pending?, inUse])

/-- The answers are right, and the list in use is the one that they speak of. -/
structure Agrees (s : SharedListeners α) : Prop where
  allRight : AllRight s.made s.log
  inUse_eq : s.inUse.members = listOf s.log
  /-- Nobody stores a list while a writer holds the one that it has loaded. -/
  loaded_eq : ∀ pointer, s.loaded? = some pointer → pointer = s.current

lemma Agrees.nodup (h : Agrees s) : (s.inUse.members.map (·.id)).Nodup :=
  h.inUse_eq ▸ (inOrder_listOf h.allRight).nodup

/-- An answer is added. -/
lemma Agrees.answer {d : ListenerDeed α} (h : Agrees s) (hmade : s.made <+: t.made)
    (hlog : t.log = s.log ++ [d]) (hright : d.RightAt t.made s.inUse.members)
    (hinUse : t.inUse.members = d.change s.inUse.members)
    (hloaded : ∀ pointer, t.loaded? = some pointer → pointer = t.current) : Agrees t where
  allRight := by
    rw [hlog, allRight_append, ← h.inUse_eq]
    exact ⟨h.allRight.mono hmade, hright⟩
  inUse_eq := by rw [hlog, listOf_append, hinUse, h.inUse_eq]
  loaded_eq := hloaded

lemma agrees_empty : Agrees (empty : SharedListeners α) := ⟨.nil, rfl, nofun⟩

lemma Agrees.advance (h : Agrees s) : Agrees s.advance := by
  rcases advance_cases h.loaded_eq with
    ⟨hmade, hinUse, hlog, -, hloaded⟩ | ⟨w, -, hmade, hinUse, hlog, hwriter⟩
  · refine ⟨?_, ?_, hloaded⟩
    · rw [hmade, hlog]
      exact h.allRight
    · rw [hinUse, hlog]
      exact h.inUse_eq
  · obtain ⟨hright, hchange⟩ := ListenerSet.write_spec h.nodup s.advance.made w
    refine h.answer hmade hlog hright (hinUse ▸ hchange) ?_
    simp [loaded?, hwriter]

lemma enter_cases (s : SharedListeners α) (w : ListenerWrite α) :
    s.enter w = s ∨ s.writer = none ∧ s.enter w = { s with writer := some (writerOf w) } := by
  rw [enter]
  cases s.writer with
  | none => exact .inr ⟨rfl, rfl⟩
  | some writer => exact .inl rfl

/-- One act, by any task. -/
theorem Agrees.act (h : Agrees s) (a : Act α) : Agrees (s.act a) := by
  cases a with
  | enter w =>
      rw [SharedListeners.act]
      rcases enter_cases s w with hwait | ⟨-, henter⟩
      · rwa [hwait]
      · rw [henter]
        refine ⟨h.allRight, h.inUse_eq, ?_⟩
        intro pointer hpointer
        cases w with
        | add | remove | removeAll => cases hpointer
  | advance => exact h.advance
  | ask id =>
      exact h.answer List.prefix_rfl rfl ListenerSet.contains_iff rfl h.loaded_eq
  | take =>
      refine h.answer List.prefix_rfl rfl ?_ rfl h.loaded_eq
      exact List.getElem?_eq_getElem s.current_lt

theorem agrees_after (h : Agrees s) (acts : List (Act α)) : Agrees (s.after acts) := by
  induction acts generalizing s with
  | nil => exact h
  | cons a acts ih => exact ih (h.act a)

/-- What was made and what was answered stays. -/
lemma Agrees.prefix_act (h : Agrees s) (a : Act α) :
    s.made <+: (s.act a).made ∧ s.log <+: (s.act a).log := by
  cases a with
  | enter w =>
      rw [SharedListeners.act]
      rcases enter_cases s w with hwait | ⟨-, henter⟩
      · rw [hwait]
        exact ⟨List.prefix_rfl, List.prefix_rfl⟩
      · rw [henter]
        exact ⟨List.prefix_rfl, List.prefix_rfl⟩
  | advance =>
      rw [SharedListeners.act]
      rcases advance_cases h.loaded_eq with ⟨hmade, -, hlog, -⟩ | ⟨w, -, hmade, -, hlog, -⟩
      · rw [hmade, hlog]
        exact ⟨List.prefix_rfl, List.prefix_rfl⟩
      · rw [hlog]
        exact ⟨hmade, List.prefix_append _ _⟩
  | ask | take => exact ⟨List.prefix_rfl, List.prefix_append _ _⟩

lemma Agrees.prefix_after (h : Agrees s) (acts : List (Act α)) :
    s.made <+: (s.after acts).made ∧ s.log <+: (s.after acts).log := by
  induction acts generalizing s with
  | nil => exact ⟨List.prefix_rfl, List.prefix_rfl⟩
  | cons a acts ih =>
      obtain ⟨hmade, hlog⟩ := h.prefix_act a
      have hlater := ih (h.act a)
      exact ⟨hmade.trans hlater.1, hlog.trans hlater.2⟩

/-! ## Every call is answered -/

end SharedListeners

/-- The call that an answer is for, if it may change the set. -/
def ListenerDeed.write? : ListenerDeed α → Option (ListenerWrite α)
  | added x _ => some (.add x)
  | removed id _ => some (.remove id)
  | cleared _ => some .removeAll
  | asked .. | taken _ => none

lemma ListenerSet.write?_write (l : ListenerSet α) (w : ListenerWrite α) :
    (l.write w).1.write? = some w := by
  cases w with
  | add | remove | removeAll => rfl

namespace SharedListeners

variable {s : SharedListeners α}

/-- The calls that get the lock, one after the other. -/
def begun (s : SharedListeners α) : List (Act α) → List (ListenerWrite α)
  | [] => []
  | .enter w :: acts =>
    match s.writer with
    | none => w :: (s.enter w).begun acts
    | some _ => s.begun acts
  | a :: acts => (s.act a).begun acts

/-- Calls are answered in the order in which they get the lock, and the last one may still wait. -/
theorem begun_eq (h : Agrees s) (acts : List (Act α)) :
    s.log.filterMap ListenerDeed.write? ++ s.pending?.toList ++ s.begun acts =
      (s.after acts).log.filterMap ListenerDeed.write? ++ (s.after acts).pending?.toList := by
  induction acts generalizing s with
  | nil => simp [begun, after]
  | cons a acts ih =>
      have hnext := ih (h.act a)
      rw [after, List.foldl_cons, ← after, ← hnext]
      cases a with
      | enter w =>
          cases hwriter : s.writer with
          | some writer => simp only [begun, SharedListeners.act, enter, hwriter]
          | none =>
              have hwaits : s.pending? = none := by simp only [pending?, hwriter]
              have hbegins : ({ s with writer := some (writerOf w) } : SharedListeners α).pending?
                  = some w := by
                cases w with
                | add | remove | removeAll => rfl
              simp only [begun, SharedListeners.act, enter, hwriter, hwaits, hbegins]
              simp
      | advance =>
          rw [begun, SharedListeners.act]
          · rcases advance_cases h.loaded_eq with
              ⟨-, -, hlog, hpending, -⟩ | ⟨w, hpending, -, -, hlog, hwriter⟩
            · rw [hlog, hpending]
            · rw [hlog, hpending]
              simp [ListenerSet.write?_write, pending?, hwriter]
          · intro w hw
            cases hw
      | ask id =>
          rw [begun, SharedListeners.act]
          · simp [note, ListenerDeed.write?, pending?]
          · intro w hw
            cases hw
      | take =>
          rw [begun, SharedListeners.act]
          · simp [note, ListenerDeed.write?, pending?]
          · intro w hw
            cases hw

end SharedListeners

/-- A call that looks at a set and leaves it as it is. -/
inductive ListenerRead where
  | ask (id : String)
  | take

/-- The call that an answer is for, if it only looks. -/
def ListenerDeed.read? : ListenerDeed α → Option ListenerRead
  | asked id _ => some (.ask id)
  | taken _ => some .take
  | added .. | removed .. | cleared _ => none

lemma ListenerSet.read?_write (l : ListenerSet α) (w : ListenerWrite α) :
    (l.write w).1.read? = none := by
  cases w with
  | add | remove | removeAll => rfl

namespace SharedListeners

variable {s : SharedListeners α}

/-- The call that a task makes if it only looks. -/
def Act.read? : Act α → Option ListenerRead
  | .ask id => some (.ask id)
  | .take => some .take
  | .enter _ | .advance => none

/-- Who looks has the answer at once, and writers answer nobody else. -/
lemma Agrees.reads_act (h : Agrees s) (a : Act α) :
    (s.act a).log.filterMap ListenerDeed.read? =
      s.log.filterMap ListenerDeed.read? ++ a.read?.toList := by
  cases a with
  | enter w =>
      rw [SharedListeners.act]
      rcases enter_cases s w with hwait | ⟨-, henter⟩
      · simp [hwait, Act.read?]
      · simp [henter, Act.read?]
  | advance =>
      rw [SharedListeners.act]
      rcases advance_cases h.loaded_eq with ⟨-, -, hlog, -, -⟩ | ⟨w, -, -, -, hlog, -⟩
      · simp [hlog, Act.read?]
      · simp [hlog, ListenerSet.read?_write, Act.read?]
  | ask | take => exact List.filterMap_append

/-- Calls that only look are answered, each at its moment. -/
theorem reads_eq (h : Agrees s) (acts : List (Act α)) :
    s.log.filterMap ListenerDeed.read? ++ acts.filterMap Act.read? =
      (s.after acts).log.filterMap ListenerDeed.read? := by
  induction acts generalizing s with
  | nil => simp [after]
  | cons a acts ih =>
      rw [after, List.foldl_cons, ← after, ← ih (h.act a), h.reads_act a, List.filterMap_cons]
      cases a.read? with
      | none => simp
      | some read => simp

/-- How many turns the writer needs to give the lock back. -/
def turns (s : SharedListeners α) : Nat :=
  match s.writer with
  | none => 0
  | some .leaving => 1
  | some .clearing | some (.adding _ (some _)) | some (.removing _ (some _)) => 2
  | some (.adding _ none) | some (.removing _ none) => 3

lemma turns_le (s : SharedListeners α) : s.turns ≤ 3 := by
  rw [turns]
  split <;> decide

lemma writer_of_turns_eq_zero (h : s.turns = 0) : s.writer = none := by
  rw [turns] at h
  split at h
  · assumption
  all_goals cases h

lemma turns_settle (s : SharedListeners α) (outcome : Bool × ListenerSet α)
    (deed : Bool → ListenerDeed α) : (s.settle outcome deed).turns = 1 := by
  rw [settle]
  split_ifs
  · rfl
  · rfl

lemma turns_advance (s : SharedListeners α) : s.advance.turns = s.turns - 1 := by
  obtain ⟨made, current, current_lt, _ | writer, log⟩ := s
  · rfl
  · cases writer with
    | adding x loaded | removing id loaded =>
        cases loaded with
        | none => rfl
        | some pointer => exact turns_settle ..
    | clearing => rfl
    | leaving => rfl

/-- The lock is given back. -/
lemma writer_after_advance (s : SharedListeners α) :
    (s.after [.advance, .advance, .advance]).writer = none := by
  refine writer_of_turns_eq_zero ?_
  show s.advance.advance.advance.turns = 0
  rw [turns_advance, turns_advance, turns_advance]
  have hle := s.turns_le
  omega

/-! ## The set is a list -/

/-- At every moment, the set is the list that the calls have gone through. -/
structure IsList (s : SharedListeners α) : Prop where
  members_eq : s.inUse.members = listOf s.log
  /-- No instance is there twice, and they stand in the order of the calls that added them last. -/
  inOrder : InOrder s.log s.inUse.members
  /-- A call met with the list that the calls before it had left, and answered accordingly. -/
  allRight : AllRight s.made s.log
  /-- A snapshot is the list of its moment, whatever is done later. -/
  snapshot_stays : ∀ before pointer later, s.log = before ++ .taken pointer :: later →
    ∀ more, (s.after more).made[pointer]? = some ⟨listOf before⟩
  answers_stay : ∀ more, s.log <+: (s.after more).log

lemma Agrees.isList (h : Agrees s) : IsList s where
  members_eq := h.inUse_eq
  inOrder := h.inUse_eq ▸ inOrder_listOf h.allRight
  allRight := h.allRight
  snapshot_stays := by
    intro before pointer later hlog more
    exact (h.allRight before _ later hlog).mono (h.prefix_after more).1
  answers_stay more := (h.prefix_after more).2

/-- **A shared set of listeners is a list.**  Whatever several tasks do to it, the set is a list
that their calls go through in the order in which they get the lock; no call is left without an
answer for long, and those that only look have it at once; and the values of the instances make no
difference. -/
theorem isList_after (acts : List (Act α)) :
    IsList (empty.after acts) ∧
      empty.begun acts = (empty.after acts).log.filterMap ListenerDeed.write? ++
        (empty.after acts).pending?.toList ∧
      acts.filterMap Act.read? = (empty.after acts).log.filterMap ListenerDeed.read? ∧
      ((empty.after acts).after [.advance, .advance, .advance]).writer = none ∧
      ∀ (β : Type) (f : α → β),
        empty.after (acts.map (Act.map f)) = (empty.after acts).map f := by
  have hagrees := agrees_after agrees_empty acts
  refine ⟨hagrees.isList, ?_, ?_, writer_after_advance _, ?_⟩
  · exact begun_eq agrees_empty acts
  · exact reads_eq agrees_empty acts
  · intro β f
    exact after_map f empty acts

/-- Two instances of one value, and a snapshot that is taken while the second one is added. -/
example :
    let a : Instance String := ⟨"first", "logger"⟩
    let b : Instance String := ⟨"second", "logger"⟩
    let whole (w : ListenerWrite String) : List (Act String) :=
      [.enter w, .advance, .advance, .advance]
    let s := empty.after (whole (.add a) ++
      [.enter (.add b), .advance, .take, .advance, .advance] ++
      whole (.remove "first") ++ whole (.add b))
    s.inUse.members = [b] ∧ s.log = [.added a true, .taken 1, .added b true,
      .removed "first" true, .added b false] ∧ (s.listAt 1).members = [a] :=
  ⟨rfl, rfl, rfl⟩

end SharedListeners

end ReviewStream
