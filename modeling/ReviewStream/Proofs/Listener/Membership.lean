import Mathlib.Data.List.Induction
import Mathlib.Tactic.Lemma
import Mathlib.Tactic.SplitIfs
import ReviewStream.Listener.Round

/-!
# Who is registered, and in which order

A registry goes through a history of changes: listeners are added, taken out one by one or all at
once, and accounts are ignored.  Whether a listener is registered, and since when, is told by what
the history says about that listener alone.

* `ListenerSet.members_remove`: who is left when a member is taken out.
* `Registry.since`: the number of the change since which a listener has been registered.
* `Registry.Lists`: members that are the registered listeners, in the order of registration.
* `Registry.Lists.change`: what one change does to them.
* **`Registry.lists_after`**: the members of a registry are those, after every history.
-/

namespace ReviewStream

namespace ListenerSet

variable {α : Type} {s : ListenerSet α} {id : String}

lemma contains_iff : s.contains id = true ↔ ∃ l ∈ s.members, l.id = id := by
  rw [contains, List.any_eq_true]
  simp only [beq_iff_eq]

/-- Among listeners no two of which are the same, the first one of an identity is the only one. -/
lemma eraseP_eq_filter {ls : List (Instance α)} (h : ls.Pairwise fun l later => l.id ≠ later.id) :
    ls.eraseP (·.id == id) = ls.filter (·.id != id) := by
  induction ls with
  | nil => rfl
  | cons l ls ih =>
      obtain ⟨hl, hls⟩ := List.pairwise_cons.mp h
      by_cases hid : l.id = id
      · subst hid
        have hrest : ls.filter (·.id != l.id) = ls :=
          List.filter_eq_self.mpr fun x hx => by simpa using (hl x hx).symm
        simp [hrest]
      · simp [hid, ih hls]

/-- Whoever is taken out, all others are left. -/
lemma members_remove (h : s.members.Pairwise fun l later => l.id ≠ later.id) (id : String) :
    (s.remove id).2.members = s.members.filter (·.id != id) := by
  rw [remove]
  split_ifs with hid
  · exact eraseP_eq_filter h
  · refine (List.filter_eq_self.mpr fun l hl => ?_).symm
    have hne : l.id ≠ id := fun heq => hid (contains_iff.mpr ⟨l, hl, heq⟩)
    simpa using hne

end ListenerSet

namespace Registry

variable {population : Population} {history : List Change} {r : Registry} {id : String}

/-! ## What a history says about one listener -/

/-- What the change with a number makes of the moment since which a listener has been registered.
Whoever is registered already is not registered anew. -/
def Change.move (id : String) (since? : Option Nat) (n : Nat) : Change → Option Nat
  | .registration (.add other) => if other = id then since?.or (some n) else since?
  | .registration (.remove other) => if other = id then none else since?
  | .registration .removeAll => none
  | .ignoredEmail .. => since?

/-- The number of the change since which a listener has been registered; none if it is not
registered. -/
def since (history : List Change) (id : String) : Option Nat :=
  history.zipIdx.foldl (fun since? (c, n) => c.move id since? n) none

/-- Whether a listener has been registered for longer than another one. -/
def Before (history : List Change) (id later : String) : Prop :=
  ∃ m n, since history id = some m ∧ since history later = some n ∧ m < n

lemma since_append (history : List Change) (c : Change) (id : String) :
    since (history ++ [c]) id = c.move id (since history id) history.length := by
  rw [since, List.zipIdx_append, List.foldl_append]
  simp [since]

lemma Change.eq_of_move {since? : Option Nat} {c : Change} {m n : Nat}
    (h : c.move id since? n = some m) : since? = some m ∨ m = n := by
  cases c with
  | ignoredEmail server address => exact .inl h
  | registration c =>
      cases c with
      | removeAll => cases h
      | remove other =>
          rw [move] at h
          split_ifs at h
          exact .inl h
      | add other =>
          rw [move] at h
          split_ifs at h
          · cases since? with
            | some k => exact .inl h
            | none => exact .inr (Option.some.inj h).symm
          · exact .inl h

lemma since_lt_length {n : Nat} (h : since history id = some n) : n < history.length := by
  induction history using List.reverseRecOn with
  | nil => cases h
  | append_singleton history c ih =>
      rw [List.length_append, List.length_singleton]
      rw [since_append] at h
      rcases Change.eq_of_move h with hsince | rfl
      · exact Nat.lt_succ_of_lt (ih hsince)
      · exact Nat.lt_succ_self _

/-- Nobody has been registered for longer than itself. -/
lemma Before.ne {later : String} (h : Before history id later) : id ≠ later := by
  rintro rfl
  obtain ⟨m, n, hm, hn, hlt⟩ := h
  rw [hm] at hn
  cases hn
  exact Nat.lt_irrefl _ hlt

lemma Before.asymm {later : String} (h : Before history id later) : ¬ Before history later id := by
  rintro ⟨n', m', hn', hm', hlt'⟩
  obtain ⟨m, n, hm, hn, hlt⟩ := h
  rw [hm] at hm'
  rw [hn] at hn'
  cases hm'
  cases hn'
  exact Nat.lt_asymm hlt hlt'

/-! ## The members -/

/-- Members that are the registered listeners, in the order of registration. -/
structure Lists (population : Population) (history : List Change)
    (members : List (Instance Listener)) : Prop where
  inOrder : members.Pairwise fun l later => Before history l.id later.id
  mem_iff : ∀ id, (∃ l ∈ members, l.id = id) ↔ (since history id).isSome
  value_eq : ∀ l ∈ members, l.value = population l.id

namespace Lists

variable {members : List (Instance Listener)} {next : List Change}

/-- Histories that say the same about every listener. -/
lemma congr (h : Lists population history members)
    (hsame : ∀ id, since next id = since history id) : Lists population next members where
  inOrder := h.inOrder.imp fun hbefore => by
    rwa [Before, hsame, hsame]
  mem_iff id := by rw [hsame, h.mem_iff]
  value_eq := h.value_eq

lemma contains_iff (h : Lists population history r.listeners.members) :
    r.listeners.contains id = true ↔ (since history id).isSome := by
  rw [← h.mem_iff, ListenerSet.contains_iff]

lemma add_of_contains (h : Lists population history r.listeners.members)
    (hid : r.listeners.contains id = true) :
    Lists population (history ++ [.registration (.add id)])
      (r.apply population (.add id)).listeners.members := by
  have hmembers : (r.apply population (.add id)).listeners = r.listeners := by
    simp [apply, Registry.add, ListenerSet.add, hid]
  rw [hmembers]
  refine h.congr fun other => ?_
  rw [since_append, Change.move]
  split_ifs with hother
  · obtain ⟨n, hn⟩ := Option.isSome_iff_exists.mp (h.contains_iff.mp hid)
    rw [← hother, hn]
    rfl
  · rfl

lemma add_of_not_contains (h : Lists population history r.listeners.members)
    (hid : ¬ r.listeners.contains id = true) :
    Lists population (history ++ [.registration (.add id)])
      (r.apply population (.add id)).listeners.members := by
  have hmembers : (r.apply population (.add id)).listeners.members
      = r.listeners.members ++ [⟨id, population id⟩] := by
    simp [apply, Registry.add, ListenerSet.add, hid]
  have hnone : since history id = none := by
    simpa [h.contains_iff] using hid
  have hnew : since (history ++ [.registration (.add id)]) id = some history.length := by
    rw [since_append, Change.move, if_pos rfl, hnone]
    rfl
  have hothers (other : String) (hother : other ≠ id) :
      since (history ++ [.registration (.add id)]) other = since history other := by
    rw [since_append, Change.move, if_neg hother.symm]
  have hne (l) (hl : l ∈ r.listeners.members) : l.id ≠ id := fun heq =>
    hid (h.contains_iff.mpr ((h.mem_iff id).mp ⟨l, hl, heq⟩))
  rw [hmembers]
  constructor
  · refine List.pairwise_append.mpr ⟨?_, List.pairwise_singleton _ _, ?_⟩
    · refine h.inOrder.imp_of_mem fun hl hlater hbefore => ?_
      rwa [Before, hothers _ (hne _ hl), hothers _ (hne _ hlater)]
    · -- The new member comes last, since all others were added by an earlier change.
      intro l hl x hx
      cases List.mem_singleton.mp hx
      obtain ⟨m, hm⟩ := Option.isSome_iff_exists.mp ((h.mem_iff l.id).mp ⟨l, hl, rfl⟩)
      exact ⟨m, history.length, (hothers _ (hne l hl)).trans hm, hnew, since_lt_length hm⟩
  · intro other
    by_cases hother : other = id
    · rw [hother, hnew]
      simp
    · rw [hothers _ hother, ← h.mem_iff]
      simp [Ne.symm hother]
  · intro l hl
    rcases List.mem_append.mp hl with hl | hl
    · exact h.value_eq l hl
    · cases List.mem_singleton.mp hl
      rfl

lemma remove (h : Lists population history r.listeners.members) (id : String) :
    Lists population (history ++ [.registration (.remove id)])
      (r.apply population (.remove id)).listeners.members := by
  have hgone : since (history ++ [.registration (.remove id)]) id = none := by
    rw [since_append, Change.move, if_pos rfl]
  have hothers (other : String) (hother : other ≠ id) :
      since (history ++ [.registration (.remove id)]) other = since history other := by
    rw [since_append, Change.move, if_neg hother.symm]
  have hmembers : (r.apply population (.remove id)).listeners.members
      = r.listeners.members.filter (·.id != id) :=
    ListenerSet.members_remove (h.inOrder.imp Before.ne) id
  rw [hmembers]
  constructor
  · refine (h.inOrder.filter _).imp_of_mem fun hl hlater hbefore => ?_
    have hne := bne_iff_ne.mp (List.mem_filter.mp hl).2
    have hne' := bne_iff_ne.mp (List.mem_filter.mp hlater).2
    rwa [Before, hothers _ hne, hothers _ hne']
  · intro other
    by_cases hother : other = id
    · rw [hother, hgone]
      simp
    · rw [hothers _ hother, ← h.mem_iff]
      constructor
      · rintro ⟨l, hl, rfl⟩
        exact ⟨l, (List.mem_filter.mp hl).1, rfl⟩
      · rintro ⟨l, hl, rfl⟩
        exact ⟨l, List.mem_filter.mpr ⟨hl, bne_iff_ne.mpr hother⟩, rfl⟩
  · exact fun l hl => h.value_eq l (List.mem_filter.mp hl).1

/-- What one change does to the registered listeners. -/
lemma change (h : Lists population history r.listeners.members) (c : Change) :
    Lists population (history ++ [c]) (r.change population c).listeners.members := by
  cases c with
  | ignoredEmail server address => exact h.congr fun id => since_append ..
  | registration c =>
      cases c with
      | add id =>
          by_cases hid : r.listeners.contains id = true
          · exact h.add_of_contains hid
          · exact h.add_of_not_contains hid
      | remove id => exact h.remove id
      | removeAll =>
          have hnone (id : String) : since (history ++ [.registration .removeAll]) id = none :=
            since_append ..
          exact ⟨.nil, fun id => by simp [hnone, Registry.change, apply, Registry.removeAll,
            ListenerSet.removeAll, ListenerSet.empty], nofun⟩

end Lists

lemma after_append (population : Population) (history : List Change) (c : Change) :
    after population (history ++ [c]) = (after population history).change population c := by
  rw [after, List.foldl_append]
  rfl

/-- Which listeners there are makes no difference to whose comments are ignored. -/
lemma isSuppressed_after (population population' : Population) (history : List Change)
    (e : Event) :
    (after population' history).isSuppressed e = (after population history).isSuppressed e := by
  have hignored : (after population' history).ignoredEmails
      = (after population history).ignoredEmails := by
    induction history using List.reverseRecOn with
    | nil => rfl
    | append_singleton history c ih =>
        rw [after_append, after_append]
        cases c with
        | ignoredEmail server address =>
            simp only [Registry.change, setIgnoredEmail, ih]
        | registration c => cases c <;> exact ih
  have hignored? : (after population' history).ignoredEmail?
      = (after population history).ignoredEmail? := by
    funext server
    rw [ignoredEmail?, ignoredEmail?, hignored]
  simp only [isSuppressed, hignored?]

/-- **The members of a registry are the registered listeners, in the order of registration.** -/
theorem lists_after (population : Population) (history : List Change) :
    Lists population history (after population history).listeners.members := by
  induction history using List.reverseRecOn with
  | nil => exact ⟨.nil, fun id => by simp [since, after, empty, ListenerSet.empty], nofun⟩
  | append_singleton history c ih =>
      rw [after_append]
      exact ih.change c

end Registry

end ReviewStream
