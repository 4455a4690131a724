import Mathlib.Data.List.Induction
import Mathlib.Data.List.Nodup
import Mathlib.Tactic.Lemma
import Mathlib.Tactic.SplitIfs
import ReviewStream.Dispatch.Basic
import ReviewStream.Listener.Round

/-!
# Whose comments are ignored

A server has an ignored address if the last setting that is about it gives it one.  The settings of
a dispatcher are made first, in whatever order its map of servers lists them; callers may make more
of them at any time, between other changes of the registry.

* `Registry.LastSets`: what the last setting about a server is.
* `Registry.ignoredEmail?_foldl_eq_some_iff`: the ignored address of a server is what the last
  setting about it gives.
* **`Registry.isSuppressed_iff`**: which events are suppressed.
-/

namespace ReviewStream

namespace Registry

variable {population : Population} {settings order : List (String × String)}
  {server address : String} {r : Registry}

/-! ## Settings -/

/-- The last of some settings that is about a server gives it an address. -/
def LastSets (settings : List (String × String)) (server address : String) : Prop :=
  ∃ before after, settings = before ++ (server, address) :: after ∧ ∀ s ∈ after, s.1 ≠ server

/-- The ignored address that a change sets. -/
def Change.setting? : Change → Option (String × String)
  | .registration _ => none
  | .ignoredEmail server address => some (server, address)

lemma not_lastSets_nil : ¬ LastSets [] server address := by
  rintro ⟨before, after, h, -⟩
  exact List.append_ne_nil_of_right_ne_nil before (List.cons_ne_nil _ _) h.symm

/-- A setting that is about the server counts; one that is not leaves what counted before. -/
lemma lastSets_concat {last : String × String} : LastSets (settings ++ [last]) server address ↔
    last = (server, address) ∨ last.1 ≠ server ∧ LastSets settings server address := by
  constructor
  · rintro ⟨before, after, heq, hafter⟩
    rcases List.eq_nil_or_concat after with rfl | ⟨after, final, rfl⟩
    · exact .inl (List.singleton_inj.mp (List.append_inj_right' heq rfl))
    · rw [List.concat_eq_append, ← List.cons_append, ← List.append_assoc] at heq
      obtain rfl := List.singleton_inj.mp (List.append_inj_right' heq rfl)
      refine .inr ⟨hafter last (by simp), before, after, List.append_inj_left' heq rfl, ?_⟩
      exact fun s hs => hafter s (by simp [hs])
  · rintro (rfl | ⟨hother, before, after, rfl, hafter⟩)
    · exact ⟨settings, [], rfl, nofun⟩
    · refine ⟨before, after ++ [last], by simp, fun s hs => ?_⟩
      rcases List.mem_append.mp hs with hs | hs
      · exact hafter s hs
      · rwa [List.mem_singleton.mp hs]

/-- Where no server is listed twice, the last setting about it is the only one. -/
lemma lastSets_iff_mem (hservers : (settings.map Prod.fst).Nodup) :
    LastSets settings server address ↔ (server, address) ∈ settings := by
  constructor
  · rintro ⟨before, after, rfl, -⟩
    simp
  · intro hmem
    obtain ⟨before, after, rfl⟩ := List.append_of_mem hmem
    refine ⟨before, after, rfl, fun s hs => ?_⟩
    rw [List.map_append, List.map_cons] at hservers
    have hafter := (List.nodup_cons.mp hservers.of_append_right).1
    have hmem : s.1 ∈ after.map Prod.fst := List.mem_map_of_mem hs
    exact fun heq => hafter (heq ▸ hmem)

/-- What counts is what comes after, and before that whatever says the same about the server. -/
lemma lastSets_append_congr (h : LastSets settings server address ↔ LastSets order server address)
    (more : List (String × String)) :
    LastSets (settings ++ more) server address ↔ LastSets (order ++ more) server address := by
  induction more using List.reverseRecOn with
  | nil => simpa using h
  | append_singleton more last ih =>
      rw [← List.append_assoc, ← List.append_assoc, lastSets_concat, lastSets_concat, ih]

/-- The order in which a map lists its servers makes no difference. -/
lemma lastSets_append_of_perm (hservers : (settings.map Prod.fst).Nodup)
    (horder : order.Perm settings) (more : List (String × String)) :
    LastSets (order ++ more) server address ↔ LastSets (settings ++ more) server address := by
  refine lastSets_append_congr ?_ more
  rw [lastSets_iff_mem hservers, lastSets_iff_mem ((horder.map _).nodup_iff.mpr hservers),
    horder.mem_iff]

/-! ## The ignored address of a server -/

lemma ignoredEmail?_setIgnoredEmail (r : Registry) (other given server : String) :
    (r.setIgnoredEmail other given).ignoredEmail? server =
      if other = server then (if given = "" then none else some given)
      else r.ignoredEmail? server := by
  have hothers : (r.ignoredEmails.filter (·.1 != other)).lookup server =
      if other = server then none else r.ignoredEmails.lookup server := by
    induction r.ignoredEmails with
    | nil => simp
    | cons s rest ih =>
        by_cases hs : s.1 = other
        · subst hs
          by_cases hserver : s.1 = server <;> grind
        · by_cases hserver : s.1 = server <;> grind
  rw [ignoredEmail?, ignoredEmail?, setIgnoredEmail]
  by_cases hgiven : given = ""
  · simp [hgiven, hothers]
  · by_cases hother : other = server
    · simp [hgiven, hother]
    · simp [hgiven, hothers, hother, List.lookup_cons, beq_false_of_ne (Ne.symm hother)]

/-- **The ignored address of a server is what the last setting about it gives, if that is not
empty.** -/
theorem ignoredEmail?_foldl_eq_some_iff (settings : List (String × String)) :
    (settings.foldl (fun r s => r.setIgnoredEmail s.1 s.2) empty).ignoredEmail? server
        = some address ↔
      address ≠ "" ∧ LastSets settings server address := by
  induction settings using List.reverseRecOn with
  | nil => simp [empty, ignoredEmail?, not_lastSets_nil]
  | append_singleton settings last ih =>
      obtain ⟨other, given⟩ := last
      rw [List.foldl_append, List.foldl_cons, List.foldl_nil, ignoredEmail?_setIgnoredEmail,
        lastSets_concat]
      split_ifs with hother hgiven
      · subst hother hgiven
        simp
      · subst hother
        simpa using fun heq => heq ▸ hgiven
      · simp [ih, hother]

/-! ## Suppressed events -/

/-- Of all changes only settings count. -/
lemma ignoredEmails_foldl_change (r : Registry) (history : List Change) :
    (history.foldl (change population) r).ignoredEmails =
      ((history.filterMap Change.setting?).foldl (fun r s => r.setIgnoredEmail s.1 s.2)
        r).ignoredEmails := by
  have hcongr (settings : List (String × String)) {r r' : Registry}
      (h : r.ignoredEmails = r'.ignoredEmails) :
      (settings.foldl (fun r s => r.setIgnoredEmail s.1 s.2) r).ignoredEmails =
        (settings.foldl (fun r s => r.setIgnoredEmail s.1 s.2) r').ignoredEmails := by
    induction settings generalizing r r' with
    | nil => exact h
    | cons s rest ih => exact ih (by simp only [setIgnoredEmail, h])
  induction history generalizing r with
  | nil => rfl
  | cons c rest ih =>
      rw [List.foldl_cons, ih]
      cases c with
      | ignoredEmail server address => rfl
      | registration c => exact hcongr _ (by cases c <;> rfl)

lemma isSuffixOf_toList_iff {ending s : String} :
    ending.toList.isSuffixOf s.toList = true ↔ ∃ front, s = front ++ ending := by
  rw [List.isSuffixOf_iff_suffix]
  constructor
  · rintro ⟨front, hfront⟩
    refine ⟨String.ofList front, String.toList_inj.mp ?_⟩
    rw [String.toList_append, String.toList_ofList, hfront]
  · rintro ⟨front, rfl⟩
    exact ⟨front.toList, (String.toList_append ..).symm⟩

/-- What a registry looks at. -/
lemma isSuppressed_eq_true_iff (r : Registry) (e : Event) : r.isSuppressed e = true ↔
    ∃ comment author email provider address front,
      e.kind = .commentAdded comment ∧ comment.author = some author ∧
        author.email = some email ∧ email ≠ "" ∧ e.provider = some provider ∧
        r.ignoredEmail? provider.name = some address ∧ address ≠ "" ∧
        email = front ++ address := by
  constructor
  · intro h
    rw [isSuppressed] at h
    split at h
    next comment hkind =>
      split at h
      next email address hemail haddress =>
        obtain ⟨author, hauthor, hemail⟩ := Option.bind_eq_some_iff.mp hemail
        obtain ⟨name, hname, haddress⟩ := Option.bind_eq_some_iff.mp haddress
        obtain ⟨provider, hprovider, rfl⟩ := Option.map_eq_some_iff.mp hname
        rw [Bool.and_eq_true, Bool.and_eq_true, isSuffixOf_toList_iff] at h
        obtain ⟨⟨hemailNe, haddressNe⟩, front, hfront⟩ := h
        exact ⟨comment, author, email, provider, address, front, hkind, hauthor, hemail,
          by simpa using hemailNe, hprovider, haddress, by simpa using haddressNe, hfront⟩
      next => cases h
    next => cases h
  · rintro ⟨comment, author, email, provider, address, front, hkind, hauthor, hemail, hemailNe,
      hprovider, haddress, haddressNe, hfront⟩
    have hends : address.toList.isSuffixOf email.toList = true :=
      isSuffixOf_toList_iff.mpr ⟨front, hfront⟩
    simp only [isSuppressed, hkind, hauthor, hemail, Event.providerName?, hprovider, haddress,
      Option.map_some, Option.bind_some, hends]
    simp [hemailNe, haddressNe]

/-- **An event is suppressed exactly when it is a comment, its author has an address, it comes from
a server, the last setting about that server gives an address, and the author's address ends with
it.**  The settings of the dispatcher come before all others, in any order. -/
theorem isSuppressed_iff (population : Population) (c : DispatchConfig) (w : Whitelist)
    (decoder : Decoder) (hservers : (c.ignoreEmail.map Prod.fst).Nodup)
    (horder : order.Perm c.ignoreEmail) (history : List Change) (e : Event) :
    (history.foldl (change population)
        (Dispatcher.ofConfig { c with ignoreEmail := order } w decoder).registry).isSuppressed e
        = true ↔
      ∃ comment author email provider address front,
        e.kind = .commentAdded comment ∧ comment.author = some author ∧
          author.email = some email ∧ email ≠ "" ∧ e.provider = some provider ∧
          LastSets (c.ignoreEmail ++ history.filterMap Change.setting?) provider.name address ∧
          address ≠ "" ∧ email = front ++ address := by
  have hignored (server address : String) :
      (history.foldl (change population)
        (Dispatcher.ofConfig { c with ignoreEmail := order } w decoder).registry).ignoredEmail?
          server = some address ↔
        address ≠ "" ∧
          LastSets (c.ignoreEmail ++ history.filterMap Change.setting?) server address := by
    rw [ignoredEmail?, ignoredEmails_foldl_change, ← ignoredEmail?, Dispatcher.ofConfig,
      ← List.foldl_append, ignoredEmail?_foldl_eq_some_iff, lastSets_append_of_perm hservers horder]
  rw [isSuppressed_eq_true_iff]
  simp only [hignored]
  grind

/-- Two servers have settings, one of them to the effect that nobody is ignored; later the other one
is cleared and then set anew while a listener is added.  A comment by an account with the new ending
is suppressed; one that has only the old ending is not. -/
theorem isSuppressed_iff_of_cleared_setting :
    let c : DispatchConfig :=
      { DispatchConfig.standard with
        ignoreEmail := [("mirror", ""), ("review", "@ci.example.com")] }
    let order := [("review", "@ci.example.com"), ("mirror", "")]
    let history : List Change :=
      [.ignoredEmail "review" "", .registration (.add "log"),
        .ignoredEmail "review" "@bots.example.com", .ignoredEmail "mirror" "@ci.example.com"]
    let r := history.foldl (change fun _ => ⟨fun _ => false, fun _ _ => ⟨.done, []⟩⟩)
      (Dispatcher.ofConfig { c with ignoreEmail := order } .empty .json).registry
    let comment (email : String) : Event :=
      { provider := some (.ofSession "review" "review.example.com" 29418 "" "3.9.1")
        createdOn := none
        kind := .commentAdded
          { change := ⟨"tools", "", "", 0, "", none, none, none, none⟩, patchSet := none,
            author := some ⟨none, some email, none⟩, comment := "", approvals := [] } }
    (c.ignoreEmail.map Prod.fst).Nodup ∧ order.Perm c.ignoreEmail ∧
      r.isSuppressed (comment "lint@bots.example.com") = true ∧
      r.isSuppressed (comment "lint@ci.example.com") = false := by
  intro c order history r comment
  have hservers : (c.ignoreEmail.map Prod.fst).Nodup := by decide
  have horder : order.Perm c.ignoreEmail := .swap ..
  have hiff := isSuppressed_iff (fun _ => ⟨fun _ => false, fun _ _ => ⟨.done, []⟩⟩) c .empty .json
    hservers horder history
  refine ⟨hservers, horder, (hiff _).mpr ?_, rfl⟩
  refine ⟨_, _, _, _, "@bots.example.com", "lint", rfl, rfl, rfl, by decide, rfl, ?_, by decide,
    rfl⟩
  exact ⟨c.ignoreEmail ++ [("review", "")], [("mirror", "@ci.example.com")], rfl, by decide⟩

end Registry

end ReviewStream
