import Mathlib.Tactic.Lemma
import Mathlib.Tactic.SplitIfs
import ReviewStream.Config.Saving
import ReviewStream.Proofs.Config.Document
import ReviewStream.Proofs.Config.Record
import ReviewStream.Proofs.Text.Utf8

/-!
# Settings that are saved are loaded again

Settings that break a rule or cannot be written are not saved, and nothing is done to the file.  All
others are loaded from the file to which they were saved: everything is as it was but the
passphrase, which is not part of the file, and leap seconds where no clock shows them.

* `HeldConfig.document_eq_ok_iff`: which settings have a document.
* `HeldConfig.document_of_texts`: where names of files are texts, the document is that of
  `Config.toFile?`.
* `Config.ofFile?_write`: settings are loaded from their document.
* **`HeldConfig.ofFile?_save`**: saving and loading are inverse.
-/

namespace ReviewStream

/-- Settings are the same, the entries of servers being listed in any order. -/
structure Config.SameAs (c d : Config) : Prop where
  connection : c.connection = d.connection
  dispatch : c.dispatch = { d.dispatch with ignoreEmail := c.dispatch.ignoreEmail }
  ignoreEmail : c.dispatch.ignoreEmail.Perm d.dispatch.ignoreEmail
  whitelist : c.whitelist = d.whitelist

/-! ## Loading -/

/-- The rules do not look at the times of windows. -/
lemma Config.check?_carried (c : Config) : c.carried.check? = c.check? := by
  have hconnection : c.carried.connection.check? = c.connection.check? := by
    simp only [Config.carried, ConnectionConfig.check?, ne_eq, List.map_eq_nil_iff]
  rw [Config.check?, hconnection]
  rfl

/-- Settings are loaded from their document. -/
lemma Config.ofFile?_write {c : Config} (path : String) (hwords : ∀ n ∈ c.words, Toml.Fits n)
    (hcheck : c.check? = none) (hrange : ∀ w ∈ c.connection.watchdogWindows, w.InRange)
    (hdistinct : (c.dispatch.ignoreEmail.map Prod.fst).Nodup) :
    ∃ d, Config.ofFile? path (.octets (Text.encode c.toToml.write.toList)) = .ok d
      ∧ d.SameAs c.withoutPassphrase.carried := by
  have honce : (inOrder c.dispatch.ignoreEmail).Perm c.dispatch.ignoreEmail :=
    inOrder_perm hdistinct
  have htwice : (inOrder (inOrder c.dispatch.ignoreEmail)).Perm c.dispatch.ignoreEmail :=
    (inOrder_perm ((honce.map Prod.fst).nodup_iff.mpr hdistinct)).trans honce
  have hroot : Toml.read? c.toToml.write = some c.toToml := Config.read?_write hwords hdistinct
  let d : Config :=
    { c.withoutPassphrase.carried with
      dispatch := { c.dispatch with ignoreEmail := inOrder (inOrder c.dispatch.ignoreEmail) } }
  have hshape : Config.shape c.toToml.toJson = .ok d := Config.shape_toToml hrange
  have hrules : d.check? = none := (Config.check?_carried c.withoutPassphrase).trans hcheck
  refine ⟨d, ?_, ⟨rfl, rfl, htwice, rfl⟩⟩
  simp only [Config.ofFile?, Text.decode?_encode, String.ofList_toList, hroot, Option.map_some,
    hshape, hrules]

/-- Settings in which something was carried are not the same as before. -/
lemma Config.SameAs.sameAs_iff {c d : Config} (h : d.SameAs c.carried)
    (hrange : ∀ w ∈ c.connection.watchdogWindows, w.InRange) :
    d.SameAs c ↔ ∀ w ∈ c.connection.watchdogWindows, w.IsProper := by
  rw [← Config.carried_eq_self_iff hrange]
  constructor
  · intro hsame
    have hconnection : c.carried.connection = c.connection :=
      h.connection.symm.trans hsame.connection
    exact congrArg (fun connection => { c with connection }) hconnection
  · intro heq
    rwa [heq] at h

/-! ## Documents -/

lemma passWords_append (front back : List UInt64) :
    passWords (front ++ back) = (do passWords front; passWords back) := by
  rw [passWords, List.all_append, passWords, passWords]
  cases front.all fun n => (n.toNat : Int) ≤ Int64.maxValue.toInt <;> rfl

/-- The executable document, in the terms of what a program holds. -/
lemma Config.mapError_toFile? (c : Config) : c.toFile?.mapError .unsaved =
    match c.check? with
    | some e => .error (.unsaved (.config e))
    | none => (passWords c.words).map fun _ => c.toToml.write := by
  rw [Config.toFile?, passWords]
  cases c.check? with
  | some e => rfl
  | none => cases c.words.all fun n => (n.toNat : Int) ≤ Int64.maxValue.toInt <;> rfl

lemma writtenName_eq_ok_iff {name : Option FileName} {o : Option String} :
    writtenName name = .ok o ↔ name.mapM FileName.text? = some o := by
  rcases name with _ | ⟨s⟩ | ⟨bs, h⟩
  · simp [writtenName]
  · simp [writtenName, FileName.text?]
  · simp [writtenName, FileName.text?]

namespace HeldConfig

variable {s : HeldConfig} {c : Config} {text : String}

lemma texts?_eq_some_iff : s.texts? = some c
    ↔ ∃ key location, s.privateKeyFile.mapM FileName.text? = some key
      ∧ s.location.mapM FileName.text? = some location ∧ s.named key location = c := by
  simp only [texts?, bind, Option.bind_eq_some_iff, pure, Option.some.injEq]
  grind

/-- Where names of files are texts, the document is the one that is written for these texts. -/
lemma document_of_texts (h : s.texts? = some c) : s.document = c.toFile?.mapError .unsaved := by
  obtain ⟨key, location, hkey, hlocation, rfl⟩ := texts?_eq_some_iff.mp h
  have hcheck : (s.named key location).check? = s.rest.check? := rfl
  have hwords : (s.named key location).words
      = s.rest.words.dropLast ++ [s.rest.whitelist.refreshMinutes] := rfl
  rw [document, Config.mapError_toFile?, hcheck, hwords, passWords_append,
    writtenName_eq_ok_iff.mpr hkey, writtenName_eq_ok_iff.mpr hlocation]
  cases s.rest.check? with
  | some e => rfl
  | none =>
      cases passWords s.rest.words.dropLast with
      | error e => rfl
      | ok _ => cases passWords [s.rest.whitelist.refreshMinutes] <;> rfl

/-- A document is written of settings whose names of files are texts. -/
lemma exists_texts_of_document (h : s.document = .ok text) : ∃ c, s.texts? = some c := by
  rw [document] at h
  cases hcheck : s.rest.check? with
  | some e => simp [hcheck] at h
  | none =>
      simp only [hcheck, bind, Except.bind] at h
      cases hkey : writtenName s.privateKeyFile with
      | error e => simp [hkey] at h
      | ok key =>
          cases hlocation : writtenName s.location with
          | error e =>
              simp only [hkey, hlocation] at h
              split at h <;> cases h
          | ok location =>
              exact ⟨_, texts?_eq_some_iff.mpr ⟨key, location, writtenName_eq_ok_iff.mp hkey,
                writtenName_eq_ok_iff.mp hlocation, rfl⟩⟩

/-- Settings have a document if they break no rule and can be written. -/
lemma document_eq_ok_iff : s.document = .ok text
    ↔ s.rest.check? = none ∧ s.IsWritable ∧ (s.texts?.map fun c => c.toToml.write) = some text := by
  cases htexts : s.texts? with
  | none =>
      refine ⟨fun h => ?_, fun h => nomatch h.2.2⟩
      obtain ⟨c, hc⟩ := exists_texts_of_document h
      cases htexts.symm.trans hc
  | some c =>
      have hcheck : c.check? = s.rest.check? := by
        obtain ⟨key, location, -, -, rfl⟩ := texts?_eq_some_iff.mp htexts
        rfl
      have hwords : c.words = s.rest.words := by
        obtain ⟨key, location, -, -, rfl⟩ := texts?_eq_some_iff.mp htexts
        rfl
      have hwritable : s.IsWritable ↔ ∀ n ∈ s.rest.words, (n.toNat : Int) ≤ Int64.maxValue.toInt :=
        ⟨fun h => h.words, fun h => ⟨by rw [htexts]; rfl, h⟩⟩
      rw [document_of_texts htexts, Config.toFile?, hcheck, hwords, hwritable, Option.map_some,
        Option.some.injEq]
      cases s.rest.check? with
      | some e => simp [Except.mapError]
      | none =>
          simp only [List.all_eq_true, decide_eq_true_eq]
          split_ifs with hfits
          · simp only [Except.mapError, Except.ok.injEq, true_and]
            exact ⟨fun h => ⟨hfits, h⟩, And.right⟩
          · simp [Except.mapError, hfits]

/-! ## Saving -/

lemma save_of_error {e : SaveFault} (h : s.document = .error e) (answer : WriteAnswer)
    (before : FileContent) : s.save answer before = (.error e, before) := by
  rw [save, h]

/-- The passphrase is no part of the document. -/
lemma document_withoutPassphrase (s : HeldConfig) : s.withoutPassphrase.document = s.document := rfl

/-- The names of files for the document, or the first thing that keeps it from being written. -/
def written? (s : HeldConfig) : Except SaveFault (Option String × Option String) :=
  match s.rest.check? with
  | some e => .error (.unsaved (.config e))
  | none => do
    let privateKeyFile ← writtenName s.privateKeyFile
    passWords s.rest.words.dropLast
    let location ← writtenName s.location
    passWords [s.rest.whitelist.refreshMinutes]
    pure (privateKeyFile, location)

lemma document_eq_map (s : HeldConfig) :
    s.document = s.written?.map fun names => (s.named names.1 names.2).toToml.write := by
  rw [document, written?]
  cases s.rest.check? with
  | some e => rfl
  | none =>
      cases writtenName s.privateKeyFile with
      | error e => rfl
      | ok key =>
          cases passWords s.rest.words.dropLast with
          | error e => rfl
          | ok _ =>
              cases writtenName s.location with
              | error e => rfl
              | ok location => cases passWords [s.rest.whitelist.refreshMinutes] <;> rfl

/-- Settings are the same, the entries of servers being listed in any order. -/
structure SameAs (s t : HeldConfig) : Prop where
  rest : s.rest.SameAs t.rest
  privateKeyFile : s.privateKeyFile = t.privateKeyFile
  location : s.location = t.location

/-- The entries of servers. -/
def entries (s : HeldConfig) : List (String × String) := s.rest.dispatch.ignoreEmail

/-- Documents of the same settings are the same but for the order of the entries' lines. -/
lemma SameAs.documents {t : HeldConfig} (h : t.SameAs s) :
    (∃ e, t.document = .error e ∧ s.document = .error e) ∨
    ∃ front back, t.document = .ok (String.ofList (front ++ entryLines t.entries ++ back)) ∧
      s.document = .ok (String.ofList (front ++ entryLines s.entries ++ back)) := by
  have hrest : t.rest = s.rest.withEntries t.entries := by
    obtain ⟨connection, dispatch, -, whitelist⟩ := h.rest
    rw [Config.withEntries, ← connection, ← whitelist]
    exact congrArg (Config.mk _ · _) dispatch
  have hwritten : t.written? = s.written? := by
    rw [written?, written?, hrest, h.privateKeyFile, h.location]
    rfl
  have hnamed (names : Option String × Option String) :
      t.named names.1 names.2 = (s.named names.1 names.2).withEntries t.entries := by
    rw [named, hrest]
    rfl
  rw [document_eq_map, document_eq_map, hwritten]
  cases s.written? with
  | error e => exact .inl ⟨e, rfl, rfl⟩
  | ok names =>
      obtain ⟨front, back, hwrite⟩ := (s.named names.1 names.2).exists_write_withEntries
      refine .inr ⟨front, back, ?_, ?_⟩
      · exact congrArg Except.ok ((congrArg (·.toToml.write) (hnamed names)).trans (hwrite _))
      · exact congrArg Except.ok (hwrite s.entries)

/-- **Saving and loading are inverse** but for leap seconds where no clock shows them.  Settings
that break a rule or cannot be written are not saved, and the file is as it was.  All others, if the
system writes the document, are loaded as they were, but for their passphrase and for what is
carried in the times of windows; so they are as they were exactly if a clock shows these times.
What is written, or found at the path, does not depend on the passphrase, and on the order of the
entries of servers in the order of their lines only. -/
theorem ofFile?_save (s : HeldConfig) (path : String) (answer : WriteAnswer)
    (before : FileContent) :
    (s.rest.check? ≠ none ∨ ¬ s.IsWritable →
      ∃ e, s.save answer before = (.error e, before)) ∧
    (s.rest.check? = none → s.IsWritable → answer = .written →
      ∃ after c d, s.save answer before = (.ok (), after) ∧ s.texts? = some c ∧
        Config.ofFile? path after = .ok d ∧ d.SameAs c.withoutPassphrase.carried ∧
        (d.SameAs c.withoutPassphrase ↔ ∀ w ∈ c.connection.watchdogWindows, w.IsProper)) ∧
    (∀ t : HeldConfig, t.withoutPassphrase = s.withoutPassphrase →
      t.save answer before = s.save answer before) ∧
    ∀ t : HeldConfig, t.withoutPassphrase.SameAs s.withoutPassphrase →
      (∃ e, t.document = .error e ∧ s.document = .error e) ∨
      ∃ front back, t.document = .ok (String.ofList (front ++ entryLines t.entries ++ back)) ∧
        s.document = .ok (String.ofList (front ++ entryLines s.entries ++ back)) := by
  refine ⟨fun h => ?_, fun hcheck hwritable hanswer => ?_, fun t ht => ?_, fun t ht => ?_⟩
  · cases hdocument : s.document with
    | error e => exact ⟨e, save_of_error hdocument answer before⟩
    | ok text =>
        obtain ⟨hcheck, hwritable, -⟩ := document_eq_ok_iff.mp hdocument
        rcases h with h | h
        · exact absurd hcheck h
        · exact absurd hwritable h
  · obtain ⟨c, hc⟩ := Option.isSome_iff_exists.mp hwritable.texts
    have hdocument : s.document = .ok c.toToml.write :=
      document_eq_ok_iff.mpr ⟨hcheck, hwritable, by rw [hc]; rfl⟩
    obtain ⟨key, location, -, -, rfl⟩ := texts?_eq_some_iff.mp hc
    obtain ⟨d, hd, hsame⟩ := Config.ofFile?_write (c := s.named key location) path hwritable.words
      hcheck s.inRange s.distinct
    refine ⟨_, _, d, ?_, hc, hd, hsame, hsame.sameAs_iff s.inRange⟩
    rw [save, hdocument, hanswer]
  · have hdocument : t.document = s.document := by
      rw [← document_withoutPassphrase t, ht, document_withoutPassphrase s]
    rw [save, save, hdocument]
  · exact ht.documents

/-- Settings with a passphrase, a leap second, weekdays that are not in the order of the week, and
entries of servers that are not in order, one of them with an empty name. -/
theorem ofFile?_save_leap_second :
    let leap : Window := ⟨⟨86399, 1500000000⟩, ⟨21600, 1⟩, [.sat, .mon]⟩
    let rest : Config :=
      { connection := { ConnectionConfig.ofTarget "" "review.example.com" "ci" with
          passphrase := some "secret", watchdogTimeoutSecs := 300, watchdogWindows := [leap] }
        dispatch := { DispatchConfig.standard with ignoreEmail := [("b", "@\"\n'''"), ("", "x")] }
        whitelist := ⟨none, 9223372036854775807⟩ }
    let s : HeldConfig := ⟨rest, some (.text "~/.ssh/id"), none, rfl, rfl,
      List.forall_mem_singleton.mpr ⟨⟨by decide, by decide⟩, ⟨by decide, by decide⟩⟩, by decide⟩
    ∃ after c d, s.save .written .absent = (.ok (), after) ∧ s.texts? = some c
        ∧ Config.ofFile? "config.toml" after = .ok d ∧ d.SameAs c.withoutPassphrase := by
  intro leap rest s
  have hwords : (s.rest.words.all fun n => (n.toNat : Int) ≤ Int64.maxValue.toInt) = true := by
    decide
  have hwritable : s.IsWritable :=
    ⟨rfl, fun n hn => of_decide_eq_true (List.all_eq_true.mp hwords n hn)⟩
  have hproper : leap.IsProper :=
    ⟨⟨⟨by decide, by decide⟩, by decide⟩, ⟨⟨by decide, by decide⟩, by decide⟩⟩
  obtain ⟨after, c, d, hsave, hc, hd, -, hsame⟩ :=
    (ofFile?_save s "config.toml" .written .absent).2.1 (by decide) hwritable rfl
  refine ⟨after, c, d, hsave, hc, hd, hsame.mpr ?_⟩
  cases hc
  exact List.forall_mem_singleton.mpr hproper

/-- What is not kept: a leap second at twelve o'clock, which is read as the second after it, so that
the window that begins with it is entered later; and the document, where nothing but the order of
entries is another one. -/
theorem leap_second_and_order_not_kept :
    let noon : Window := ⟨⟨43200, 1500000000⟩, ⟨43202, 0⟩, []⟩
    let moment : LocalTime := ⟨19728, ⟨43201, 0⟩⟩
    let rest (entries : List (String × String)) (passphrase : Option String) : Config :=
      { connection := { ConnectionConfig.ofTarget "review" "review.example.com" "ci" with
          passphrase, watchdogTimeoutSecs := 300, watchdogWindows := [noon] }
        dispatch := { DispatchConfig.standard with ignoreEmail := entries }
        whitelist := .standard }
    let s : HeldConfig := ⟨rest [("a", "x"), ("b", "y")] none, none, none, rfl, rfl,
      List.forall_mem_singleton.mpr ⟨⟨by decide, by decide⟩, ⟨by decide, by decide⟩⟩, by decide⟩
    let t : HeldConfig := ⟨rest [("b", "y"), ("a", "x")] (some "secret"), none, none, rfl, rfl,
      s.inRange, by decide⟩
    t.withoutPassphrase.SameAs s.withoutPassphrase ∧
      (∃ after c d, s.save .written .absent = (.ok (), after) ∧ s.texts? = some c ∧
        Config.ofFile? "config.toml" after = .ok d ∧ ¬ d.SameAs c.withoutPassphrase ∧
        isExempt c.connection.watchdogWindows moment = true ∧
        isExempt d.connection.watchdogWindows moment = false) ∧
      t.save .written .absent ≠ s.save .written .absent := by
  intro noon moment rest s t
  have hcheck : s.rest.check? = none := by decide
  have hwords : (s.rest.words.all fun n => (n.toNat : Int) ≤ Int64.maxValue.toInt) = true := by
    decide
  have hwritable : s.IsWritable :=
    ⟨rfl, fun n hn => of_decide_eq_true (List.all_eq_true.mp hwords n hn)⟩
  have hdocument : s.document = .ok s.rest.toToml.write :=
    document_eq_ok_iff.mpr ⟨hcheck, hwritable, rfl⟩
  have hsame : t.withoutPassphrase.SameAs s.withoutPassphrase :=
    ⟨⟨rfl, rfl, List.Perm.swap _ _ _, rfl⟩, rfl, rfl⟩
  refine ⟨hsame, ?_, fun heq => ?_⟩
  · obtain ⟨d, hd, hloaded⟩ :=
      Config.ofFile?_write "config.toml" hwritable.words hcheck s.inRange s.distinct
    have hbefore : isExempt s.rest.connection.watchdogWindows moment = true := by decide
    have hafter : isExempt d.connection.watchdogWindows moment = false := by
      rw [hloaded.connection]
      decide
    refine ⟨_, s.rest, d, by rw [save, hdocument], rfl, hd, fun hkept => ?_, hbefore, hafter⟩
    rw [hkept.connection] at hafter
    exact Bool.noConfusion (hbefore.symm.trans hafter)
  · obtain ⟨e, -, herror⟩ | ⟨front, back, ht, hs⟩ := hsame.documents
    · rw [document_withoutPassphrase, hdocument] at herror
      cases herror
    · rw [document_withoutPassphrase] at ht hs
      rw [save, save, ht, hs] at heq
      have htexts := congrArg Text.decode? (FileContent.octets.inj (Prod.mk.inj heq).2)
      rw [Text.decode?_encode, Text.decode?_encode, String.toList_ofList,
        String.toList_ofList] at htexts
      have hlines := List.append_cancel_left (List.append_cancel_right (Option.some.inj htexts))
      exact absurd hlines (by decide +kernel)

end HeldConfig

end ReviewStream
