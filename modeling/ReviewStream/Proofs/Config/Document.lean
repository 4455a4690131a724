import Mathlib.Tactic.Lemma
import ReviewStream.Config.File
import ReviewStream.Proofs.Toml.Documents

/-!
# The document of the settings is read again

Of the three tables of settings, the connection's ends with its windows, and the dispatcher's with
the entries of servers; everything else in them is a text, a number or a list of texts.

* `ConnectionConfig.isAdded_toToml`, `DispatchConfig.isAdded_toToml`,
  `WhitelistConfig.isAdded_toToml`: each table's sections put it into the root.
* **`Config.read?_write`**: the document of the settings is read as their root table.
* **`Config.exists_write_withEntries`**: the entries of servers have one place in it.
-/

namespace ReviewStream

open Toml

/-- A word fits into a TOML integer. -/
def Toml.Fits (n : UInt64) : Prop := (n.toNat : Int) ≤ Int64.maxValue.toInt

/-! ## Values -/

lemma Toml.isSimple_text (s : String) : IsSimple (.text s) := .scalar (.text s)

lemma Toml.isSimple_word {n : UInt64} (h : Fits n) : IsSimple (.word n) :=
  .scalar (.integer n.toNat h)

lemma isSimple_textMember {key : String} {o : Option String} {m : String × Toml}
    (h : m ∈ textMember key o) : IsSimple m.2 := by
  cases o with
  | none => cases h
  | some s =>
      rw [List.mem_singleton.mp h]
      exact isSimple_text s

/-! ## Windows -/

/-- The members of a window's table. -/
def Window.members (w : Window) : Toml.Members :=
  [("start", .text w.start.toText), ("end", .text w.stop.toText),
    ("weekdays", .array (w.weekdays.map fun d => .text d.shortName))]

lemma Window.isFlat_members (w : Window) : IsFlat w.members where
  simple m hm := by
    simp only [members, List.mem_cons, List.not_mem_nil, or_false] at hm
    rcases hm with rfl | rfl | rfl
    · exact isSimple_text _
    · exact isSimple_text _
    · refine .array fun v hv => ?_
      obtain ⟨d, -, rfl⟩ := List.mem_map.mp hv
      exact .text _
  keys := by simp [members]

/-! ## The three tables -/

/-- The members of a connection's table before its windows. -/
def ConnectionConfig.ownMembers (c : ConnectionConfig) : Toml.Members :=
  [("name", .text c.name), ("host", .text c.host), ("port", .integer c.port.toNat)]
    ++ textMember "proxy" c.proxy
    ++ [("frontend_url", .text c.frontendUrl), ("username", .text c.username)]
    ++ textMember "private_key_file" c.privateKeyFile
    ++ [("keepalive_interval_secs", .word c.keepaliveSecs),
      ("receive_buffer_size", .word c.receiveBufferSize),
      ("watchdog_timeout_secs", .word c.watchdogTimeoutSecs)]

namespace ConnectionConfig

variable {c : ConnectionConfig}

lemma toToml_eq (c : ConnectionConfig) : c.toToml
    = .table .header (c.ownMembers ++ [("watchdog_windows", windowsToToml c.watchdogWindows)]) := by
  simp [toToml, ownMembers]

lemma port_le (c : ConnectionConfig) : (c.port.toNat : Int) ≤ Int64.maxValue.toInt := by
  have hport : c.port.toNat < 65536 := c.port.toNat_lt
  have hmax : Int64.maxValue.toInt = 9223372036854775807 := by decide
  omega

lemma keys_ownMembers (c : ConnectionConfig) :
    ((c.ownMembers ++ [("watchdog_windows", windowsToToml c.watchdogWindows)]).map
      Prod.fst).Nodup := by
  rw [ownMembers]
  cases c.proxy <;> cases c.privateKeyFile <;> simp [textMember]

lemma isFlat_ownMembers (hkeepalive : Fits c.keepaliveSecs) (hbuffer : Fits c.receiveBufferSize)
    (htimeout : Fits c.watchdogTimeoutSecs) : IsFlat c.ownMembers where
  simple m hm := by
    simp only [ownMembers, List.mem_append, List.mem_cons, List.not_mem_nil, or_false] at hm
    rcases hm with ((((rfl | rfl | rfl) | h) | rfl | rfl) | h) | rfl | rfl | rfl
    · exact isSimple_text _
    · exact isSimple_text _
    · exact .scalar (.integer _ c.port_le)
    · exact isSimple_textMember h
    · exact isSimple_text _
    · exact isSimple_text _
    · exact isSimple_textMember h
    · exact isSimple_word hkeepalive
    · exact isSimple_word hbuffer
    · exact isSimple_word htimeout
  keys := (List.nodup_append.mp (List.map_append ▸ c.keys_ownMembers)).1

/-- A connection's table is put into the root by its sections. -/
lemma isAdded_toToml (hown : IsFlat c.ownMembers) : IsAdded "gerrit" c.toToml := by
  have hlabel : "watchdog_windows" ∉ c.ownMembers.map Prod.fst := key_notMem c.keys_ownMembers
  rw [toToml_eq, windowsToToml]
  by_cases hnone : c.watchdogWindows = []
  · -- An empty list of windows stands on a line like any other value.
    have hflat : IsFlat (c.ownMembers ++ [("watchdog_windows", .array [])]) := by
      refine ⟨fun m hm => ?_, ?_⟩
      · rcases List.mem_append.mp hm with h | h
        · exact hown.simple m h
        · rw [List.mem_singleton.mp h]
          exact .array fun v hv => nomatch hv
      · simpa using c.keys_ownMembers
    rw [hnone, List.isEmpty_nil, if_pos rfl]
    exact isAdded_flat hflat
  · have hsome : c.watchdogWindows.isEmpty = false := List.isEmpty_eq_false_iff.mpr hnone
    have htables : c.watchdogWindows.map Window.toToml
        = (c.watchdogWindows.map Window.members).map (.table .header) := by
      rw [List.map_map]
      rfl
    have hne : c.ownMembers ≠ [] := by simp [ownMembers]
    have hitems : c.watchdogWindows.map Window.members ≠ [] := by simpa using hnone
    rw [hsome, if_neg Bool.false_ne_true, htables]
    refine isAdded_withItems hown hne hlabel hitems fun ms hms => ?_
    obtain ⟨w, -, rfl⟩ := List.mem_map.mp hms
    exact w.isFlat_members

end ConnectionConfig

namespace DispatchConfig

variable {c : DispatchConfig}

/-- The members of a dispatcher's table before the entries of servers. -/
def ownMembers (c : DispatchConfig) : Toml.Members :=
  [("worker_threads", .word c.workerThreads), ("keep_alive_secs", .word c.keepAliveSecs),
    ("queue_warning_threshold", .word c.queueWarningThreshold),
    ("shutdown_grace_secs", .word c.shutdownGraceSecs)]

lemma isFlat_ownMembers (hthreads : Fits c.workerThreads) (hkeep : Fits c.keepAliveSecs)
    (hwarn : Fits c.queueWarningThreshold) (hgrace : Fits c.shutdownGraceSecs) :
    IsFlat c.ownMembers where
  simple m hm := by
    simp only [ownMembers, List.mem_cons, List.not_mem_nil, or_false] at hm
    rcases hm with rfl | rfl | rfl | rfl
    · exact isSimple_word hthreads
    · exact isSimple_word hkeep
    · exact isSimple_word hwarn
    · exact isSimple_word hgrace
  keys := by simp [ownMembers]

lemma isFlat_ignoreEmail (hdistinct : (c.ignoreEmail.map Prod.fst).Nodup) :
    IsFlat (c.ignoreEmail.map fun (k, v) => (k, Toml.text v)) where
  simple m hm := by
    obtain ⟨entry, -, rfl⟩ := List.mem_map.mp hm
    exact isSimple_text _
  keys := by
    rw [List.map_map]
    exact hdistinct

/-- A dispatcher's table is put into the root by its sections. -/
lemma isAdded_toToml (hown : IsFlat c.ownMembers)
    (hdistinct : (c.ignoreEmail.map Prod.fst).Nodup) : IsAdded "dispatch" c.toToml :=
  isAdded_withTable hown (List.cons_ne_nil _ _) (by simp [ownMembers])
    (isFlat_ignoreEmail hdistinct)

end DispatchConfig

/-- A whitelist's table is put into the root by its sections. -/
lemma WhitelistConfig.isAdded_toToml {c : WhitelistConfig} (hrefresh : Fits c.refreshMinutes) :
    IsAdded "whitelist" c.toToml := by
  refine isAdded_flat ⟨fun m hm => ?_, ?_⟩
  · rcases List.mem_append.mp hm with h | h
    · exact isSimple_textMember h
    · rw [List.mem_singleton.mp h]
      exact isSimple_word hrefresh
  · cases c.location <;> simp [textMember]

/-! ## The document -/

/-- **The document of the settings is read as their root table.** -/
theorem Config.read?_write {c : Config} (hwords : ∀ n ∈ c.words, Fits n)
    (hdistinct : (c.dispatch.ignoreEmail.map Prod.fst).Nodup) :
    Toml.read? c.toToml.write = some c.toToml := by
  simp only [words, List.forall_mem_cons] at hwords
  obtain ⟨hkeepalive, hbuffer, htimeout, hthreads, hkeep, hwarn, hgrace, hrefresh, -⟩ := hwords
  have hconnection : IsAdded "gerrit" c.connection.toToml :=
    ConnectionConfig.isAdded_toToml (ConnectionConfig.isFlat_ownMembers hkeepalive hbuffer htimeout)
  have hdispatch : IsAdded "dispatch" c.dispatch.toToml := DispatchConfig.isAdded_toToml
    (DispatchConfig.isFlat_ownMembers hthreads hkeep hwarn hgrace) hdistinct
  have hwhitelist : IsAdded "whitelist" c.whitelist.toToml :=
    WhitelistConfig.isAdded_toToml hrefresh
  refine Toml.read?_write ?_ (by simp)
  simp only [List.forall_mem_cons]
  exact ⟨hconnection, hdispatch, hwhitelist, nofun⟩

/-! ## Entries of servers -/

/-- The lines of entries. -/
def entryLines (entries : List (String × String)) : List Char :=
  entries.flatMap fun (k, v) => Toml.lineText k (.text v)

/-- The settings with other entries. -/
def Config.withEntries (c : Config) (entries : List (String × String)) : Config :=
  { c with dispatch := { c.dispatch with ignoreEmail := entries } }

lemma valueLines_texts (entries : List (String × String)) :
    valueLines (entries.map fun (k, v) => (k, .text v)) = entryLines entries := by
  induction entries with
  | nil => rfl
  | cons entry entries ih =>
      rw [List.map_cons, valueLines_cons _ _ rfl, ih]
      rfl

lemma DispatchConfig.sections_entries (entries : List (String × String)) :
    sections ["dispatch", "ignore_email"] false
        (.table .header (entries.map fun (k, v) => (k, .text v)))
      = [headerText false ["dispatch", "ignore_email"] ++ entryLines entries] := by
  have hsimple : ∀ m ∈ entries.map fun (k, v) => (k, Toml.text v), IsSimple m.2 := by
    intro m hm
    obtain ⟨entry, -, rfl⟩ := List.mem_map.mp hm
    exact isSimple_text _
  have hshown : (entries.map fun (k, v) => (k, Toml.text v)) = []
      ∨ valueLines (entries.map fun (k, v) => (k, Toml.text v)) ≠ [] := by
    by_cases hnone : (entries.map fun (k, v) => (k, Toml.text v)) = []
    · exact .inl hnone
    · exact .inr (valueLines_ne_nil hnone hsimple)
  rw [sections_table (List.cons_ne_nil _ _) (.inr hshown), memberSections_eq_nil hsimple,
    valueLines_texts]

/-- The entries stand in a section of their own, which comes last among those of the dispatcher. -/
lemma DispatchConfig.exists_sections (c : DispatchConfig) : ∃ own, ∀ entries,
    sections ["dispatch"] false { c with ignoreEmail := entries }.toToml
      = [own, headerText false ["dispatch", "ignore_email"] ++ entryLines entries] := by
  refine ⟨headerText false ["dispatch"] ++ valueLines c.ownMembers, fun entries => ?_⟩
  have htable : { c with ignoreEmail := entries }.toToml = .table .header
      (c.ownMembers ++ [("ignore_email", .table .header
        (entries.map fun (k, v) => (k, .text v)))]) := rfl
  have hlines : valueLines (c.ownMembers ++ [("ignore_email", .table .header
      (entries.map fun (k, v) => (k, .text v)))]) = valueLines c.ownMembers := by
    rw [valueLines_append]
    exact List.append_nil _
  have hown : valueLines c.ownMembers ≠ [] := by
    rw [ownMembers, valueLines_cons _ _ rfl, Toml.lineText]
    simp
  rw [htable, sections_table (List.cons_ne_nil _ _) (.inr (.inr (hlines ▸ hown))), hlines,
    memberSections_append]
  exact congrArg (_ :: ·) ((List.append_nil _).trans (sections_entries entries))

/-- What stands around one of several sections does not depend on it. -/
lemma exists_intercalate (before after : List (List Char)) : ∃ front back, ∀ middle,
    ['\n'].intercalate (before ++ middle :: after) = front ++ middle ++ back := by
  induction before with
  | nil =>
      cases after with
      | nil => exact ⟨[], [], fun middle => by simp [List.intercalate_singleton]⟩
      | cons next rest =>
          refine ⟨[], ['\n'] ++ ['\n'].intercalate (next :: rest), fun middle => ?_⟩
          rw [List.nil_append, List.nil_append, List.intercalate_cons_cons, List.append_assoc]
  | cons first before ih =>
      obtain ⟨front, back, hrest⟩ := ih
      refine ⟨first ++ ['\n'] ++ front, back, fun middle => ?_⟩
      have hne : before ++ middle :: after ≠ [] :=
        List.append_ne_nil_of_right_ne_nil _ (List.cons_ne_nil _ _)
      rw [List.cons_append, List.intercalate_cons_of_ne_nil hne, hrest]
      simp only [List.append_assoc]

/-- **The entries of servers stand in one place of the document**, a line each, and nothing else in
it depends on them. -/
theorem Config.exists_write_withEntries (c : Config) : ∃ front back, ∀ entries,
    (c.withEntries entries).toToml.write
      = String.ofList (front ++ entryLines entries ++ back) := by
  obtain ⟨own, hdispatch⟩ := c.dispatch.exists_sections
  obtain ⟨front, back, htext⟩ := exists_intercalate
    (sections ["gerrit"] false c.connection.toToml ++ [own])
    (sections ["whitelist"] false c.whitelist.toToml)
  refine ⟨front ++ headerText false ["dispatch", "ignore_email"], back, fun entries => ?_⟩
  have hsections : sections [] false (c.withEntries entries).toToml
      = sections ["gerrit"] false c.connection.toToml
        ++ (sections ["dispatch"] false { c.dispatch with ignoreEmail := entries }.toToml
          ++ (sections ["whitelist"] false c.whitelist.toToml ++ [])) := rfl
  have hmiddle := htext (headerText false ["dispatch", "ignore_email"] ++ entryLines entries)
  rw [write, hsections, hdispatch, List.append_nil]
  rw [List.append_assoc] at hmiddle
  refine congrArg String.ofList (hmiddle.trans ?_)
  simp only [List.append_assoc]

end ReviewStream
