import Mathlib.Data.List.Perm.Basic
import Mathlib.Tactic.Lemma
import Mathlib.Tactic.SplitIfs
import ReviewStream.Config.Saving
import ReviewStream.Proofs.Clock.RoundTrip
import ReviewStream.Proofs.Json.Abridged

/-!
# Settings that are read from their own tables

The tables in which settings are kept have a member for everything but the passphrase and what is
absent.  As data their members stand in the order of their keys.

* `Json.sortMembers_perm`: members with distinct keys are only put in another order.
* `Json.Fields.reads_sorted`: a field is read from what is under its key, or is absent.
* `Window.shape_toToml`, `ConnectionConfig.shape_toToml`, `DispatchConfig.shape_toToml`,
  `WhitelistConfig.shape_toToml`: each kind of settings is read from its table.
* `Config.carried`: the settings with the times whose texts their times have.
* **`Config.shape_toToml`**: all settings are read from their tables, without the passphrase.
-/

namespace ReviewStream

open Json (Shape Fields)

/-! ## Members in the order of their keys -/

namespace Json

variable {α : Type} {members : List (String × Json)} {key : String} {v w : Json}

lemma insert_perm (h : key ∉ members.map Prod.fst) :
    (insert key v members).Perm ((key, v) :: members) := by
  induction members with
  | nil => exact .refl _
  | cons m rest ih =>
      obtain ⟨k, x⟩ := m
      rw [List.map_cons, List.mem_cons, not_or] at h
      rw [insert, if_neg h.1]
      split_ifs
      · exact .refl _
      · exact ((ih h.2).cons _).trans (.swap _ _ _)

lemma foldl_insert_perm (sorted : List (String × Json))
    (hkeys : ((members ++ sorted).map Prod.fst).Nodup) :
    (members.foldl (fun sorted (k, v) => insert k v sorted) sorted).Perm (members ++ sorted) := by
  induction members generalizing sorted with
  | nil => exact .refl _
  | cons m rest ih =>
      obtain ⟨k, x⟩ := m
      rw [List.cons_append, List.map_cons, List.nodup_cons, List.map_append, List.mem_append,
        not_or] at hkeys
      have hperm : (insert k x sorted).Perm ((k, x) :: sorted) := insert_perm hkeys.1.2
      have hmiddle : (rest ++ insert k x sorted).Perm ((k, x) :: rest ++ sorted) :=
        (hperm.append_left rest).trans List.perm_middle
      refine (ih (insert k x sorted) ?_).trans hmiddle
      rw [(hmiddle.map Prod.fst).nodup_iff, List.cons_append, List.map_cons, List.nodup_cons,
        List.map_append, List.mem_append, not_or]
      exact hkeys

/-- Members with distinct keys are only put in another order. -/
lemma sortMembers_perm (h : (members.map Prod.fst).Nodup) : (sortMembers members).Perm members := by
  have hperm := foldl_insert_perm [] (by rwa [List.append_nil])
  rwa [List.append_nil] at hperm

lemma find?_sortMembers_eq_none (hkeys : (members.map Prod.fst).Nodup)
    (h : find? key members = none) : find? key (sortMembers members) = none := by
  refine find?_eq_none_of_not_mem fun hmem => ?_
  obtain ⟨m, hm, rfl⟩ := List.mem_map.mp hmem
  obtain ⟨w, hw⟩ := exists_find?_of_mem ((sortMembers_perm hkeys).mem_iff.mp hm)
  rw [h] at hw
  cases hw

namespace Fields

/-- A field is read from what is under its key. -/
lemma reads_sorted {shape : Shape α} {absent : Option α} {a : α}
    (hkeys : (members.map Prod.fst).Nodup) (hfind : find? key members = some v)
    (hread : shape v = .ok a) : (field key absent shape).Reads (sortMembers members) a := by
  have hperm := sortMembers_perm hkeys
  refine reads_field (fun w hw => ?_) fun hnone => ?_
  · rw [find?_of_mem hkeys (hperm.mem_iff.mp hw)] at hfind
    cases hfind
    exact hread
  · obtain ⟨w, hw⟩ := exists_find?_of_mem (hperm.mem_iff.mpr (mem_of_find? hfind))
    rw [hnone] at hw
    cases hw

/-- A text that may be absent is read, whether it is there or not. -/
lemma reads_sortedText {shape : Shape String} {o : Option String}
    (hkeys : (members.map Prod.fst).Nodup) (hfind : find? key members = o.map .text)
    (hread : ∀ s, shape (.text s) = .ok s) :
    (optional key shape).Reads (sortMembers members) o := by
  cases o with
  | none =>
      have hnone := find?_sortMembers_eq_none hkeys hfind
      refine reads_field (fun w hw => ?_) fun _ => rfl
      obtain ⟨x, hx⟩ := exists_find?_of_mem hw
      rw [hnone] at hx
      cases hx
  | some s =>
      refine reads_sorted hkeys hfind ?_
      rw [Shape.nullable, hread]
      · rfl
      · rintro ⟨⟩

end Fields

end Json

/-! ## Tables -/

section Tables

variable {α : Type} {members : List (String × Toml)} {key : String} {name : String}

lemma Toml.keys_membersToJson (members : List (String × Toml)) :
    (Toml.membersToJson members).map Prod.fst = members.map Prod.fst := by
  induction members with
  | nil => rfl
  | cons m rest ih => rw [Toml.membersToJson, List.map_cons, List.map_cons, ih]

lemma Toml.itemsToJson_eq_map (items : List Toml) :
    Toml.itemsToJson items = items.map Toml.toJson := by
  induction items with
  | nil => rfl
  | cons v vs ih => rw [Toml.itemsToJson, List.map_cons, ih]

end Tables

/-! ## Words -/

namespace Json.Shape

lemma unsigned_int {limit n : Nat} {wanted : Wanted} (h : n ≤ limit) :
    unsigned limit wanted (.int n) = .ok n := by
  have hrange : (0 : Int) ≤ (n : Int) ∧ (n : Int) ≤ (limit : Int) := by omega
  rw [Json.int, unsigned, if_pos hrange, Int.toNat_natCast]

lemma word64_word (n : UInt64) : word64 (Toml.word n).toJson = .ok n := by
  have hread : unsigned64 (.int n.toNat) = .ok n.toNat :=
    unsigned_int (Nat.le_sub_one_of_lt n.toNat_lt_size)
  rw [Toml.word, Toml.toJson, word64, hread]
  exact congrArg Except.ok (UInt64.ofNat_toNat)

lemma wordSize_word (n : UInt64) : wordSize (Toml.word n).toJson = .ok n := by
  have hread : size (.int n.toNat) = .ok n.toNat :=
    unsigned_int (Nat.le_sub_one_of_lt n.toNat_lt_size)
  rw [Toml.word, Toml.toJson, wordSize, hread]
  exact congrArg Except.ok (UInt64.ofNat_toNat)

lemma word16_integer (n : UInt16) : word16 (Toml.integer n.toNat).toJson = .ok n := by
  have hread : unsigned16 (.int n.toNat) = .ok n.toNat :=
    unsigned_int (Nat.le_sub_one_of_lt n.toNat_lt_size)
  rw [Toml.toJson, word16, hread]
  exact congrArg Except.ok (UInt16.ofNat_toNat)

end Json.Shape

/-! ## Windows -/

lemma Weekday.shape_items (ds : List Weekday) :
    Weekday.shape.items (Toml.array (ds.map fun d => .text d.shortName)).toJson = .ok ds := by
  rw [Toml.toJson, Toml.itemsToJson_eq_map, List.map_map]
  refine Shape.mapM_eq_ok (by rw [List.length_map]) fun i v d hv hd => ?_
  rw [List.getElem?_map, hd] at hv
  cases hv
  exact Weekday.shape_shortName d

/-- The window between the times whose texts its times have. -/
def Window.carried (w : Window) : Window :=
  { w with start := w.start.carried, stop := w.stop.carried }

/-- A window between times that a clock shows is left as it is, and no other. -/
lemma Window.InRange.carried_eq_self_iff {w : Window} (h : w.InRange) :
    w.carried = w ↔ w.IsProper := by
  constructor
  · intro heq
    exact ⟨h.start.carried_eq_self_iff.mp (congrArg Window.start heq),
      h.stop.carried_eq_self_iff.mp (congrArg Window.stop heq)⟩
  · intro hproper
    rw [Window.carried, h.start.carried_eq_self_iff.mpr hproper.start,
      h.stop.carried_eq_self_iff.mpr hproper.stop]

lemma Window.shape_toToml {w : Window} (h : w.InRange) :
    Window.shape w.toToml.toJson = .ok w.carried := by
  obtain ⟨start, stop, weekdays⟩ := w
  have hkeys : (((Toml.membersToJson [("start", .text start.toText), ("end", .text stop.toText),
      ("weekdays", .array (weekdays.map fun d => .text d.shortName))])).map Prod.fst).Nodup := by
    rw [Toml.keys_membersToJson]
    change ["start", "end", "weekdays"].Nodup
    decide
  refine Shape.record_of_reads (.seq (.seq (.map Window.mk ?_) ?_) ?_)
  · exact Fields.reads_sorted hkeys rfl (TimeOfDay.shape_toText h.start)
  · exact Fields.reads_sorted hkeys rfl (TimeOfDay.shape_toText h.stop)
  · exact Fields.reads_sorted hkeys rfl (Weekday.shape_items weekdays)

lemma Window.shape_items {ws : List Window} (h : ∀ w ∈ ws, w.InRange) :
    Window.shape.items (windowsToToml ws).toJson = .ok (ws.map Window.carried) := by
  have hdata : (windowsToToml ws).toJson = .list (ws.map fun w => w.toToml.toJson) := by
    rw [windowsToToml]
    split_ifs with hempty
    · rw [List.isEmpty_iff.mp hempty]
      rfl
    · rw [Toml.toJson, Toml.itemsToJson_eq_map, List.map_map]
      rfl
  rw [hdata]
  refine Shape.mapM_eq_ok (by rw [List.length_map, List.length_map]) fun i v read hv hread => ?_
  rw [List.getElem?_map] at hv hread
  obtain ⟨w, hw, rfl⟩ := Option.map_eq_some_iff.mp hread
  rw [hw] at hv
  cases hv
  exact Window.shape_toToml (h w (List.mem_of_getElem? hw))

/-! ## The settings of a connection -/

/-- What the table of a connection's settings has as data. -/
structure ConnectionConfig.WrittenAs (c : ConnectionConfig) (members : List (String × Json)) :
    Prop where
  keys : (members.map Prod.fst).Nodup
  name : Json.find? "name" members = some (.text c.name)
  host : Json.find? "host" members = some (.text c.host)
  port : Json.find? "port" members = some (Toml.integer c.port.toNat).toJson
  proxy : Json.find? "proxy" members = c.proxy.map .text
  frontendUrl : Json.find? "frontend_url" members = some (.text c.frontendUrl)
  username : Json.find? "username" members = some (.text c.username)
  privateKeyFile : Json.find? "private_key_file" members = c.privateKeyFile.map .text
  keepaliveSecs : Json.find? "keepalive_interval_secs" members
    = some (Toml.word c.keepaliveSecs).toJson
  receiveBufferSize : Json.find? "receive_buffer_size" members
    = some (Toml.word c.receiveBufferSize).toJson
  watchdogTimeoutSecs : Json.find? "watchdog_timeout_secs" members
    = some (Toml.word c.watchdogTimeoutSecs).toJson
  watchdogWindows : Json.find? "watchdog_windows" members
    = some (windowsToToml c.watchdogWindows).toJson

/-- Whether or not there is a proxy or a key file, the other members are there. -/
lemma ConnectionConfig.exists_writtenAs (c : ConnectionConfig) :
    ∃ members, c.toToml.toJson = .object (Json.sortMembers members) ∧ c.WrittenAs members := by
  obtain ⟨name, host, port, proxy, frontendUrl, username, privateKeyFile, passphrase,
    keepaliveSecs, receiveBufferSize, watchdogTimeoutSecs, watchdogWindows⟩ := c
  rw [ConnectionConfig.toToml, Toml.toJson]
  refine ⟨_, rfl, ?_⟩
  cases proxy <;> cases privateKeyFile
  all_goals
    refine ⟨?_, rfl, rfl, rfl, rfl, rfl, rfl, rfl, rfl, rfl, rfl, rfl⟩
    rw [Toml.keys_membersToJson]
    simp [textMember]

/-- A connection's settings without a passphrase, from the others. -/
def ConnectionConfig.ofFields (name host : String) (port : UInt16) (proxy : Option String)
    (frontendUrl username : String) (privateKeyFile : Option String)
    (keepaliveSecs receiveBufferSize watchdogTimeoutSecs : UInt64)
    (watchdogWindows : List Window) : ConnectionConfig :=
  { name, host, port, proxy, frontendUrl, username, privateKeyFile, passphrase := none,
    keepaliveSecs, receiveBufferSize, watchdogTimeoutSecs, watchdogWindows }

lemma ConnectionConfig.reads_of_writtenAs {c : ConnectionConfig} {members : List (String × Json)}
    (h : c.WrittenAs members) (hrange : ∀ w ∈ c.watchdogWindows, w.InRange) :
    ConnectionConfig.fields.Reads (Json.sortMembers members)
      (ofFields c.name c.host c.port c.proxy c.frontendUrl c.username c.privateKeyFile
        c.keepaliveSecs c.receiveBufferSize c.watchdogTimeoutSecs
        (c.watchdogWindows.map Window.carried)) := by
  refine .seq (.seq (.seq (.seq (.seq (.seq (.seq (.seq (.seq (.seq (.map ofFields ?_) ?_) ?_) ?_)
    ?_) ?_) ?_) ?_) ?_) ?_) ?_
  · exact Fields.reads_sorted h.keys h.name rfl
  · exact Fields.reads_sorted h.keys h.host rfl
  · exact Fields.reads_sorted h.keys h.port (Shape.word16_integer c.port)
  · exact Fields.reads_sortedText h.keys h.proxy fun _ => rfl
  · exact Fields.reads_sorted h.keys h.frontendUrl rfl
  · exact Fields.reads_sorted h.keys h.username rfl
  · exact Fields.reads_sortedText h.keys h.privateKeyFile fun _ => rfl
  · exact Fields.reads_sorted h.keys h.keepaliveSecs (Shape.word64_word c.keepaliveSecs)
  · exact Fields.reads_sorted h.keys h.receiveBufferSize (Shape.wordSize_word c.receiveBufferSize)
  · exact Fields.reads_sorted h.keys h.watchdogTimeoutSecs (Shape.word64_word c.watchdogTimeoutSecs)
  · exact Fields.reads_sorted h.keys h.watchdogWindows (Window.shape_items hrange)

lemma ConnectionConfig.shape_toToml {c : ConnectionConfig}
    (hrange : ∀ w ∈ c.watchdogWindows, w.InRange) :
    ConnectionConfig.shape c.toToml.toJson = .ok
      { c with passphrase := none, watchdogWindows := c.watchdogWindows.map Window.carried } := by
  obtain ⟨members, hdata, hwritten⟩ := c.exists_writtenAs
  rw [hdata]
  exact Shape.record_of_reads (ConnectionConfig.reads_of_writtenAs hwritten hrange)

/-! ## The settings of the dispatcher -/

/-- Entries in the order of their servers. -/
def inOrder (entries : List (String × String)) : List (String × String) :=
  entries.foldl (fun sorted (k, v) => putEntry k v sorted) []

/-- Entries as members of an object. -/
def entryMembers (entries : List (String × String)) : List (String × Json) :=
  entries.map fun (k, v) => (k, .text v)

variable {entries : List (String × String)}

lemma entryMembers_putEntry (key value : String) (entries : List (String × String)) :
    entryMembers (putEntry key value entries)
      = Json.insert key (.text value) (entryMembers entries) := by
  induction entries with
  | nil => rfl
  | cons e rest ih =>
      obtain ⟨k, v⟩ := e
      change entryMembers (putEntry key value ((k, v) :: rest))
        = Json.insert key (.text value) ((k, .text v) :: entryMembers rest)
      rw [putEntry, Json.insert]
      split_ifs
      · rfl
      · rfl
      · exact congrArg ((k, Json.text v) :: ·) ih

lemma foldl_insert_entryMembers (entries sorted : List (String × String)) :
    (entryMembers entries).foldl (fun sorted (k, v) => Json.insert k v sorted)
        (entryMembers sorted)
      = entryMembers (entries.foldl (fun sorted (k, v) => putEntry k v sorted) sorted) := by
  induction entries generalizing sorted with
  | nil => rfl
  | cons e rest ih =>
      change (entryMembers rest).foldl _ (Json.insert e.1 (.text e.2) (entryMembers sorted)) = _
      rw [← entryMembers_putEntry, ih]
      rfl

lemma sortMembers_entryMembers (entries : List (String × String)) :
    Json.sortMembers (entryMembers entries) = entryMembers (inOrder entries) :=
  foldl_insert_entryMembers entries []

lemma inOrder_perm (h : (entries.map Prod.fst).Nodup) : (inOrder entries).Perm entries := by
  have hkeys : ((entryMembers entries).map Prod.fst).Nodup := by
    rw [entryMembers, List.map_map]
    exact h
  have hperm := Json.sortMembers_perm hkeys
  rw [sortMembers_entryMembers] at hperm
  refine (List.map_perm_map_iff ?_).mp hperm
  rintro ⟨k, v⟩ ⟨l, w⟩ heq
  cases heq
  rfl

lemma textMap_entryMembers (entries : List (String × String)) :
    Shape.textMap (.object (entryMembers entries)) = .ok entries := by
  rw [Shape.textMap]
  induction entries with
  | nil => rfl
  | cons e rest ih =>
      rw [entryMembers] at ih ⊢
      rw [List.map_cons, List.mapM_cons, ih]
      rfl

lemma membersToJson_texts (entries : List (String × String)) :
    Toml.membersToJson (entries.map fun (k, v) => (k, .text v)) = entryMembers entries := by
  induction entries with
  | nil => rfl
  | cons e rest ih =>
      rw [List.map_cons, Toml.membersToJson, ih]
      rfl

/-- The dispatcher's settings, from what is read for them. -/
def DispatchConfig.ofFields (workerThreads keepAliveSecs queueWarningThreshold shutdownGraceSecs :
    UInt64) (entries : List (String × String)) : DispatchConfig :=
  { workerThreads, keepAliveSecs, queueWarningThreshold, shutdownGraceSecs,
    ignoreEmail := inOrder entries }

lemma DispatchConfig.shape_toToml (c : DispatchConfig) :
    DispatchConfig.shape c.toToml.toJson
      = .ok { c with ignoreEmail := inOrder (inOrder c.ignoreEmail) } := by
  have hentries : Shape.textMap
      (Toml.table .header (c.ignoreEmail.map fun (k, v) => (k, .text v))).toJson
        = .ok (inOrder c.ignoreEmail) := by
    rw [Toml.toJson, membersToJson_texts, sortMembers_entryMembers, textMap_entryMembers]
  have hkeys : ((Toml.membersToJson [("worker_threads", .word c.workerThreads),
      ("keep_alive_secs", .word c.keepAliveSecs),
      ("queue_warning_threshold", .word c.queueWarningThreshold),
      ("shutdown_grace_secs", .word c.shutdownGraceSecs),
      ("ignore_email", .table .header (c.ignoreEmail.map fun (k, v) => (k, .text v)))]).map
        Prod.fst).Nodup := by
    rw [Toml.keys_membersToJson]
    simp
  rw [DispatchConfig.toToml, Toml.toJson]
  change _ = Except.ok (DispatchConfig.ofFields c.workerThreads c.keepAliveSecs
    c.queueWarningThreshold c.shutdownGraceSecs (inOrder c.ignoreEmail))
  refine Shape.record_of_reads (.seq (.seq (.seq (.seq (.map ofFields ?_) ?_) ?_) ?_) ?_)
  · exact Fields.reads_sorted hkeys rfl (Shape.wordSize_word c.workerThreads)
  · exact Fields.reads_sorted hkeys rfl (Shape.word64_word c.keepAliveSecs)
  · exact Fields.reads_sorted hkeys rfl (Shape.wordSize_word c.queueWarningThreshold)
  · exact Fields.reads_sorted hkeys rfl (Shape.word64_word c.shutdownGraceSecs)
  · exact Fields.reads_sorted hkeys rfl hentries

/-! ## The settings of the whitelist -/

lemma WhitelistConfig.shape_toToml (c : WhitelistConfig) :
    WhitelistConfig.shape c.toToml.toJson = .ok c := by
  obtain ⟨location, refreshMinutes⟩ := c
  rw [WhitelistConfig.toToml, Toml.toJson]
  have hkeys : ((Toml.membersToJson (textMember "location" location
      ++ [("refresh_minutes", .word refreshMinutes)])).map Prod.fst).Nodup := by
    rw [Toml.keys_membersToJson]
    cases location <;> simp [textMember]
  refine Shape.record_of_reads (.seq (.map WhitelistConfig.mk ?_) ?_)
  · exact Fields.reads_sortedText hkeys (by cases location <;> rfl) fun _ => rfl
  · exact Fields.reads_sorted hkeys (by cases location <;> rfl) (Shape.word64_word refreshMinutes)

/-! ## All settings -/

/-- The settings with windows between the times whose texts their times have. -/
def Config.carried (c : Config) : Config :=
  { c with connection :=
      { c.connection with watchdogWindows := c.connection.watchdogWindows.map Window.carried } }

/-- Settings are left as they are if their windows are between times that a clock shows, and no
others. -/
lemma Config.carried_eq_self_iff {c : Config}
    (hrange : ∀ w ∈ c.connection.watchdogWindows, w.InRange) :
    c.carried = c ↔ ∀ w ∈ c.connection.watchdogWindows, w.IsProper := by
  have hwindows : c.connection.watchdogWindows.map Window.carried = c.connection.watchdogWindows
      ↔ ∀ w ∈ c.connection.watchdogWindows, w.IsProper := by
    rw [← List.map_id c.connection.watchdogWindows, List.map_map, List.map_inj_left, List.map_id]
    exact forall₂_congr fun w hw => (hrange w hw).carried_eq_self_iff
  rw [← hwindows]
  refine ⟨fun heq => congrArg (·.connection.watchdogWindows) heq, fun heq => ?_⟩
  rw [carried, heq]

/-- **All settings are read from their tables**, but for the passphrase, with what is carried in
their times, and with the entries of servers in order. -/
theorem Config.shape_toToml {c : Config}
    (hrange : ∀ w ∈ c.connection.watchdogWindows, w.InRange) :
    Config.shape c.toToml.toJson = .ok
      { c.withoutPassphrase.carried with
        dispatch :=
          { c.dispatch with ignoreEmail := inOrder (inOrder c.dispatch.ignoreEmail) } } := by
  rw [Config.toToml, Toml.toJson]
  have hkeys : ((Toml.membersToJson [("gerrit", c.connection.toToml),
      ("dispatch", c.dispatch.toToml), ("whitelist", c.whitelist.toToml)]).map Prod.fst).Nodup := by
    rw [Toml.keys_membersToJson]
    simp
  refine Shape.record_of_reads (.seq (.seq (.map Config.mk ?_) ?_) ?_)
  · exact Fields.reads_sorted hkeys rfl (ConnectionConfig.shape_toToml hrange)
  · exact Fields.reads_sorted hkeys rfl (DispatchConfig.shape_toToml c.dispatch)
  · exact Fields.reads_sorted hkeys rfl (WhitelistConfig.shape_toToml c.whitelist)

end ReviewStream
