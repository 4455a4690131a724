import ReviewStream.Proofs.Config.Document
import ReviewStream.Proofs.Config.Record
import ReviewStream.Proofs.Json.Slot
import ReviewStream.Proofs.Toml.Integers

/-!
# Words of settings that are loaded

Words of settings have 64 bits without a sign, and integers of a document 64 bits with one, so a
word that is loaded is below 2⁶³, wherever in its document it stands.

* `Json.IsBounded`: all integers in a value are of 64 bits with a sign.
* `Json.Fields.Ensures`: what is read from such values has a property.
* **`Config.fits_of_ofFile?`**: all words of settings that are loaded are below 2⁶³.
* `Config.toFile?_of_ofFile?`: settings that are loaded can be saved.
-/

namespace ReviewStream

open Json (Shape Fields)

instance : DecidablePred Toml.Fits :=
  fun n => inferInstanceAs (Decidable ((n.toNat : Int) ≤ Int64.maxValue.toInt))

/-! ## Data of a document -/

namespace Json

/-- All integers in a value are of 64 bits, with a sign. -/
inductive IsBounded : Json → Prop
  | null : IsBounded .null
  | bool (b : Bool) : IsBounded (.bool b)
  | integer {i : Int} (h : Int.IsWord i) : IsBounded (.number (.integer i))
  | real (x : Binary64) : IsBounded (.number (.real x))
  | text (s : String) : IsBounded (.text s)
  | list {items : List Json} (h : ∀ v ∈ items, IsBounded v) : IsBounded (.list items)
  | object {members : List (String × Json)} (h : ∀ m ∈ members, IsBounded m.2) :
      IsBounded (.object members)

variable {key : String} {v : Json} {members : List (String × Json)} {m : String × Json}

lemma eq_or_mem_of_mem_insert (h : m ∈ insert key v members) : m = (key, v) ∨ m ∈ members := by
  induction members with
  | nil => exact .inl (List.mem_singleton.mp h)
  | cons n members ih =>
      obtain ⟨k, w⟩ := n
      rw [insert] at h
      split_ifs at h
      · rcases List.mem_cons.mp h with rfl | hrest
        · exact .inl rfl
        · exact .inr (List.mem_cons_of_mem _ hrest)
      · exact List.mem_cons.mp h
      · rcases List.mem_cons.mp h with rfl | hrest
        · exact .inr List.mem_cons_self
        · exact (ih hrest).imp_right (List.mem_cons_of_mem _)

/-- Nothing is added to members that are put in order. -/
lemma mem_of_mem_sortMembers (h : m ∈ sortMembers members) : m ∈ members := by
  have hall : ∀ n ∈ sortMembers members, n ∈ members := by
    rw [sortMembers]
    refine List.foldlRecOn (motive := fun sorted => ∀ n ∈ sorted, n ∈ members) members _
      (fun n hn => absurd hn List.not_mem_nil) fun sorted hsorted added hadded n hn => ?_
    rcases eq_or_mem_of_mem_insert hn with rfl | hbefore
    · exact hadded
    · exact hsorted n hbefore
  exact hall m h

end Json

lemma Toml.membersToJson_eq_map (members : List (String × Toml)) :
    Toml.membersToJson members = members.map fun m => (m.1, m.2.toJson) := by
  induction members with
  | nil => rfl
  | cons m rest ih => rw [Toml.membersToJson, List.map_cons, ih]

lemma Toml.IsBounded.toJson {v : Toml} (h : v.IsBounded) : v.toJson.IsBounded := by
  induction h with
  | text s => exact .text s
  | integer h => exact .integer h
  | real literal => exact .real .zero
  | bool b => exact .bool b
  | moment literal => exact .object (List.forall_mem_singleton.mpr (.text literal))
  | array _ ih | tables _ ih =>
      rw [Toml.toJson, Toml.itemsToJson_eq_map]
      exact .list (List.forall_mem_map.mpr ih)
  | table _ ih =>
      rw [Toml.toJson, Toml.membersToJson_eq_map]
      refine .object fun m hm => ?_
      obtain ⟨n, hn, rfl⟩ := List.mem_map.mp (Json.mem_of_mem_sortMembers hm)
      exact ih n hn

/-! ## Reading -/

namespace Json

variable {α β : Type} {P : α → Prop} {Q : β → Prop}

/-- What a shape reads from a bounded value has a property. -/
def Shape.Ensures (P : α → Prop) (shape : Shape α) : Prop :=
  ∀ v a, v.IsBounded → shape v = .ok a → P a

/-- What fields read from bounded values has a property. -/
structure Fields.Ensures (P : α → Prop) (f : Fields α) : Prop where
  ofMembers : ∀ members a, (∀ m ∈ members, m.2.IsBounded) → f.ofMembers members = .ok a → P a
  ofItems : ∀ index short items a rest, (∀ v ∈ items, v.IsBounded) →
    f.ofItems index short items = .ok (a, rest) → P a ∧ ∀ v ∈ rest, v.IsBounded

lemma Shape.ensures_true (shape : Shape α) : shape.Ensures fun _ => True := fun _ _ _ _ => trivial

lemma Shape.ensures_word (limit : Nat) (wanted : Wanted) :
    Shape.Ensures Toml.Fits fun v => (unsigned limit wanted v).map UInt64.ofNat := by
  intro v n hv hread
  obtain ⟨k, hk, rfl⟩ := exists_of_map_eq_ok hread
  cases hv with
  | integer hword =>
      rw [unsigned] at hk
      split_ifs at hk
      cases hk
      have hmax : Int64.maxValue.toInt = 2 ^ 63 - 1 := by decide
      obtain ⟨-, hle⟩ := hword
      rw [Toml.Fits, UInt64.toNat_ofNat']
      have hsmall := Nat.mod_le (Int.toNat ‹Int›) (2 ^ 64)
      omega
  | _ => cases hk

namespace Fields

lemma ensures_field {shape : Shape α} (h : shape.Ensures P) (key : String) {absent : Option α}
    (habsent : ∀ a, absent = some a → P a) : (field key absent shape).Ensures P where
  ofMembers members a hmembers hread := by
    cases hfind : find? key members with
    | some v =>
        simp only [field, hfind] at hread
        exact h v a (hmembers _ (mem_of_find? hfind)) hread
    | none =>
        cases absent <;> simp only [field, hfind] at hread <;> cases hread
        exact habsent _ rfl
  ofItems index short items a rest hitems hread := by
    cases items with
    | cons v later =>
        obtain ⟨b, hb, heq⟩ := exists_of_map_eq_ok hread
        cases heq
        obtain ⟨hv, hrest⟩ := List.forall_mem_cons.mp hitems
        exact ⟨h v a hv hb, hrest⟩
    | nil =>
        cases absent <;> cases hread
        exact ⟨habsent _ rfl, hitems⟩

/-- Fields without a property. -/
lemma ensures_any {shape : Shape α} (key : String) (absent : Option α) :
    (field key absent shape).Ensures fun _ => True :=
  ensures_field shape.ensures_true key fun _ _ => trivial

lemma Ensures.seq {f : Fields (α → β)} {g : Fields α} (hf : f.Ensures fun k => ∀ a, P a → Q (k a))
    (hg : g.Ensures P) : (f <*> g).Ensures Q where
  ofMembers members b hmembers hread := by
    rw [ofMembers_seq_eq] at hread
    obtain ⟨k, hk, hrest⟩ := exists_of_bind_eq_ok hread
    obtain ⟨a, ha, rfl⟩ := exists_of_map_eq_ok hrest
    exact hf.ofMembers members k hmembers hk a (hg.ofMembers members a hmembers ha)
  ofItems index short items b rest hitems hread := by
    rw [ofItems_seq_eq] at hread
    obtain ⟨⟨k, later⟩, hk, hrest⟩ := exists_of_bind_eq_ok hread
    obtain ⟨⟨a, left⟩, ha, heq⟩ := exists_of_map_eq_ok hrest
    cases heq
    obtain ⟨hkeep, hlater⟩ := hf.ofItems index short items k later hitems hk
    obtain ⟨hP, hleft⟩ := hg.ofItems _ short later a _ hlater ha
    exact ⟨hkeep a hP, hleft⟩

lemma Ensures.map {k : α → β} {g : Fields α} (hg : g.Ensures P) (hk : ∀ a, P a → Q (k a)) :
    (k <$> g).Ensures Q := by
  have hnothing : (nothing k).Ensures fun k => ∀ a, P a → Q (k a) := by
    refine ⟨fun members b _ hread => ?_, fun _ _ _ b _ hitems hread => ?_⟩
    · cases hread
      exact hk
    · cases hread
      exact ⟨hk, hitems⟩
  exact hnothing.seq hg

end Fields

lemma Shape.ensures_record {f : Fields α} (h : f.Ensures P) (name : String) :
    (Shape.record name f).Ensures P := by
  intro v a hv hread
  cases hv with
  | object hmembers =>
      rw [Shape.record] at hread
      split at hread
      · cases hread
      · exact h.ofMembers _ a hmembers hread
  | list hitems =>
      rw [Shape.record] at hread
      obtain ⟨⟨b, rest⟩, hb, hrest⟩ := exists_of_bind_eq_ok hread
      dsimp only at hrest
      split_ifs at hrest
      cases hrest
      exact (h.ofItems _ _ _ a rest hitems hb).1
  | _ => cases hread

end Json

/-! ## The three tables -/

section Tables

open Toml (Fits)

lemma Json.Shape.ensures_word64 : Shape.word64.Ensures Fits := ensures_word _ _

lemma Json.Shape.ensures_wordSize : Shape.wordSize.Ensures Fits := ensures_word _ _

/-- A word that may be absent. -/
lemma Json.Fields.ensures_word {shape : Shape UInt64} (h : shape.Ensures Fits) (key : String)
    {standard : UInt64} (hstandard : Fits standard) :
    (defaulted key standard shape).Ensures Fits :=
  ensures_field h key fun _ heq => Option.some.inj heq ▸ hstandard

/-- The words of a connection's settings. -/
def ConnectionConfig.words (c : ConnectionConfig) : List UInt64 :=
  [c.keepaliveSecs, c.receiveBufferSize, c.watchdogTimeoutSecs]

/-- The words of the dispatcher's settings. -/
def DispatchConfig.words (c : DispatchConfig) : List UInt64 :=
  [c.workerThreads, c.keepAliveSecs, c.queueWarningThreshold, c.shutdownGraceSecs]

lemma ConnectionConfig.ensures_shape :
    ConnectionConfig.shape.Ensures fun c => ∀ n ∈ c.words, Fits n := by
  refine Shape.ensures_record ?_ _
  refine .seq (.seq (.seq (.seq (.seq (.seq (.seq (.seq (.seq (.seq (.map
    (Fields.ensures_any _ _) ?_) (Fields.ensures_any _ _)) (Fields.ensures_any _ _))
    (Fields.ensures_any _ _)) (Fields.ensures_any _ _)) (Fields.ensures_any _ _))
    (Fields.ensures_any _ _)) (Fields.ensures_word Shape.ensures_word64 _ (by decide)))
    (Fields.ensures_word Shape.ensures_wordSize _ (by decide)))
    (Fields.ensures_word Shape.ensures_word64 _ (by decide))) (Fields.ensures_any _ _)
  intro _ _ _ _ _ _ _ _ _ _ _ _ _ _ keepalive hkeepalive buffer hbuffer timeout htimeout _ _
  exact List.forall_mem_cons.mpr
    ⟨hkeepalive, List.forall_mem_cons.mpr ⟨hbuffer, List.forall_mem_singleton.mpr htimeout⟩⟩

lemma DispatchConfig.ensures_shape :
    DispatchConfig.shape.Ensures fun c => ∀ n ∈ c.words, Fits n := by
  refine Shape.ensures_record ?_ _
  refine .seq (.seq (.seq (.seq (.map
    (Fields.ensures_word Shape.ensures_wordSize _ (by decide)) ?_)
    (Fields.ensures_word Shape.ensures_word64 _ (by decide)))
    (Fields.ensures_word Shape.ensures_wordSize _ (by decide)))
    (Fields.ensures_word Shape.ensures_word64 _ (by decide))) (Fields.ensures_any _ _)
  intro threads hthreads keep hkeep warn hwarn grace hgrace _ _
  exact List.forall_mem_cons.mpr ⟨hthreads, List.forall_mem_cons.mpr
    ⟨hkeep, List.forall_mem_cons.mpr ⟨hwarn, List.forall_mem_singleton.mpr hgrace⟩⟩⟩

lemma DispatchConfig.fits_standard : ∀ n ∈ standard.words, Fits n := by
  simp only [words, List.forall_mem_cons]
  exact ⟨by decide, by decide, by decide, by decide, nofun⟩

lemma WhitelistConfig.ensures_shape :
    WhitelistConfig.shape.Ensures fun c => Fits c.refreshMinutes := by
  refine Shape.ensures_record ?_ _
  refine .seq (.map (Fields.ensures_any _ _) ?_)
    (Fields.ensures_word Shape.ensures_word64 _ (by decide))
  exact fun location _ minutes hminutes => hminutes

end Tables

/-! ## All settings -/

namespace Config

variable {path : String} {file : FileContent} {c : Config}

lemma ensures_shape : Config.shape.Ensures fun c => ∀ n ∈ c.words, Toml.Fits n := by
  refine Shape.ensures_record ?_ _
  refine .seq (.seq (.map (Fields.ensures_field ConnectionConfig.ensures_shape _ nofun) ?_)
    (Fields.ensures_field DispatchConfig.ensures_shape _ ?_))
    (Fields.ensures_field WhitelistConfig.ensures_shape _ ?_)
  · intro connection hconnection dispatch hdispatch whitelist hwhitelist n hn
    have hwords : (Config.mk connection dispatch whitelist).words
        = connection.words ++ dispatch.words ++ [whitelist.refreshMinutes] := rfl
    rw [hwords] at hn
    rcases List.mem_append.mp hn with hn | hn
    · exact (List.mem_append.mp hn).elim (hconnection n) (hdispatch n)
    · rw [List.mem_singleton.mp hn]
      exact hwhitelist
  · rintro _ ⟨⟩
    exact DispatchConfig.fits_standard
  · rintro _ ⟨⟩
    decide

/-- What settings are loaded from, and the rules that they keep. -/
lemma exists_of_ofFile? (h : ofFile? path file = .ok c) :
    (∃ text root, Toml.read? text = some root ∧ Config.shape root.toJson = .ok c)
      ∧ c.check? = none := by
  cases file with
  | octets bs =>
      rw [ofFile?] at h
      split at h
      · cases h
      · next cs hcs =>
        split at h
        · next d hd =>
          obtain ⟨root, hroot, hshape⟩ := Option.map_eq_some_iff.mp hd
          split at h
          · cases h
          · next hcheck =>
            cases h
            exact ⟨⟨_, root, hroot, hshape⟩, hcheck⟩
        · cases h
  | _ => cases h

/-- **All words of settings that are loaded fit** into integers of their document. -/
theorem fits_of_ofFile? (h : ofFile? path file = .ok c) : ∀ n ∈ c.words, Toml.Fits n := by
  obtain ⟨⟨text, root, hread, hshape⟩, -⟩ := exists_of_ofFile? h
  exact ensures_shape root.toJson c (Toml.isBounded_of_read? hread).toJson hshape

/-- Settings that are loaded can be saved. -/
theorem toFile?_of_ofFile? (h : ofFile? path file = .ok c) : c.toFile? = .ok c.toToml.write := by
  have hfits : c.words.all (fun n => (n.toNat : Int) ≤ Int64.maxValue.toInt) = true :=
    List.all_eq_true.mpr fun n hn => decide_eq_true (fits_of_ofFile? h n hn)
  rw [toFile?, (exists_of_ofFile? h).2, hfits]
  rfl

end Config

end ReviewStream
