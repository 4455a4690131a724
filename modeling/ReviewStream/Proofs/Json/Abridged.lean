import Mathlib.Tactic.ByContra
import ReviewStream.Proofs.Event.Kinds

/-!
# Records that are read again

A value abridges another one if it has the same content but may lack some of the nulls in its
objects, at any depth, and may have the members of its objects in another order.  A shape inverts a
way of writing data if it reads what is written, however abridged, as the data that were written.

* `Json.Abridges`: to say the same with fewer nulls.
* `Json.Shape.Inverts`: to read what is written, however abridged.
* `Json.Fields.Reads`: to read fields from the members of an object, none of which is bad.
* **`Json.Shape.record_of_reads`**: a record is read if all its fields are.
* `Json.Fields.reads_written`, `Json.Fields.reads_defaulted`, `Json.Fields.reads_optional`: a field
  is read if it is written, or if what is not written is its default.
-/

namespace ReviewStream.Json

variable {α β : Type} {members entries : List (String × Json)} {key : String} {v w : Json}

/-! ## Members by their keys -/

lemma mem_of_find? (h : find? key members = some v) : (key, v) ∈ members := by
  induction members with
  | nil => cases h
  | cons m rest ih =>
      obtain ⟨k, x⟩ := m
      rw [find?] at h
      split_ifs at h with hkey
      · cases h
        exact hkey ▸ List.mem_cons_self
      · exact List.mem_cons_of_mem _ (ih h)

lemma exists_find?_of_mem (h : (key, v) ∈ members) : ∃ w, find? key members = some w := by
  induction members with
  | nil => cases h
  | cons m rest ih =>
      obtain ⟨k, x⟩ := m
      rw [find?]
      split_ifs with hkey
      · exact ⟨x, rfl⟩
      · rcases List.mem_cons.mp h with heq | hrest
        · cases heq
          exact absurd rfl hkey
        · exact ih hrest

lemma find?_eq_none_of_not_mem (h : key ∉ members.map Prod.fst) : find? key members = none := by
  cases hfind : find? key members with
  | none => rfl
  | some v => exact absurd (List.mem_map_of_mem (mem_of_find? hfind)) h

/-- Where no key occurs twice, a member is what is found under its key. -/
lemma find?_of_mem (hkeys : (members.map Prod.fst).Nodup) (h : (key, v) ∈ members) :
    find? key members = some v := by
  induction members with
  | nil => cases h
  | cons m rest ih =>
      obtain ⟨k, x⟩ := m
      rw [List.map_cons, List.nodup_cons] at hkeys
      rcases List.mem_cons.mp h with heq | hrest
      · cases heq
        rw [find?, if_pos rfl]
      · have hmem : key ∈ rest.map Prod.fst := List.mem_map_of_mem hrest
        have hne : k ≠ key := by
          rintro rfl
          exact hkeys.1 hmem
        rw [find?, if_neg hne, ih hkeys.2 hrest]

/-! ## Abridged values -/

/-- A value says the same as another one, but may lack some of the nulls in its objects and may have
the members of its objects in another order. -/
inductive Abridges : Json → Json → Prop where
  | refl (v : Json) : Abridges v v
  | list {vs ws : List Json} (hlength : vs.length = ws.length)
      (hitems : ∀ (i : Nat) (v w : Json), vs[i]? = some v → ws[i]? = some w → Abridges v w) :
      Abridges (.list vs) (.list ws)
  /-- Every member abridges what the other object has under its key, and only nulls are left out. -/
  | object {members entries : List (String × Json)} (entry : String × Json → Json)
      (hentry : ∀ m ∈ members, find? m.1 entries = some (entry m))
      (habridges : ∀ m ∈ members, Abridges m.2 (entry m))
      (hkept : ∀ m ∈ entries, m.2 ≠ .null → m.1 ∈ members.map Prod.fst) :
      Abridges (.object members) (.object entries)

lemma Abridges.eq_null (h : Abridges v .null) : v = .null := by
  cases h
  rfl

lemma Abridges.ne_null (h : Abridges v w) (hw : w ≠ .null) : v ≠ .null := by
  rintro rfl
  cases h
  exact hw rfl

lemma Abridges.eq_text {s : String} (h : Abridges v (.text s)) : v = .text s := by
  cases h
  rfl

lemma Abridges.eq_int {i : Int} (h : Abridges v (.int i)) : v = .int i := by
  cases h
  rfl

lemma Abridges.exists_items {ws : List Json} (h : Abridges v (.list ws)) :
    ∃ vs, v = .list vs ∧ vs.length = ws.length
      ∧ ∀ (i : Nat) (v w : Json), vs[i]? = some v → ws[i]? = some w → Abridges v w := by
  cases h with
  | refl =>
      refine ⟨ws, rfl, rfl, fun i v w hv hw => ?_⟩
      obtain rfl := Option.some.inj (hv.symm.trans hw)
      exact .refl v
  | list hlength hitems => exact ⟨_, rfl, hlength, hitems⟩

/-- What the members of an object say that abridges another one. -/
structure Says (members entries : List (String × Json)) : Prop where
  entry : ∀ key v, (key, v) ∈ members → ∃ w, find? key entries = some w ∧ Abridges v w
  kept : ∀ m ∈ entries, m.2 ≠ .null → m.1 ∈ members.map Prod.fst

lemma Abridges.exists_members (hkeys : (entries.map Prod.fst).Nodup)
    (h : Abridges v (.object entries)) :
    ∃ members, v = .object members ∧ Says members entries := by
  cases h with
  | refl =>
      refine ⟨entries, rfl, fun key v hv => ?_, fun m hm _ => List.mem_map_of_mem hm⟩
      exact ⟨v, find?_of_mem hkeys hv, .refl v⟩
  | @object members _ entry hentry habridges hkept =>
      exact ⟨members, rfl, fun key v hv => ⟨_, hentry _ hv, habridges _ hv⟩, hkept⟩

/-- What is written under a key is found there, unless it is a null that was left out. -/
lemma Says.find? (h : Says members entries) (hwritten : Json.find? key entries = some w) :
    (∃ v, Json.find? key members = some v ∧ Abridges v w)
      ∨ Json.find? key members = none ∧ w = .null := by
  cases hfind : Json.find? key members with
  | some v =>
      obtain ⟨w', hw', habridges⟩ := h.entry key v (mem_of_find? hfind)
      obtain rfl := Option.some.inj (hw'.symm.trans hwritten)
      exact .inl ⟨v, rfl, habridges⟩
  | none =>
      refine .inr ⟨rfl, ?_⟩
      by_contra hnull
      obtain ⟨m, hm, rfl⟩ := List.mem_map.mp (h.kept _ (mem_of_find? hwritten) hnull)
      obtain ⟨x, hx⟩ := exists_find?_of_mem hm
      rw [hfind] at hx
      cases hx

/-- Nothing is found under a key under which nothing is written. -/
lemma Says.find?_eq_none (h : Says members entries) (hunwritten : Json.find? key entries = none) :
    Json.find? key members = none := by
  cases hfind : Json.find? key members with
  | none => rfl
  | some v =>
      obtain ⟨w, hw, -⟩ := h.entry key v (mem_of_find? hfind)
      rw [hunwritten] at hw
      cases hw

/-! ## Shapes that invert -/

/-- A shape reads what is written, however abridged, as what it was written for. -/
def Shape.Inverts (shape : Shape α) (write : α → Json) : Prop :=
  ∀ a v, Abridges v (write a) → shape v = .ok a

namespace Shape

/-- What inverts a way of writing data tells the data apart. -/
lemma Inverts.injective {shape : Shape α} {write : α → Json} (h : shape.Inverts write)
    {a b : α} (heq : write a = write b) : a = b := by
  have ha : shape (write a) = .ok a := h a _ (.refl _)
  have hb : shape (write b) = .ok b := h b _ (.refl _)
  rw [heq, hb] at ha
  exact (Except.ok.inj ha).symm

lemma inverts_text : Inverts text .text := by
  intro s v h
  rw [h.eq_text, text]

/-- What may be absent is read if what is there is not taken for null. -/
lemma Inverts.nullable {shape : Shape α} {write : α → Json} (h : shape.Inverts write)
    (hnull : ∀ a, write a ≠ .null) : Inverts shape.nullable (ofOption write) := by
  intro o v hv
  cases o with
  | none =>
      rw [hv.eq_null]
      rfl
  | some a =>
      have hread : shape v = .ok a := h a v hv
      have hne : v ≠ .null := hv.ne_null (hnull a)
      cases v with
      | null => exact absurd rfl hne
      | _ =>
          rw [Shape.nullable, hread]
          · rfl
          · simp

lemma mapM_eq_ok {shape : Shape α} : ∀ {vs : List Json} {as : List α}, vs.length = as.length →
    (∀ (i : Nat) (v : Json) (a : α), vs[i]? = some v → as[i]? = some a → shape v = .ok a) →
      vs.mapM shape = .ok as
  | [], [], _, _ => rfl
  | v :: vs, a :: as, hlength, h => by
      have hhead : shape v = .ok a := h 0 v a rfl rfl
      have htail : vs.mapM shape = .ok as :=
        mapM_eq_ok (Nat.succ.inj hlength) fun i w b hw hb => h (i + 1) w b hw hb
      rw [List.mapM_cons, hhead, htail]
      rfl

lemma Inverts.items {shape : Shape α} {write : α → Json} (h : shape.Inverts write) :
    Inverts shape.items fun as => .list (as.map write) := by
  intro as v hv
  obtain ⟨vs, rfl, hlength, hitems⟩ := hv.exists_items
  refine mapM_eq_ok (hlength.trans (List.length_map write)) fun i x a hx ha => ?_
  exact h a x (hitems i x (write a) hx (by rw [List.getElem?_map, ha]; rfl))

end Shape

/-! ## Fields that are read -/

/-- Some fields are read from the members of an object as given data, and no member is bad. -/
structure Fields.Reads (f : Fields α) (members : List (String × Json)) (a : α) : Prop where
  ofMembers : f.ofMembers members = .ok a
  fault? : ∀ m ∈ members, f.fault? m.1 m.2 = none

namespace Fields

lemma Reads.seq {f : Fields (α → β)} {g : Fields α} {k : α → β} {a : α}
    (hf : f.Reads members k) (hg : g.Reads members a) : (f <*> g).Reads members (k a) where
  ofMembers := by
    change (do let k ← f.ofMembers members; let a ← g.ofMembers members; pure (k a)) = _
    rw [hf.ofMembers, hg.ofMembers]
    rfl
  fault? m hm := by
    change (f.fault? m.1 m.2).or (g.fault? m.1 m.2) = none
    rw [hf.fault? m hm, hg.fault? m hm]
    rfl

lemma Reads.map {g : Fields α} {a : α} (k : α → β) (h : g.Reads members a) :
    (k <$> g).Reads members (k a) :=
  Reads.seq (f := .nothing k) ⟨rfl, fun _ _ => rfl⟩ h

lemma firstFault?_eq_none {f : Fields α} :
    ∀ {members : List (String × Json)}, (∀ m ∈ members, f.fault? m.1 m.2 = none) →
      f.firstFault? members = none
  | [], _ => rfl
  | m :: rest, h => by
      rw [firstFault?, h m List.mem_cons_self,
        firstFault?_eq_none fun n hn => h n (List.mem_cons_of_mem _ hn)]
      rfl

/-- A field is read from what is under its key, wherever that stands. -/
lemma reads_field {shape : Shape α} {absent : Option α} {a : α}
    (hthere : ∀ v, (key, v) ∈ members → shape v = .ok a)
    (habsent : Json.find? key members = none → absent = some a) :
    (field key absent shape).Reads members a where
  ofMembers := by
    cases hfind : Json.find? key members with
    | some v => simp only [field, hfind, hthere v (mem_of_find? hfind)]
    | none => simp only [field, hfind, habsent hfind]
  fault? m hm := by
    change (if m.1 = key then faultOf (shape m.2) else none) = none
    split_ifs with hkey
    · rw [hthere m.2 (hkey ▸ hm)]
      rfl
    · rfl

/-- A field that is written is read, also if it is a null that was left out. -/
lemma reads_written {shape : Shape α} {write : α → Json} {absent : Option α} {a : α}
    (hentries : Says members entries) (hinverts : shape.Inverts write)
    (hwritten : Json.find? key entries = some (write a))
    (hnull : write a = .null → absent = some a) : (field key absent shape).Reads members a := by
  refine reads_field (fun v hv => ?_) fun hnone => ?_
  · obtain ⟨w, hw, habridges⟩ := hentries.entry key v hv
    obtain rfl := Option.some.inj (hw.symm.trans hwritten)
    exact hinverts a v habridges
  · rcases hentries.find? hwritten with ⟨v, hv, -⟩ | ⟨-, hw⟩
    · rw [hnone] at hv
      cases hv
    · exact hnull hw

/-- A field with a default is read as what is written, or as the default if nothing is. -/
lemma reads_defaulted {shape : Shape α} {write : α → Json} {d a : α}
    (hentries : Says members entries) (hinverts : shape.Inverts write)
    (hnull : write a = .null → d = a)
    (hwritten : (Json.find? key entries).getD (write d) = write a) :
    (defaulted key d shape).Reads members a := by
  cases hfind : Json.find? key entries with
  | some w =>
      rw [hfind, Option.getD_some] at hwritten
      rw [hwritten] at hfind
      exact reads_written hentries hinverts hfind fun hw => congrArg some (hnull hw)
  | none =>
      rw [hfind, Option.getD_none] at hwritten
      obtain rfl := hinverts.injective hwritten
      refine reads_field (fun v hv => ?_) fun _ => rfl
      obtain ⟨w, hw⟩ := exists_find?_of_mem hv
      rw [hentries.find?_eq_none hfind] at hw
      cases hw

/-- A field that may be absent is read, whether it is there, null, left out or never written. -/
lemma reads_optional {shape : Shape α} {write : α → Json} {o : Option α}
    (hentries : Says members entries) (hinverts : shape.Inverts write)
    (hnull : ∀ a, write a ≠ .null)
    (hwritten : (Json.find? key entries).getD .null = ofOption write o) :
    (optional key shape).Reads members o := by
  refine reads_defaulted hentries (hinverts.nullable hnull) (fun hnone => ?_) hwritten
  cases o with
  | none => rfl
  | some a => exact absurd hnone (hnull a)

end Fields

/-- **A record is read from an object if all its fields are read and no member is bad.** -/
theorem Shape.record_of_reads {name : String} {f : Fields α} {a : α} (h : f.Reads members a) :
    Shape.record name f (.object members) = .ok a := by
  rw [Shape.record, Fields.firstFault?_eq_none h.fault?]
  exact h.ofMembers

/-- A shape of records inverts what all fields are read from. -/
lemma Shape.inverts_record {name : String} {f : Fields α} {write : α → List (String × Json)}
    (hkeys : ∀ a, ((write a).map Prod.fst).Nodup)
    (h : ∀ a members, Says members (write a) → f.Reads members a) :
    (Shape.record name f).Inverts fun a => .object (write a) := by
  intro a v hv
  obtain ⟨members, rfl, hentries⟩ := hv.exists_members (hkeys a)
  exact Shape.record_of_reads (h a members hentries)

end ReviewStream.Json
