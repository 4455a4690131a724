import Mathlib.Data.List.Nodup
import ReviewStream.Proofs.Json.Slot

/-!
# What records do not list

A layout tells where the records in a value are and which keys each of them lists.  A value may be
edited without regard to what is listed: a member with a key that its record does not list is added,
changed or removed, in any record at any depth.  A shape respects a layout if it reads a value as
the same data, or names the same fault, before and after each such edit.

* `Json.Layout`, `Json.Layout.Edit`: the places of records, and one edit of a value.
* `Json.Shape.Respects`: to read a value alike before and after every edit.
* `Json.Fields.Respects`: to be the fields of a record that lists given entries, in their order.
* `Json.Shape.respects_leaf`, `Json.Shape.Respects.nullable`, `Json.Shape.Respects.items`: what is
  inside no record, what may be null, and lists.
* **`Json.Shape.respects_record`**: a record respects what its fields respect, and itself.
-/

namespace ReviewStream.Json

variable {α β : Type} {key : String} {v w : Json}

/-! ## Layouts -/

/-- Where the records in a value are, and what each of them lists. -/
inductive Layout where
  /-- A value that is read without a record. -/
  | leaf
  /-- A list of values of one layout. -/
  | items (item : Layout)
  /-- A record with the keys that it lists, in the order of declaration, and with the layouts of
  what is under them. -/
  | record (fields : List (String × Layout))

/-- One edit of a value that touches nothing that a record lists. -/
inductive Layout.Edit : Layout → Json → Json → Prop where
  | add {fields : List (String × Layout)} {before after : List (String × Json)} {key : String}
      {v : Json} (unlisted : key ∉ fields.map Prod.fst) :
      Edit (.record fields) (.object (before ++ after)) (.object (before ++ (key, v) :: after))
  | change {fields : List (String × Layout)} {before after : List (String × Json)} {key : String}
      {v w : Json} (unlisted : key ∉ fields.map Prod.fst) :
      Edit (.record fields) (.object (before ++ (key, v) :: after))
        (.object (before ++ (key, w) :: after))
  | remove {fields : List (String × Layout)} {before after : List (String × Json)} {key : String}
      {v : Json} (unlisted : key ∉ fields.map Prod.fst) :
      Edit (.record fields) (.object (before ++ (key, v) :: after)) (.object (before ++ after))
  /-- An edit of what is under a key that is listed. -/
  | member {fields : List (String × Layout)} {before after : List (String × Json)} {key : String}
      {layout : Layout} {v w : Json} (listed : (key, layout) ∈ fields) (inside : Edit layout v w) :
      Edit (.record fields) (.object (before ++ (key, v) :: after))
        (.object (before ++ (key, w) :: after))
  /-- An edit of what is at the place of a listed key, in a record that is written as a list. -/
  | place {fields : List (String × Layout)} {before after : List Json} {key : String}
      {layout : Layout} {v w : Json} (listed : fields[before.length]? = some (key, layout))
      (inside : Edit layout v w) :
      Edit (.record fields) (.list (before ++ v :: after)) (.list (before ++ w :: after))
  | item {item : Layout} {before after : List Json} {v w : Json} (inside : Edit item v w) :
      Edit (.items item) (.list (before ++ v :: after)) (.list (before ++ w :: after))

variable {fields entries : List (String × Layout)}

lemma Layout.Edit.ne_null {layout : Layout} (h : layout.Edit v w) : v ≠ .null ∧ w ≠ .null := by
  cases h <;> exact ⟨nofun, nofun⟩

lemma find?_append (key : String) (front back : List (String × Json)) :
    find? key (front ++ back) = (find? key front).or (find? key back) := by
  induction front with
  | nil => rfl
  | cons m front ih =>
      rw [List.cons_append, find?, find?, ih]
      split_ifs <;> rfl

/-- What is under a key is not touched if it is inside no record. -/
lemma Layout.Edit.get?_eq (h : (Layout.record fields).Edit v w) (hlisted : (key, .leaf) ∈ fields)
    (hkeys : (fields.map Prod.fst).Nodup) : v.get? key = w.get? key := by
  have hmem : key ∈ fields.map Prod.fst := List.mem_map_of_mem hlisted
  have hadd (before after : List (String × Json)) {k : String} (u : Json)
      (hk : k ∉ fields.map Prod.fst) :
      find? key (before ++ (k, u) :: after) = find? key (before ++ after) := by
    have hne : k ≠ key := fun heq => hk (heq ▸ hmem)
    rw [find?_append, find?_append, find?, if_neg hne]
  cases h with
  | add unlisted => exact (hadd _ _ _ unlisted).symm
  | change unlisted => exact (hadd _ _ _ unlisted).trans (hadd _ _ _ unlisted).symm
  | remove unlisted => exact hadd _ _ _ unlisted
  | @member _ before after k layout v w listed inside =>
      refine find?_append_cons_ne (fun heq => ?_) _ _ _ _
      subst heq
      cases List.inj_on_of_nodup_map hkeys listed hlisted rfl
      cases inside
  | place => rfl

/-! ## Shapes -/

/-- A value is read alike before and after every edit. -/
def Shape.Respects (shape : Shape α) (layout : Layout) : Prop :=
  ∀ v w, layout.Edit v w → shape v = shape w

namespace Shape

lemma respects_leaf (shape : Shape α) : shape.Respects .leaf := nofun

lemma Respects.nullable {shape : Shape α} {layout : Layout} (h : shape.Respects layout) :
    shape.nullable.Respects layout := by
  intro v w hedit
  have hread : ∀ u, u ≠ .null → shape.nullable u = (shape u).map some := by
    intro u hu
    cases u with
    | null => exact absurd rfl hu
    | _ => rfl
  obtain ⟨hv, hw⟩ := hedit.ne_null
  rw [hread v hv, hread w hw, h v w hedit]

lemma Respects.items {shape : Shape α} {item : Layout} (h : shape.Respects item) :
    shape.items.Respects (.items item) := by
  intro v w hedit
  cases hedit with
  | item inside =>
      rw [Shape.items, Shape.items, List.mapM_append, List.mapM_append, List.mapM_cons,
        List.mapM_cons, h _ _ inside]

end Shape

/-! ## Fields -/

/-- What is under a key is edited as every entry for the key has it. -/
def EditsUnder (entries : List (String × Layout)) (key : String) (v w : Json) : Prop :=
  ∀ layout, (key, layout) ∈ entries → layout.Edit v w

/-- Some fields are those of a record that lists given entries, and read alike before and after
every edit. -/
structure Fields.Respects (f : Fields α) (entries : List (String × Layout)) : Prop where
  count_eq : f.count = entries.length
  takesEach : f.TakesEach
  fault?_of_unlisted : ∀ key v, key ∉ entries.map Prod.fst → f.fault? key v = none
  ofMembers_of_unlisted : ∀ before after key v, key ∉ entries.map Prod.fst →
    f.ofMembers (before ++ (key, v) :: after) = f.ofMembers (before ++ after)
  fault?_eq : ∀ key v w, EditsUnder entries key v w → f.fault? key v = f.fault? key w
  ofMembers_eq : ∀ before after key v w, EditsUnder entries key v w →
    f.ofMembers (before ++ (key, v) :: after) = f.ofMembers (before ++ (key, w) :: after)
  ofItems_eq : ∀ index short before after key layout v w,
    entries[before.length]? = some (key, layout) → layout.Edit v w →
    f.ofItems index short (before ++ v :: after) = f.ofItems index short (before ++ w :: after)

namespace Fields

lemma respects_nothing (a : α) : (nothing a).Respects [] where
  count_eq := rfl
  takesEach := takesEach_nothing a
  fault?_of_unlisted _ _ _ := rfl
  ofMembers_of_unlisted _ _ _ _ _ := rfl
  fault?_eq _ _ _ _ := rfl
  ofMembers_eq _ _ _ _ _ _ := rfl
  ofItems_eq _ _ _ _ _ _ _ _ := nofun

/-- What a field reads depends on what is found under its key only. -/
lemma ofMembers_field_congr {absent : Option α} {shape : Shape α}
    {members others : List (String × Json)}
    (h : (find? key members).map shape = (find? key others).map shape) :
    (field key absent shape).ofMembers members = (field key absent shape).ofMembers others := by
  rw [field]
  dsimp only
  cases hmembers : find? key members with
  | none =>
      rw [hmembers, Option.map_none, eq_comm, Option.map_eq_none_iff] at h
      rw [h]
  | some v =>
      rw [hmembers, Option.map_some, eq_comm, Option.map_eq_some_iff] at h
      obtain ⟨w, hw, hread⟩ := h
      rw [hw]
      exact hread.symm

lemma respects_field (key : String) {layout : Layout} {shape : Shape α}
    (h : shape.Respects layout) (absent : Option α) :
    (field key absent shape).Respects [(key, layout)] where
  count_eq := rfl
  takesEach := takesEach_field key absent shape
  fault?_of_unlisted k v hk := if_neg fun heq : k = key => hk (heq ▸ List.mem_singleton_self _)
  ofMembers_of_unlisted before after k v hk := by
    have hne : k ≠ key := fun heq => hk (heq ▸ List.mem_singleton_self _)
    refine ofMembers_field_congr ?_
    rw [find?_append, find?_append, find?, if_neg hne]
  fault?_eq k v w hedits := by
    by_cases hkey : k = key
    · subst hkey
      have hread : shape v = shape w := h v w (hedits layout (List.mem_singleton_self _))
      simp only [field, hread]
    · exact (if_neg hkey).trans (if_neg hkey).symm
  ofMembers_eq before after k v w hedits := by
    refine ofMembers_field_congr ?_
    by_cases hkey : k = key
    · subst hkey
      have hread : shape v = shape w := h v w (hedits layout (List.mem_singleton_self _))
      rw [find?_append, find?_append, find?, find?, if_pos rfl, if_pos rfl]
      cases find? k before with
      | some u => rfl
      | none => exact congrArg some hread
    · rw [find?_append_cons_ne hkey before after v w]
  ofItems_eq index short before after k l v w hlisted hedit := by
    cases before with
    | nil =>
        cases hlisted
        simp only [field, List.nil_append, h v w hedit]
    | cons u before =>
        simp only [field, List.cons_append]
        cases hlisted

variable {f : Fields (α → β)} {g : Fields α} {later : List (String × Layout)}

lemma Respects.seq (hf : f.Respects entries) (hg : g.Respects later) :
    (f <*> g).Respects (entries ++ later) where
  count_eq := by
    rw [List.length_append, ← hf.count_eq, ← hg.count_eq]
    rfl
  takesEach := hf.takesEach.seq hg.takesEach
  fault?_of_unlisted key v hkey := by
    rw [List.map_append, List.mem_append, not_or] at hkey
    rw [fault?_seq_eq, hf.fault?_of_unlisted key v hkey.1, hg.fault?_of_unlisted key v hkey.2,
      Option.or_none]
  ofMembers_of_unlisted before after key v hkey := by
    rw [List.map_append, List.mem_append, not_or] at hkey
    rw [ofMembers_seq_eq, ofMembers_seq_eq, hf.ofMembers_of_unlisted before after key v hkey.1,
      hg.ofMembers_of_unlisted before after key v hkey.2]
  fault?_eq key v w hedits := by
    rw [fault?_seq_eq, fault?_seq_eq,
      hf.fault?_eq key v w fun l hl => hedits l (List.mem_append_left _ hl),
      hg.fault?_eq key v w fun l hl => hedits l (List.mem_append_right _ hl)]
  ofMembers_eq before after key v w hedits := by
    rw [ofMembers_seq_eq, ofMembers_seq_eq,
      hf.ofMembers_eq before after key v w fun l hl => hedits l (List.mem_append_left _ hl),
      hg.ofMembers_eq before after key v w fun l hl => hedits l (List.mem_append_right _ hl)]
  ofItems_eq index short before after key layout v w hlisted hedit := by
    rw [ofItems_seq_eq, ofItems_seq_eq]
    by_cases hfront : before.length < entries.length
    · rw [List.getElem?_append_left hfront] at hlisted
      rw [hf.ofItems_eq index short before after key layout v w hlisted hedit]
    · -- The first fields take items before the edited one, which the others find in their rest.
      have hle : f.count ≤ before.length := by
        rw [hf.count_eq]
        omega
      obtain ⟨r, hr⟩ := hf.takesEach index short (before.take f.count) (by
        rw [List.length_take]
        omega)
      have hsplit (u : Json) :
          before ++ u :: after = before.take f.count ++ (before.drop f.count ++ u :: after) := by
        rw [← List.append_assoc, List.take_append_drop]
      have hplace : later[(before.drop f.count).length]? = some (key, layout) := by
        rw [List.getElem?_append_right (by omega)] at hlisted
        rw [List.length_drop, hf.count_eq, hlisted]
      rw [hsplit v, hsplit w, hr, hr]
      cases r with
      | error e => rfl
      | ok k =>
          change (g.ofItems _ short (before.drop f.count ++ v :: after)).map _
            = (g.ofItems _ short (before.drop f.count ++ w :: after)).map _
          rw [hg.ofItems_eq _ short _ after key layout v w hplace hedit]

lemma Respects.map (k : α → β) (hg : g.Respects entries) : (k <$> g).Respects entries :=
  Respects.seq (f := .nothing k) (respects_nothing k) hg

/-- One more field, whose values are read without a record. -/
lemma Respects.seqLeaf {shape : Shape α} (hf : f.Respects entries) (key : String)
    (absent : Option α) : (f <*> field key absent shape).Respects (entries ++ [(key, .leaf)]) :=
  hf.seq (respects_field key (Shape.respects_leaf shape) absent)

end Fields

/-! ## Records -/

/-- A member that is not listed has no part in what a record is read as. -/
lemma Fields.Respects.record_add {f : Fields α} (h : f.Respects fields) (name : String)
    (before after : List (String × Json)) (v : Json) (hkey : key ∉ fields.map Prod.fst) :
    Shape.record name f (.object (before ++ (key, v) :: after))
      = Shape.record name f (.object (before ++ after)) := by
  rw [Shape.record, Shape.record, firstFault?_append, firstFault?_append, firstFault?,
    h.fault?_of_unlisted key v hkey, Option.none_or,
    h.ofMembers_of_unlisted before after key v hkey]

/-- **A record is read alike before and after every edit**, its own ones and those inside its
fields. -/
theorem Shape.respects_record {f : Fields α} (h : f.Respects fields)
    (hkeys : (fields.map Prod.fst).Nodup) (name : String) :
    (Shape.record name f).Respects (.record fields) := by
  intro v w hedit
  cases hedit with
  | add unlisted => exact (h.record_add name _ _ _ unlisted).symm
  | change unlisted =>
      exact (h.record_add name _ _ _ unlisted).trans (h.record_add name _ _ _ unlisted).symm
  | remove unlisted => exact h.record_add name _ _ _ unlisted
  | @member _ before after key layout v w listed inside =>
      have hedits : EditsUnder fields key v w := by
        intro other hother
        cases List.inj_on_of_nodup_map hkeys listed hother rfl
        exact inside
      rw [Shape.record, Shape.record, Fields.firstFault?_append, Fields.firstFault?_append,
        Fields.firstFault?, Fields.firstFault?, h.fault?_eq key v w hedits,
        h.ofMembers_eq before after key v w hedits]
  | @place _ before after key layout v w listed inside =>
      rw [Shape.record, Shape.record,
        h.ofItems_eq 0 _ before after key layout v w listed inside, List.length_append,
        List.length_append, List.length_cons, List.length_cons]

end ReviewStream.Json
