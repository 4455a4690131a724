import ReviewStream.Event.Decode
import ReviewStream.Event.Record
import ReviewStream.Proofs.Json.Place

/-!
# How an event is read

A record reads its fields from the members of an object, each under its own key.  The type of an
event decides which record is read and what kind is made of it.  Thirteen types read the same
record, that of an event about a change, and differ in what they keep of it.

* `Json.Fields.ofMembers_seq`: what is read as a record is read field by field.
* `EventKind.modelled`: the names of the types that have a record.
* `ChangeRecord.Makes`: what all kinds have in common that are made of the record of a change.
* `EventKind.ReadAs`: the kind that the record of a type makes of a value.
* **`EventKind.readAs_of_ofJson?`**: what is decoded under a modelled name is read in that way.
* `EventKind.ofJson?_eq_ok_or_data`, `EventKind.ofJson?_of_not_mem_modelled`: nothing but bad data
  is in the way of a kind; under a name that is not modelled nothing at all is.
* `Event.ofJson?_of_type`: an object with a type is decoded under the name of its type.
-/

namespace ReviewStream

open Json (Shape Fields Fault)

/-- Where the object of an event has the event's project. -/
def EventKind.projectPath : EventKind → List String
  | .changed .. | .commentAdded .. | .reviewerAdded .. | .topicChanged .. | .hashtagsChanged ..
  | .voteDeleted .. | .mergeFailed .. => ["change", "project"]
  | .refUpdated .. => ["refUpdate", "project"]
  | .projectCreated .. => ["projectName"]
  | .refReplicated .. | .other .. => ["project"]

/-! ## Records -/

section Results

variable {ε α β : Type} {x : Except ε α} {b : β}

lemma exists_of_bind_eq_ok {f : α → Except ε β} (h : x >>= f = .ok b) :
    ∃ a, x = .ok a ∧ f a = .ok b := by
  cases x with
  | error e => cases h
  | ok a => exact ⟨a, rfl, h⟩

lemma exists_of_map_eq_ok {f : α → β} (h : x.map f = .ok b) : ∃ a, x = .ok a ∧ f a = b := by
  cases x with
  | error e => cases h
  | ok a => exact ⟨a, rfl, Except.ok.inj h⟩

end Results

namespace Json

variable {α β : Type} {members : List (String × Json)} {key : String} {shape : Shape α}

/-- A record that is read field by field: what holds whenever the last field and those before it
are read holds when all of them are. -/
lemma Fields.ofMembers_seq {f : Fields (α → β)} {g : Fields α} {P : β → Prop}
    (h : ∀ k, f.ofMembers members = .ok k → ∀ a, g.ofMembers members = .ok a → P (k a)) :
    ∀ b, (f <*> g).ofMembers members = .ok b → P b := by
  intro b hb
  change (do let k ← f.ofMembers members; let a ← g.ofMembers members; pure (k a)) = .ok b at hb
  obtain ⟨k, hk, hrest⟩ := exists_of_bind_eq_ok hb
  obtain ⟨a, ha, hlast⟩ := exists_of_bind_eq_ok hrest
  cases hlast
  exact h k hk a ha

lemma Fields.ofMembers_map {f : α → β} {g : Fields α} {P : β → Prop}
    (h : ∀ a, g.ofMembers members = .ok a → P (f a)) :
    ∀ b, (f <$> g).ofMembers members = .ok b → P b := by
  refine Fields.ofMembers_seq (f := .nothing f) fun k hk a ha => ?_
  cases hk
  exact h a ha

/-- What holds of all that is read from the members of an object holds of its record. -/
lemma Shape.of_record {name : String} {f : Fields α} {a : α} {P : α → Prop}
    (h : Shape.record name f (.object members) = .ok a)
    (hfields : ∀ b, f.ofMembers members = .ok b → P b) : P a := by
  rw [Shape.record] at h
  split at h
  · cases h
  · exact hfields a h

/-- What is under a key is in a member of an object. -/
lemma exists_members_of_get? {v w : Json} (h : v.get? key = some w) :
    ∃ members, v = .object members ∧ find? key members = some w := by
  cases v with
  | object members => exact ⟨members, rfl, h⟩
  | _ => cases h

/-- A field that has to be present is there, under its key. -/
lemma Fields.exists_of_required {a : α} (h : (required key shape).ofMembers members = .ok a) :
    ∃ v, find? key members = some v ∧ shape v = .ok a := by
  cases hfind : find? key members with
  | none =>
      simp only [required, field, hfind] at h
      cases h
  | some v =>
      simp only [required, field, hfind] at h
      exact ⟨v, rfl, h⟩

/-- A field that may be absent or null is read from what is under its key. -/
lemma Fields.ofMembers_optional :
    (optional key shape).ofMembers members
      = (find? key members).elim (.ok none) shape.nullable := by
  cases hfind : find? key members with
  | none => simp only [optional, field, hfind, Option.elim]
  | some v => simp only [optional, field, hfind, Option.elim]

lemma Shape.text_eq_ok_iff {v : Json} {s : String} : Shape.text v = .ok s ↔ v = .text s := by
  cases v <;> simp [Shape.text]

lemma Fields.find?_of_requiredText {s : String}
    (h : (required key Shape.text).ofMembers members = .ok s) :
    find? key members = some (.text s) := by
  obtain ⟨v, hfind, htext⟩ := Fields.exists_of_required h
  rw [hfind, Shape.text_eq_ok_iff.mp htext]

/-- A text that may be absent or null is the text under the key. -/
lemma Fields.textAt?_of_optionalText {s? : Option String}
    (h : (optional key Shape.text).ofMembers members = .ok s?) :
    textAt? key (.object members) = s? := by
  rw [Fields.ofMembers_optional] at h
  rw [textAt?, get?]
  cases hfind : find? key members with
  | none =>
      rw [hfind] at h
      cases h
      rfl
  | some v =>
      rw [hfind] at h
      cases v with
      | null | text s =>
          cases h
          rfl
      | bool b | number n | list vs | object ms => cases h

end Json

/-! ## Kinds by their types -/

/-- The names of the types that have a record. -/
def EventKind.modelled : List String :=
  ["patchset-created", "change-merged", "change-abandoned", "change-restored", "change-deleted",
    "private-state-changed", "wip-state-changed", "comment-added", "reviewer-added",
    "topic-changed", "hashtags-changed", "vote-deleted", "merge-failed", "ref-updated",
    "ref-replicated", "project-created"]

lemma EventKind.map_fst_shapes : EventKind.shapes.map Prod.fst = EventKind.modelled := rfl

/-- Whether a kind is one that has a record. -/
def EventKind.IsModelled : EventKind → Prop
  | .other .. => False
  | _ => True

/-- The tag of a modelled kind is the name of its type. -/
lemma EventKind.tag_eq_typeName {kind : EventKind} (h : kind.IsModelled) :
    kind.tag = kind.typeName := by
  rw [EventKind.tag]
  cases kind with
  | changed action e =>
      rw [EventKind.variant, EventKind.typeName]
      cases action <;> rfl
  | other type payload => exact h.elim
  | _ =>
      rw [EventKind.variant, EventKind.typeName]
      rfl

/-- What the record of an event about a change is made into under a type. -/
structure ChangeRecord.Makes (type : String) (make : ChangeRecord → EventKind) : Prop where
  typeName : ∀ r, (make r).typeName = type
  modelled : ∀ r, (make r).IsModelled
  projectPath : ∀ r, (make r).projectPath = ["change", "project"]
  project : ∀ r, (make r).project? = some r.change.project
  /-- The only account that an event of an action keeps is that of the action's own role. -/
  account : ∀ r action e, make r = .changed action e → e.account = r.actor action

/-- The kind that the record of a type makes of a value. -/
inductive EventKind.ReadAs (v : Json) (type : String) : EventKind → Prop where
  | aboutChange {make : ChangeRecord → EventKind} {r : ChangeRecord}
      (hmake : ChangeRecord.Makes type make) (h : ChangeRecord.shape v = .ok r) :
      ReadAs v type (make r)
  | refUpdated {e : RefUpdated} (htype : type = "ref-updated")
      (h : RefUpdated.shape v = .ok e) : ReadAs v type (.refUpdated e)
  | refReplicated {e : RefReplicated} (htype : type = "ref-replicated")
      (h : RefReplicated.shape v = .ok e) : ReadAs v type (.refReplicated e)
  | projectCreated {e : ProjectCreated} (htype : type = "project-created")
      (h : ProjectCreated.shape v = .ok e) : ReadAs v type (.projectCreated e)

variable {v : Json} {type : String} {kind : EventKind} {shape : Shape EventKind}

/-- Every action keeps the account of its own role. -/
lemma ChangeRecord.makes_changed (action : ChangeAction) :
    ChangeRecord.Makes action.typeName fun r =>
      .changed action
        { change := r.change, patchSet := r.patchSet, account := r.actor action } where
  typeName _ := rfl
  modelled _ := trivial
  projectPath _ := rfl
  project _ := rfl
  account r _ e h := by
    cases h
    rfl

lemma EventKind.ReadAs.of_map {make : ChangeRecord → EventKind}
    (hmake : ChangeRecord.Makes type make) (h : (ChangeRecord.shape v).map make = .ok kind) :
    EventKind.ReadAs v type kind := by
  obtain ⟨r, hr, rfl⟩ := exists_of_map_eq_ok h
  exact .aboutChange hmake hr

lemma EventKind.readAs_of_mem_shapes (hmem : (type, shape) ∈ EventKind.shapes)
    (h : shape v = .ok kind) : EventKind.ReadAs v type kind := by
  rcases List.mem_append.mp hmem with haction | hother
  · obtain ⟨action, -, hentry⟩ := List.mem_map.mp haction
    cases hentry
    exact .of_map (ChangeRecord.makes_changed action) h
  · simp only [List.mem_cons, Prod.mk.injEq, List.not_mem_nil, or_false] at hother
    rcases hother with ⟨rfl, rfl⟩ | ⟨rfl, rfl⟩ | ⟨rfl, rfl⟩ | ⟨rfl, rfl⟩ | ⟨rfl, rfl⟩ |
      ⟨rfl, rfl⟩ | ⟨rfl, rfl⟩ | ⟨rfl, rfl⟩ | ⟨rfl, rfl⟩
    -- the six kinds about a change that are no actions
    iterate 6
      · refine .of_map ?_ h
        exact ⟨fun _ => rfl, fun _ => trivial, fun _ => rfl, fun _ => rfl, fun _ _ _ => nofun⟩
    all_goals obtain ⟨e, he, rfl⟩ := exists_of_map_eq_ok h
    · exact .refUpdated rfl he
    · exact .refReplicated rfl he
    · exact .projectCreated rfl he

/-! ## Decoding under a name -/

lemma EventKind.exists_shape_of_mem_modelled (htype : type ∈ EventKind.modelled) :
    ∃ shape, (type, shape) ∈ EventKind.shapes ∧
      ∀ v, EventKind.ofJson? type v = (shape v).mapError .data := by
  cases hlookup : EventKind.shapes.lookup type with
  | none =>
      rw [← EventKind.map_fst_shapes] at htype
      obtain ⟨entry, hmem, hname⟩ := List.mem_map.mp htype
      have hne := List.lookup_eq_none_iff.mp hlookup entry hmem
      exact absurd hname.symm (by simpa using hne)
  | some shape =>
      obtain ⟨before, after, hshapes, -⟩ := List.lookup_eq_some_iff.mp hlookup
      refine ⟨shape, by simp [hshapes], fun v => ?_⟩
      rw [EventKind.ofJson?, hlookup]

/-- Under a name without a record the whole value is the payload. -/
lemma EventKind.ofJson?_of_not_mem_modelled (htype : type ∉ EventKind.modelled) (v : Json) :
    EventKind.ofJson? type v = .ok (.other type v) := by
  have hlookup : EventKind.shapes.lookup type = none := by
    refine List.lookup_eq_none_iff.mpr fun entry hmem => ?_
    have hname : entry.1 ∈ EventKind.modelled := by
      rw [← EventKind.map_fst_shapes]
      exact List.mem_map_of_mem hmem
    have hne : type ≠ entry.1 := fun heq => htype (heq ▸ hname)
    simpa using hne
  rw [EventKind.ofJson?, hlookup]

/-- Nothing but bad data is in the way of a kind. -/
lemma EventKind.ofJson?_eq_ok_or_data (type : String) (v : Json) :
    (∃ kind, EventKind.ofJson? type v = .ok kind) ∨
      ∃ fault, EventKind.ofJson? type v = .error (.data fault) := by
  by_cases htype : type ∈ EventKind.modelled
  · obtain ⟨shape, -, hread⟩ := EventKind.exists_shape_of_mem_modelled htype
    rw [hread]
    cases shape v with
    | ok kind => exact .inl ⟨kind, rfl⟩
    | error fault => exact .inr ⟨fault, rfl⟩
  · exact .inl ⟨_, EventKind.ofJson?_of_not_mem_modelled htype v⟩

/-- **What is decoded under a modelled name is what the record of the name makes of the value.** -/
theorem EventKind.readAs_of_ofJson? (htype : type ∈ EventKind.modelled)
    (h : EventKind.ofJson? type v = .ok kind) : EventKind.ReadAs v type kind := by
  obtain ⟨shape, hmem, hread⟩ := EventKind.exists_shape_of_mem_modelled htype
  rw [hread] at h
  cases hshape : shape v with
  | error fault =>
      rw [hshape] at h
      cases h
  | ok read =>
      rw [hshape] at h
      cases h
      exact EventKind.readAs_of_mem_shapes hmem hshape

/-- A kind is named by its type. -/
lemma EventKind.ReadAs.typeName_eq (h : EventKind.ReadAs v type kind) : kind.typeName = type := by
  cases h with
  | aboutChange hmake _ => exact hmake.typeName _
  | refUpdated htype _ => exact htype.symm
  | refReplicated htype _ => exact htype.symm
  | projectCreated htype _ => exact htype.symm

lemma EventKind.ReadAs.isModelled (h : EventKind.ReadAs v type kind) : kind.IsModelled := by
  cases h with
  | aboutChange hmake _ => exact hmake.modelled _
  | _ => trivial

/-- A kind is printed under the tag that is its type on the wire. -/
lemma EventKind.ReadAs.tag_eq (h : EventKind.ReadAs v type kind) : kind.tag = type :=
  (EventKind.tag_eq_typeName h.isModelled).trans h.typeName_eq

/-! ## Events -/

variable {provider : Option Provider}

lemma Json.textAt?_eq_some_iff {key s : String} :
    v.textAt? key = some s ↔ v.get? key = some (.text s) := by
  rw [Json.textAt?]
  cases v.get? key with
  | none => simp
  | some w => cases w <;> simp [Json.text?]

lemma Event.ofJson?_of_not_object (h : ∀ members, v ≠ .object members) :
    Event.ofJson? provider v = .error .notAnObject := by
  cases v with
  | object members => exact absurd rfl (h members)
  | _ => rfl

/-- An object without a text as its type is missing it, whatever else it has. -/
lemma Event.ofJson?_of_no_type {members : List (String × Json)} (hv : v = .object members)
    (h : ∀ type, v.get? "type" ≠ some (.text type)) :
    Event.ofJson? provider v = .error .missingType := by
  have htext : v.textAt? "type" = none := by
    refine Option.eq_none_iff_forall_ne_some.mpr fun type htype => ?_
    exact h type (Json.textAt?_eq_some_iff.mp htype)
  have hobject : v.isObject = true := hv ▸ rfl
  rw [Event.ofJson?, if_pos hobject, htext]

lemma Event.ofJson?_of_type (h : v.get? "type" = some (.text type)) :
    Event.ofJson? provider v =
      (EventKind.ofJson? type v).map fun kind =>
        { provider := provider, createdOn := createdOn? v, kind := kind } := by
  obtain ⟨members, hv, -⟩ := Json.exists_members_of_get? h
  have hobject : v.isObject = true := hv ▸ rfl
  rw [Event.ofJson?, if_pos hobject, Json.textAt?_eq_some_iff.mpr h]

/-- Only an object with a type is decoded. -/
lemma Event.exists_type_of_ofJson? {e : Event} (h : Event.ofJson? provider v = .ok e) :
    ∃ type, v.get? "type" = some (.text type) ∧ EventKind.ofJson? type v = .ok e.kind ∧
      e.provider = provider ∧ e.createdOn = createdOn? v := by
  by_cases hobject : ∃ members, v = .object members
  · obtain ⟨members, hv⟩ := hobject
    by_cases htype : ∃ type, v.get? "type" = some (.text type)
    · obtain ⟨type, htype⟩ := htype
      rw [Event.ofJson?_of_type htype] at h
      obtain ⟨kind, hkind, rfl⟩ := exists_of_map_eq_ok h
      exact ⟨type, htype, hkind, rfl, rfl⟩
    · rw [Event.ofJson?_of_no_type hv fun type heq => htype ⟨type, heq⟩] at h
      cases h
  · rw [Event.ofJson?_of_not_object fun members hv => hobject ⟨members, hv⟩] at h
    cases h

end ReviewStream
