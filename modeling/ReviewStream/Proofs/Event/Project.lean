import ReviewStream.Proofs.Event.Kinds

/-!
# Where the project of an event comes from

The project of an event is the text at the end of a path of keys that depends on the event's kind
alone.  A modelled kind has a text there as soon as what the path leads through is written as
objects: the records read the key as one that has to be present.

* `Json.exists_object_of_at?`: a path that leads to a value leads through an object.
* `EventKind.ReadAs.project`: a modelled kind has its project at the end of its path.
* **`Event.project?_of_ofJson?`**: a text at the end of the path is the event's project.
-/

namespace ReviewStream

open Json (Shape Fields)

/-! ## Paths -/

namespace Json

variable {key : String} {v w : Json}

lemma at?_cons {path : List String} : v.at? (key :: path) = (v.get? key).bind (at? path) := rfl

lemma at?_singleton : v.at? [key] = v.get? key := by
  cases hget : v.get? key <;> simp [hget, at?]

/-- A path that leads to a value leads through an object, which has the last key. -/
lemma exists_object_of_at? {path : List String} (hpath : path ≠ []) (h : v.at? path = some w) :
    ∃ inner, v.at? path.dropLast = some (.object inner) := by
  induction path generalizing v with
  | nil => exact absurd rfl hpath
  | cons key rest ih =>
      cases rest with
      | nil =>
          rw [at?_singleton] at h
          obtain ⟨members, rfl, -⟩ := exists_members_of_get? h
          exact ⟨members, rfl⟩
      | cons next rest =>
          obtain ⟨u, hu, hrest⟩ := Option.bind_eq_some_iff.mp h
          obtain ⟨inner, hinner⟩ := ih (List.cons_ne_nil next rest) hrest
          refine ⟨inner, ?_⟩
          rw [List.dropLast_cons_cons, at?_cons, hu]
          exact hinner

end Json

variable {v : Json} {members inner : List (String × Json)}

/-! ## Records -/

lemma Change.project_of_shape {c : Change} (h : Change.shape (.object members) = .ok c) :
    Json.find? "project" members = some (.text c.project) := by
  refine Shape.of_record (P := fun c => Json.find? "project" members = some (.text c.project)) h ?_
  rw [Change.fields]
  iterate 8 refine Fields.ofMembers_seq ?_
  refine Fields.ofMembers_map fun project hread => ?_
  intros
  exact Fields.find?_of_requiredText hread

/-- The change of a record is under its key. -/
lemma ChangeRecord.change_of_shape {r : ChangeRecord}
    (h : ChangeRecord.shape (.object members) = .ok r) :
    ∃ w, Json.find? "change" members = some w ∧ Change.shape w = .ok r.change := by
  refine Shape.of_record
    (P := fun r => ∃ w, Json.find? "change" members = some w ∧ Change.shape w = .ok r.change) h ?_
  rw [ChangeRecord.fields]
  iterate 19 refine Fields.ofMembers_seq ?_
  refine Fields.ofMembers_map fun change hread => ?_
  intros
  exact Fields.exists_of_required hread

lemma RefUpdate.project_of_shape {r : RefUpdate} (h : RefUpdate.shape (.object members) = .ok r) :
    Json.find? "project" members = some (.text r.project) := by
  refine Shape.of_record (P := fun r => Json.find? "project" members = some (.text r.project)) h ?_
  rw [RefUpdate.fields]
  iterate 3 refine Fields.ofMembers_seq ?_
  refine Fields.ofMembers_map fun _ _ _ _ _ _ project hread => ?_
  exact Fields.find?_of_requiredText hread

lemma RefUpdated.refUpdate_of_shape {e : RefUpdated}
    (h : RefUpdated.shape (.object members) = .ok e) :
    ∃ w, Json.find? "refUpdate" members = some w ∧ RefUpdate.shape w = .ok e.refUpdate := by
  refine Shape.of_record
    (P := fun e => ∃ w, Json.find? "refUpdate" members = some w ∧
      RefUpdate.shape w = .ok e.refUpdate) h ?_
  refine Fields.ofMembers_seq ?_
  refine Fields.ofMembers_map fun update hread _ _ => ?_
  exact Fields.exists_of_required hread

lemma RefReplicated.project_of_shape {e : RefReplicated}
    (h : RefReplicated.shape (.object members) = .ok e) :
    Json.find? "project" members = some (.text e.project) := by
  refine Shape.of_record (P := fun e => Json.find? "project" members = some (.text e.project)) h ?_
  iterate 3 refine Fields.ofMembers_seq ?_
  refine Fields.ofMembers_map fun project hread => ?_
  intros
  exact Fields.find?_of_requiredText hread

lemma ProjectCreated.project_of_shape {e : ProjectCreated}
    (h : ProjectCreated.shape (.object members) = .ok e) :
    Json.find? "projectName" members = some (.text e.projectName) := by
  refine Shape.of_record
    (P := fun e => Json.find? "projectName" members = some (.text e.projectName)) h ?_
  refine Fields.ofMembers_seq ?_
  refine Fields.ofMembers_map fun project hread _ _ => ?_
  exact Fields.find?_of_requiredText hread

/-! ## Kinds -/

/-- What is read from under a key is read from the object that a path through the key leads to. -/
lemma Json.exists_object_under {α : Type} {key : String} {shape : Shape α} {a : α}
    (h : ∃ w, find? key members = some w ∧ shape w = .ok a)
    (hinner : (Json.object members).at? [key] = some (.object inner)) :
    shape (.object inner) = .ok a ∧
      ∀ last, (Json.object members).at? [key, last] = find? last inner := by
  obtain ⟨w, hfind, hshape⟩ := h
  have hget : (Json.object members).get? key = some w := hfind
  rw [at?_singleton, hget] at hinner
  cases hinner
  refine ⟨hshape, fun last => ?_⟩
  rw [at?_cons, hget]
  exact at?_singleton

/-- A modelled kind has its project at the end of its path, if that leads through objects. -/
lemma EventKind.ReadAs.project {type : String} {kind : EventKind}
    (h : EventKind.ReadAs (.object members) type kind)
    (hinner : (Json.object members).at? kind.projectPath.dropLast = some (.object inner)) :
    ∃ name, kind.project? = some name ∧
      (Json.object members).at? kind.projectPath = some (.text name) := by
  cases h with
  | @aboutChange make r hmake hread =>
      rw [hmake.projectPath] at hinner ⊢
      obtain ⟨hchange, hlast⟩ :=
        Json.exists_object_under (ChangeRecord.change_of_shape hread) hinner
      refine ⟨r.change.project, hmake.project r, ?_⟩
      rw [hlast]
      exact Change.project_of_shape hchange
  | @refUpdated e _ hread =>
      obtain ⟨hupdate, hlast⟩ :=
        Json.exists_object_under (RefUpdated.refUpdate_of_shape hread) hinner
      exact ⟨e.refUpdate.project, rfl, (hlast "project").trans (RefUpdate.project_of_shape hupdate)⟩
  | @refReplicated e _ hread =>
      refine ⟨e.project, rfl, ?_⟩
      exact Json.at?_singleton.trans (RefReplicated.project_of_shape hread)
  | @projectCreated e _ hread =>
      refine ⟨e.projectName, rfl, ?_⟩
      exact Json.at?_singleton.trans (ProjectCreated.project_of_shape hread)

lemma EventKind.projectPath_ne_nil (kind : EventKind) : kind.projectPath ≠ [] := by
  cases kind <;> exact List.cons_ne_nil _ _

/-- **A text at the end of the path is the event's project.** -/
theorem Event.project?_of_ofJson? {provider : Option Provider} {e : Event} {name : String}
    (h : Event.ofJson? provider v = .ok e)
    (hproject : v.at? e.kind.projectPath = some (.text name)) : e.project? = some name := by
  obtain ⟨type, hget, hkind, -, -⟩ := Event.exists_type_of_ofJson? h
  obtain ⟨members, rfl, -⟩ := Json.exists_members_of_get? hget
  rw [Event.project?]
  by_cases htype : type ∈ EventKind.modelled
  · obtain ⟨inner, hinner⟩ :=
      Json.exists_object_of_at? (EventKind.projectPath_ne_nil e.kind) hproject
    obtain ⟨name', hname, hat⟩ := (EventKind.readAs_of_ofJson? htype hkind).project hinner
    rw [hproject] at hat
    cases hat
    exact hname
  · rw [EventKind.ofJson?_of_not_mem_modelled htype] at hkind
    have hother : e.kind = .other type (.object members) := (Except.ok.inj hkind).symm
    rw [hother] at hproject ⊢
    have hmember : (Json.object members).get? "project" = some (.text name) :=
      Json.at?_singleton ▸ hproject
    simp [EventKind.project?, payloadProject?, hmember, Json.text?]

end ReviewStream
