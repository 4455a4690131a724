import Mathlib.Tactic.Lemma
import ReviewStream.Proofs.Event.Decoding
import ReviewStream.Proofs.Json.Abridged

/-!
# Events that are read again

The object that an event of a modelled kind is written as on the wire has all that is known about
the event.  It is decoded as this very event, whether what is absent is written as null or left out,
in the event itself or in any of its attributes, and in whatever order the members stand.

* `Account.inverts_toJson` and the like: every attribute is read from its own record.
* `ChangeRecord.WrittenAs`: what the record of a change is written as.
* `ChangeRecord.shape_of_says`: what is absent in the record of a change need not be written.
* `EventKind.ofJson?_of_says`: a kind is read from what says its members on the wire.
* **`Event.ofJson?_of_abridges`**: every event of a modelled kind is decoded from what it is written
  as.
-/

namespace ReviewStream

open Json (Shape Fields Abridges Says)

variable {members entries header : List (String × Json)} {key : String}

/-! ## Fields of attributes -/

lemma Json.Shape.inverts_numberOrText :
    Shape.Inverts Shape.numberOrText fun n : UInt64 => .nat n.toNat := by
  intro n v h
  have hrange : (0 : Int) ≤ (n.toNat : Int) ∧ (n.toNat : Int) < UInt64.size := by
    have hlt := n.toNat_lt_size
    omega
  rw [h.eq_int, Json.int, Shape.numberOrText, if_pos hrange, Int.toNat_natCast, UInt64.ofNat_toNat]

lemma Json.Shape.inverts_textOrNumber : Shape.Inverts Shape.textOrNumber .text := by
  intro s v h
  rw [h.eq_text, Shape.textOrNumber]

lemma Json.Shape.inverts_texts : Shape.text.items.Inverts .texts :=
  Shape.Inverts.items Shape.inverts_text

namespace Json.Fields

lemma reads_requiredText {s : String} (hentries : Says members entries)
    (h : find? key entries = some (.text s)) : (required key Shape.text).Reads members s :=
  reads_written hentries Shape.inverts_text h nofun

lemma reads_textOrEmpty {s : String} (hentries : Says members entries)
    (h : (find? key entries).getD (.text "") = .text s) : (textOrEmpty key).Reads members s :=
  reads_defaulted hentries Shape.inverts_text nofun h

lemma reads_optionalText {s : Option String} (hentries : Says members entries)
    (h : (find? key entries).getD .null = .optText s) :
    (optional key Shape.text).Reads members s :=
  reads_optional hentries Shape.inverts_text nofun h

lemma reads_number {n : UInt64} (hentries : Says members entries)
    (h : (find? key entries).getD (.nat 0) = .nat n.toNat) :
    (defaulted key 0 Shape.numberOrText).Reads members n :=
  reads_defaulted hentries Shape.inverts_numberOrText nofun h

lemma reads_textsOrEmpty {ss : List String} (hentries : Says members entries)
    (h : (find? key entries).getD (.texts []) = .texts ss) :
    (textsOrEmpty key).Reads members ss :=
  reads_defaulted hentries Shape.inverts_texts nofun h

end Json.Fields

/-! ## Attributes -/

lemma Account.inverts_toJson : Account.shape.Inverts Account.toJson := by
  refine Shape.inverts_record (fun a => (by decide : ["name", "email", "username"].Nodup))
    ?_
  rintro ⟨name, email, username⟩ members hentries
  rw [Account.fields]
  iterate 2 refine Fields.Reads.seq ?_ ?_
  refine Fields.Reads.map Account.mk ?_
  all_goals exact Fields.reads_optionalText hentries rfl

lemma Json.Fields.reads_account {a : Option Account} (hentries : Says members entries)
    (h : (find? key entries).getD .null = .optAccount a) : (account key).Reads members a :=
  reads_optional hentries Account.inverts_toJson nofun h

lemma Change.inverts_toJson : Change.shape.Inverts Change.toJson := by
  refine Shape.inverts_record (fun c => (by decide : ["project", "branch", "id", "number",
    "subject", "owner", "url", "topic", "status"].Nodup)) ?_
  rintro ⟨project, branch, id, number, subject, owner, url, topic, status⟩ members hentries
  rw [Change.fields]
  iterate 8 refine Fields.Reads.seq ?_ ?_
  refine Fields.Reads.map Change.mk ?_
  · exact Fields.reads_requiredText hentries rfl
  · exact Fields.reads_textOrEmpty hentries rfl
  · exact Fields.reads_textOrEmpty hentries rfl
  · exact Fields.reads_number hentries rfl
  · exact Fields.reads_textOrEmpty hentries rfl
  · exact Fields.reads_account hentries rfl
  all_goals exact Fields.reads_optionalText hentries rfl

lemma PatchSet.inverts_toJson : PatchSet.shape.Inverts PatchSet.toJson := by
  refine Shape.inverts_record
    (fun p => (by decide : ["number", "revision", "ref", "uploader", "kind"].Nodup))
    ?_
  rintro ⟨number, revision, ref, uploader, kind⟩ members hentries
  rw [PatchSet.fields]
  iterate 4 refine Fields.Reads.seq ?_ ?_
  refine Fields.Reads.map PatchSet.mk ?_
  · exact Fields.reads_number hentries rfl
  · exact Fields.reads_textOrEmpty hentries rfl
  · exact Fields.reads_textOrEmpty hentries rfl
  · exact Fields.reads_account hentries rfl
  · exact Fields.reads_optionalText hentries rfl

lemma Approval.inverts_toJson : Approval.shape.Inverts Approval.toJson := by
  refine Shape.inverts_record
    (fun a => (by decide : ["type", "value", "description", "by"].Nodup))
    ?_
  rintro ⟨label, value, description, voter⟩ members hentries
  rw [Approval.fields]
  iterate 3 refine Fields.Reads.seq ?_ ?_
  refine Fields.Reads.map Approval.mk ?_
  · exact Fields.reads_requiredText hentries rfl
  · exact Fields.reads_written hentries Shape.inverts_textOrNumber rfl nofun
  · exact Fields.reads_optionalText hentries rfl
  · exact Fields.reads_account hentries rfl

lemma RefUpdate.inverts_toJson : RefUpdate.shape.Inverts RefUpdate.toJson := by
  refine Shape.inverts_record
    (fun r => (by decide : ["oldRev", "newRev", "refName", "project"].Nodup))
    ?_
  rintro ⟨oldRev, newRev, refName, project⟩ members hentries
  rw [RefUpdate.fields]
  iterate 3 refine Fields.Reads.seq ?_ ?_
  refine Fields.Reads.map RefUpdate.mk ?_
  · exact Fields.reads_textOrEmpty hentries rfl
  · exact Fields.reads_textOrEmpty hentries rfl
  · exact Fields.reads_requiredText hentries rfl
  · exact Fields.reads_requiredText hentries rfl

/-! ## The record of a change -/

/-- Members of an event that are no part of its kind. -/
def IsHeader (header : List (String × Json)) : Prop :=
  ∀ m ∈ header, m.1 = "type" ∨ m.1 = "eventCreatedOn"

lemma IsHeader.find?_append (h : IsHeader header) (htype : key ≠ "type")
    (hcreated : key ≠ "eventCreatedOn") :
    Json.find? key (header ++ entries) = Json.find? key entries := by
  induction header with
  | nil => rfl
  | cons m rest ih =>
      obtain ⟨k, value⟩ := m
      have hne : k ≠ key := by
        rintro rfl
        exact (h _ List.mem_cons_self).elim htype hcreated
      rw [List.cons_append, Json.find?, if_neg hne, ih fun n hn => h n (.tail _ hn)]

namespace ChangeRecord

/-- The record that has nothing but a change. -/
def bare (change : Change) : ChangeRecord where
  change
  patchSet := none
  uploader := none
  submitter := none
  abandoner := none
  restorer := none
  deleter := none
  changer := none
  author := none
  reviewer := none
  adder := none
  remover := none
  editor := none
  comment := ""
  approvals := []
  reason := ""
  oldTopic := none
  added := []
  removed := []
  hashtags := []

/-- A record is written as some entries: the change, and of the rest at least what is not absent. -/
structure WrittenAs (r : ChangeRecord) (entries : List (String × Json)) : Prop where
  change : Json.find? "change" entries = some r.change.toJson
  patchSet : (Json.find? "patchSet" entries).getD .null = .optPatchSet r.patchSet
  uploader : (Json.find? "uploader" entries).getD .null = .optAccount r.uploader
  submitter : (Json.find? "submitter" entries).getD .null = .optAccount r.submitter
  abandoner : (Json.find? "abandoner" entries).getD .null = .optAccount r.abandoner
  restorer : (Json.find? "restorer" entries).getD .null = .optAccount r.restorer
  deleter : (Json.find? "deleter" entries).getD .null = .optAccount r.deleter
  changer : (Json.find? "changer" entries).getD .null = .optAccount r.changer
  author : (Json.find? "author" entries).getD .null = .optAccount r.author
  reviewer : (Json.find? "reviewer" entries).getD .null = .optAccount r.reviewer
  adder : (Json.find? "adder" entries).getD .null = .optAccount r.adder
  remover : (Json.find? "remover" entries).getD .null = .optAccount r.remover
  editor : (Json.find? "editor" entries).getD .null = .optAccount r.editor
  comment : (Json.find? "comment" entries).getD (.text "") = .text r.comment
  approvals : (Json.find? "approvals" entries).getD (.approvals []) = .approvals r.approvals
  reason : (Json.find? "reason" entries).getD (.text "") = .text r.reason
  oldTopic : (Json.find? "oldTopic" entries).getD .null = .optText r.oldTopic
  added : (Json.find? "added" entries).getD (.texts []) = .texts r.added
  removed : (Json.find? "removed" entries).getD (.texts []) = .texts r.removed
  hashtags : (Json.find? "hashtags" entries).getD (.texts []) = .texts r.hashtags

/-- What is absent in a record need not be written. -/
lemma shape_of_says {r : ChangeRecord} (hentries : Says members entries) (h : r.WrittenAs entries) :
    ChangeRecord.shape (.object members) = .ok r := by
  obtain ⟨change, patchSet, uploader, submitter, abandoner, restorer, deleter, changer, author,
    reviewer, adder, remover, editor, comment, approvals, reason, oldTopic, added, removed,
    hashtags⟩ := r
  refine Shape.record_of_reads ?_
  rw [fields]
  iterate 19 refine Fields.Reads.seq ?_ ?_
  refine Fields.Reads.map ChangeRecord.mk ?_
  · exact Fields.reads_written hentries Change.inverts_toJson h.change (by rintro ⟨⟩)
  · exact Fields.reads_optional hentries PatchSet.inverts_toJson (by rintro p ⟨⟩) h.patchSet
  · exact Fields.reads_account hentries h.uploader
  · exact Fields.reads_account hentries h.submitter
  · exact Fields.reads_account hentries h.abandoner
  · exact Fields.reads_account hentries h.restorer
  · exact Fields.reads_account hentries h.deleter
  · exact Fields.reads_account hentries h.changer
  · exact Fields.reads_account hentries h.author
  · exact Fields.reads_account hentries h.reviewer
  · exact Fields.reads_account hentries h.adder
  · exact Fields.reads_account hentries h.remover
  · exact Fields.reads_account hentries h.editor
  · exact Fields.reads_textOrEmpty hentries h.comment
  · exact Fields.reads_defaulted hentries Approval.inverts_toJson.items (by rintro ⟨⟩) h.approvals
  · exact Fields.reads_textOrEmpty hentries h.reason
  · exact Fields.reads_optionalText hentries h.oldTopic
  · exact Fields.reads_textsOrEmpty hentries h.added
  · exact Fields.reads_textsOrEmpty hentries h.removed
  · exact Fields.reads_textsOrEmpty hentries h.hashtags

/-- The record of a change may be written beside the type and the creation time. -/
lemma WrittenAs.beside {r : ChangeRecord} (h : r.WrittenAs entries) (hheader : IsHeader header) :
    r.WrittenAs (header ++ entries) := by
  induction header with
  | nil => exact h
  | cons m rest ih =>
      have hrest : r.WrittenAs (rest ++ entries) := ih fun n hn => hheader n (.tail m hn)
      obtain ⟨key, value⟩ := m
      obtain rfl | rfl : key = "type" ∨ key = "eventCreatedOn" := hheader _ List.mem_cons_self
      all_goals exact
        ⟨hrest.change, hrest.patchSet, hrest.uploader, hrest.submitter, hrest.abandoner,
          hrest.restorer, hrest.deleter, hrest.changer, hrest.author, hrest.reviewer, hrest.adder,
          hrest.remover, hrest.editor, hrest.comment, hrest.approvals, hrest.reason,
          hrest.oldTopic, hrest.added, hrest.removed, hrest.hashtags⟩

/-- The record that an event of an action is written as. -/
def ofAction (e : ChangeEvent) : ChangeAction → ChangeRecord
  | .patchsetCreated => { bare e.change with patchSet := e.patchSet, uploader := e.account }
  | .merged => { bare e.change with patchSet := e.patchSet, submitter := e.account }
  | .abandoned => { bare e.change with patchSet := e.patchSet, abandoner := e.account }
  | .restored => { bare e.change with patchSet := e.patchSet, restorer := e.account }
  | .deleted => { bare e.change with patchSet := e.patchSet, deleter := e.account }
  | .privateStateChanged | .wipStateChanged =>
    { bare e.change with patchSet := e.patchSet, changer := e.account }

lemma ofAction_writtenAs (action : ChangeAction) (e : ChangeEvent) :
    (ofAction e action).WrittenAs (EventKind.wireMembers (.changed action e)) := by
  cases action <;> constructor <;> rfl

lemma ofAction_makes (action : ChangeAction) (e : ChangeEvent) :
    EventKind.changed action
      { change := (ofAction e action).change, patchSet := (ofAction e action).patchSet,
        account := (ofAction e action).actor action } = .changed action e := by
  cases action <;> rfl

end ChangeRecord

/-! ## Kinds -/

/-- An event about a change is decoded from a record that makes it. -/
lemma EventKind.ofJson?_of_record {kind : EventKind} {make : ChangeRecord → EventKind}
    (r : ChangeRecord) (hentries : Says members (header ++ kind.wireMembers))
    (hheader : IsHeader header) (hwritten : r.WrittenAs kind.wireMembers)
    (hdecode : ∀ v, EventKind.ofJson? kind.typeName v
      = ((ChangeRecord.shape v).map make).mapError .data)
    (hmake : make r = kind) : EventKind.ofJson? kind.typeName (.object members) = .ok kind := by
  rw [hdecode, ChangeRecord.shape_of_says hentries (hwritten.beside hheader)]
  exact congrArg Except.ok hmake

lemma RefUpdated.shape_of_says {e : RefUpdated} (hheader : IsHeader header)
    (hentries : Says members (header ++ (EventKind.refUpdated e).wireMembers)) :
    RefUpdated.shape (.object members) = .ok e := by
  obtain ⟨refUpdate, submitter⟩ := e
  refine Shape.record_of_reads (.seq (.map RefUpdated.mk ?_) ?_)
  · refine Fields.reads_written hentries RefUpdate.inverts_toJson ?_ nofun
    exact hheader.find?_append (by decide) (by decide)
  · refine Fields.reads_account hentries ?_
    rw [hheader.find?_append (by decide) (by decide)]
    rfl

lemma RefReplicated.shape_of_says {e : RefReplicated} (hheader : IsHeader header)
    (hentries : Says members (header ++ (EventKind.refReplicated e).wireMembers)) :
    RefReplicated.shape (.object members) = .ok e := by
  obtain ⟨project, ref, status, targetNode⟩ := e
  refine Shape.record_of_reads (.seq (.seq (.seq (.map RefReplicated.mk ?_) ?_) ?_) ?_)
  · exact Fields.reads_requiredText hentries (hheader.find?_append (by decide) (by decide))
  · exact Fields.reads_requiredText hentries (hheader.find?_append (by decide) (by decide))
  · refine Fields.reads_textOrEmpty hentries ?_
    rw [hheader.find?_append (by decide) (by decide)]
    rfl
  · refine Fields.reads_textOrEmpty hentries ?_
    rw [hheader.find?_append (by decide) (by decide)]
    rfl

lemma ProjectCreated.shape_of_says {e : ProjectCreated} (hheader : IsHeader header)
    (hentries : Says members (header ++ (EventKind.projectCreated e).wireMembers)) :
    ProjectCreated.shape (.object members) = .ok e := by
  obtain ⟨projectName, headName⟩ := e
  refine Shape.record_of_reads (.seq (.map ProjectCreated.mk ?_) ?_)
  · exact Fields.reads_requiredText hentries (hheader.find?_append (by decide) (by decide))
  · refine Fields.reads_optionalText hentries ?_
    rw [hheader.find?_append (by decide) (by decide)]
    rfl

/-- A kind is decoded from what says its members on the wire. -/
lemma EventKind.ofJson?_of_says {kind : EventKind} (hkind : kind.IsModelled)
    (hheader : IsHeader header) (hentries : Says members (header ++ kind.wireMembers)) :
    EventKind.ofJson? kind.typeName (.object members) = .ok kind := by
  cases kind with
  | changed action e =>
      have hdecode (v : Json) : EventKind.ofJson? action.typeName v
          = (action.shape v).mapError .data := by
        cases action <;> rfl
      exact EventKind.ofJson?_of_record (.ofAction e action) hentries hheader
        (ChangeRecord.ofAction_writtenAs action e) hdecode (ChangeRecord.ofAction_makes action e)
  | commentAdded e =>
      refine EventKind.ofJson?_of_record
        { ChangeRecord.bare e.change with
          patchSet := e.patchSet, author := e.author, comment := e.comment,
          approvals := e.approvals }
        hentries hheader ?_ (fun v => rfl) rfl
      constructor <;> rfl
  | reviewerAdded e =>
      refine EventKind.ofJson?_of_record
        { ChangeRecord.bare e.change with
          patchSet := e.patchSet, reviewer := e.reviewer, adder := e.adder }
        hentries hheader ?_ (fun v => rfl) rfl
      constructor <;> rfl
  | topicChanged e =>
      refine EventKind.ofJson?_of_record
        { ChangeRecord.bare e.change with changer := e.changer, oldTopic := e.oldTopic }
        hentries hheader ?_ (fun v => rfl) rfl
      constructor <;> rfl
  | hashtagsChanged e =>
      refine EventKind.ofJson?_of_record
        { ChangeRecord.bare e.change with
          editor := e.editor, added := e.added, removed := e.removed, hashtags := e.hashtags }
        hentries hheader ?_ (fun v => rfl) rfl
      constructor <;> rfl
  | voteDeleted e =>
      refine EventKind.ofJson?_of_record
        { ChangeRecord.bare e.change with
          patchSet := e.patchSet, reviewer := e.reviewer, remover := e.remover,
          comment := e.comment, approvals := e.approvals }
        hentries hheader ?_ (fun v => rfl) rfl
      constructor <;> rfl
  | mergeFailed e =>
      refine EventKind.ofJson?_of_record
        { ChangeRecord.bare e.change with
          patchSet := e.patchSet, submitter := e.submitter, reason := e.reason }
        hentries hheader ?_ (fun v => rfl) rfl
      constructor <;> rfl
  | refUpdated e =>
      change ((RefUpdated.shape (.object members)).map EventKind.refUpdated).mapError _ = _
      rw [RefUpdated.shape_of_says hheader hentries]
      rfl
  | refReplicated e =>
      change ((RefReplicated.shape (.object members)).map EventKind.refReplicated).mapError _ = _
      rw [RefReplicated.shape_of_says hheader hentries]
      rfl
  | projectCreated e =>
      change ((ProjectCreated.shape (.object members)).map EventKind.projectCreated).mapError _ = _
      rw [ProjectCreated.shape_of_says hheader hentries]
      rfl
  | other type payload => exact hkind.elim

/-! ## Events -/

namespace Event

variable {e : Event} {v : Json}

/-- The members of an event on the wire that are no part of its kind. -/
def wireHeader (e : Event) : List (String × Json) :=
  ("type", .text e.typeName) ::
    match e.createdOn with
    | none => []
    | some t => [("eventCreatedOn", .int t.toInt)]

lemma toWire_eq (e : Event) : e.toWire = .object (e.wireHeader ++ e.kind.wireMembers) := rfl

lemma isHeader_wireHeader (e : Event) : IsHeader e.wireHeader := by
  rw [wireHeader]
  cases e.createdOn <;> simp [IsHeader]

/-- The members of a kind are not those of a header, and no two of them have the same key. -/
lemma keys_wireMembers (h : e.kind.IsModelled) :
    ("type" :: "eventCreatedOn" :: e.kind.wireMembers.map Prod.fst).Nodup := by
  cases hkind : e.kind with
  | changed action c =>
      cases action <;> simp [EventKind.wireMembers, ChangeAction.roleKey]
  | other type payload =>
      rw [hkind] at h
      exact h.elim
  | _ => simp [EventKind.wireMembers]

lemma nodup_keys_toWire (h : e.kind.IsModelled) :
    ((e.wireHeader ++ e.kind.wireMembers).map Prod.fst).Nodup := by
  have hkeys := keys_wireMembers h
  rw [wireHeader]
  cases e.createdOn with
  | none => exact hkeys.sublist (.cons_cons _ (.cons _ (.refl _)))
  | some t => exact hkeys

lemma createdOn?_of_says (hkind : e.kind.IsModelled)
    (hentries : Says members (e.wireHeader ++ e.kind.wireMembers)) :
    createdOn? (.object members) = e.createdOn := by
  cases hcreated : e.createdOn with
  | none =>
      have hunwritten :
          Json.find? "eventCreatedOn" (e.wireHeader ++ e.kind.wireMembers) = none := by
        have hkeys := (List.nodup_cons.mp (List.nodup_cons.mp (keys_wireMembers hkind)).2).1
        rw [wireHeader, hcreated]
        change Json.find? "eventCreatedOn" e.kind.wireMembers = none
        exact Json.find?_eq_none_of_not_mem hkeys
      refine Option.eq_none_iff_forall_ne_some.mpr fun t ht => ?_
      rw [createdOn?_eq_some_iff, Json.get?, hentries.find?_eq_none hunwritten] at ht
      cases ht
  | some t =>
      have hwritten : Json.find? "eventCreatedOn" (e.wireHeader ++ e.kind.wireMembers)
          = some (.int t.toInt) := by
        rw [wireHeader, hcreated]
        rfl
      rcases hentries.find? hwritten with ⟨v, hv, habridges⟩ | ⟨-, hnull⟩
      · rw [createdOn?_eq_some_iff, Json.get?, hv, habridges.eq_int]
      · cases hnull

/-- **Every event of a modelled kind is decoded from the object that it is written as**, however
abridged; and so is every attribute from its own record. -/
theorem ofJson?_of_abridges :
    (∀ (e : Event) (v : Json), e.kind.IsModelled → Abridges v e.toWire →
      Event.ofJson? e.provider v = .ok e) ∧
    Account.shape.Inverts Account.toJson ∧ Change.shape.Inverts Change.toJson ∧
    PatchSet.shape.Inverts PatchSet.toJson ∧ Approval.shape.Inverts Approval.toJson ∧
    RefUpdate.shape.Inverts RefUpdate.toJson := by
  refine ⟨fun e v hkind habridges => ?_, Account.inverts_toJson, Change.inverts_toJson,
    PatchSet.inverts_toJson, Approval.inverts_toJson, RefUpdate.inverts_toJson⟩
  rw [toWire_eq] at habridges
  obtain ⟨members, rfl, hentries⟩ := habridges.exists_members (nodup_keys_toWire hkind)
  have htype : (Json.object members).get? "type" = some (.text e.typeName) := by
    have hwritten : Json.find? "type" (e.wireHeader ++ e.kind.wireMembers)
        = some (.text e.typeName) := rfl
    rcases hentries.find? hwritten with ⟨w, hw, htext⟩ | ⟨-, hnull⟩
    · rw [Json.get?, hw, htext.eq_text]
    · cases hnull
  have hread : EventKind.ofJson? e.typeName (.object members) = .ok e.kind :=
    EventKind.ofJson?_of_says hkind e.isHeader_wireHeader hentries
  rw [Event.ofJson?_of_type htype, hread, createdOn?_of_says hkind hentries]
  rfl

/-- A vote that is removed from a change without an owner, the account of its remover standing
first and having nothing but a name. -/
theorem ofJson?_of_abridges_vote_deleted :
    let change : Change :=
      { project := "tools", branch := "main", id := "I7", number := 18446744073709551615,
        subject := "Sort", owner := none, url := none, topic := some "", status := none }
    let e : Event :=
      { provider := none, createdOn := some (-1), kind := .voteDeleted
          { change, patchSet := none, reviewer := none,
            remover := some ⟨some "Ann", none, none⟩, comment := "",
            approvals := [⟨"Code-Review", "-2", none, none⟩] } }
    let v : Json := .object
      [("remover", .object [("name", .text "Ann")]), ("patchSet", .null),
        ("approvals", .list [.object [("value", .text "-2"), ("type", .text "Code-Review")]]),
        ("change", change.toJson), ("comment", .text ""), ("eventCreatedOn", .int (-1)),
        ("type", .text "vote-deleted")]
    Abridges v e.toWire ∧ Event.ofJson? none v = .ok e := by
  intro change e v
  have hremover : Abridges (.object [("name", .text "Ann")])
      (Account.toJson ⟨some "Ann", none, none⟩) :=
    .object (fun m => m.2) (by decide) (fun m _ => .refl m.2) (by decide)
  have happroval : Abridges (.object [("value", .text "-2"), ("type", .text "Code-Review")])
      (Approval.toJson ⟨"Code-Review", "-2", none, none⟩) :=
    .object (fun m => m.2) (by decide) (fun m _ => .refl m.2) (by decide)
  have habridges : Abridges v e.toWire := by
    refine .object (fun m => (Json.find? m.1 (e.wireHeader ++ e.kind.wireMembers)).getD .null)
      (by decide) ?_ (by decide)
    simp only [List.forall_mem_cons]
    refine ⟨hremover, .refl .null, .list rfl ?_, .refl _, .refl _, .refl _, .refl _, nofun⟩
    rintro (_ | i) w w' ⟨⟩ ⟨⟩
    exact happroval
  exact ⟨habridges, ofJson?_of_abridges.1 e v trivial habridges⟩

end Event

end ReviewStream
