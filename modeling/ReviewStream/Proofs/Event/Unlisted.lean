import Mathlib.Logic.Relation
import ReviewStream.Proofs.Event.Numbers
import ReviewStream.Proofs.Json.Layout

/-!
# Members that nothing lists

Servers send more than is modelled.  Whatever they add to an event, and to the records inside it,
has no part in what the event is decoded as, nor in the fault of an event that is not decoded.

* `Account.listed`, `Change.listed` and the like: the keys that each record lists.
* `Event.layout`: the layout of the events of a type.
* `ChangeRecord.respects_listed` and the like: each record respects what it lists.
* **`Event.ofJson?_eq_of_edits`**: an event is decoded alike before and after any number of edits of
  what is not listed.
-/

namespace ReviewStream

open Json (Shape Fields Layout)

/-! ## What the records list -/

/-- What an account lists. -/
def Account.listed : List (String × Layout) :=
  [("name", .leaf), ("email", .leaf), ("username", .leaf)]

/-- What a change lists. -/
def Change.listed : List (String × Layout) :=
  [("project", .leaf), ("branch", .leaf), ("id", .leaf), ("number", .leaf), ("subject", .leaf),
    ("owner", .record Account.listed), ("url", .leaf), ("topic", .leaf), ("status", .leaf)]

/-- What a patch set lists. -/
def PatchSet.listed : List (String × Layout) :=
  [("number", .leaf), ("revision", .leaf), ("ref", .leaf), ("uploader", .record Account.listed),
    ("kind", .leaf)]

/-- What a vote lists. -/
def Approval.listed : List (String × Layout) :=
  [("type", .leaf), ("value", .leaf), ("description", .leaf), ("by", .record Account.listed)]

/-- What a ref update lists. -/
def RefUpdate.listed : List (String × Layout) :=
  [("oldRev", .leaf), ("newRev", .leaf), ("refName", .leaf), ("project", .leaf)]

/-- What the record of an event about a change lists. -/
def ChangeRecord.listed : List (String × Layout) :=
  [("change", .record Change.listed), ("patchSet", .record PatchSet.listed),
    ("uploader", .record Account.listed), ("submitter", .record Account.listed),
    ("abandoner", .record Account.listed), ("restorer", .record Account.listed),
    ("deleter", .record Account.listed), ("changer", .record Account.listed),
    ("author", .record Account.listed), ("reviewer", .record Account.listed),
    ("adder", .record Account.listed), ("remover", .record Account.listed),
    ("editor", .record Account.listed), ("comment", .leaf),
    ("approvals", .items (.record Approval.listed)), ("reason", .leaf), ("oldTopic", .leaf),
    ("added", .leaf), ("removed", .leaf), ("hashtags", .leaf)]

/-- What the record of a direct ref update lists. -/
def RefUpdated.listed : List (String × Layout) :=
  [("refUpdate", .record RefUpdate.listed), ("submitter", .record Account.listed)]

/-- What the record of a replication lists. -/
def RefReplicated.listed : List (String × Layout) :=
  [("project", .leaf), ("ref", .leaf), ("status", .leaf), ("targetNode", .leaf)]

/-- What the record of a project's creation lists. -/
def ProjectCreated.listed : List (String × Layout) :=
  [("projectName", .leaf), ("headName", .leaf)]

/-- What the record of a modelled type lists. -/
def EventKind.listed (type : String) : List (String × Layout) :=
  if type = "ref-updated" then RefUpdated.listed
  else if type = "ref-replicated" then RefReplicated.listed
  else if type = "project-created" then ProjectCreated.listed
  else ChangeRecord.listed

/-- The layout of the events of a modelled type.  Besides what the record lists, an event has its
type and its creation time. -/
def Event.layout (type : String) : Layout :=
  .record (("type", .leaf) :: ("eventCreatedOn", .leaf) :: EventKind.listed type)

/-! ## Records -/

lemma Account.respects_listed : Account.shape.Respects (.record Account.listed) := by
  refine Shape.respects_record ?_ (by decide) "Account"
  have hname := Fields.respects_field "name" (Shape.respects_leaf Shape.text.nullable) (some none)
  exact ((hname.map Account.mk).seqLeaf "email" _).seqLeaf "username" _

/-- One more field, which holds an account. -/
lemma Json.Fields.Respects.seqAccount {α : Type} {entries : List (String × Layout)}
    {f : Fields (Option Account → α)} (hf : f.Respects entries) (key : String) :
    (f <*> Fields.account key).Respects (entries ++ [(key, .record Account.listed)]) :=
  hf.seq (Fields.respects_field key Account.respects_listed.nullable _)

lemma Change.respects_listed : Change.shape.Respects (.record Change.listed) := by
  refine Shape.respects_record ?_ (by decide) "Change"
  have hproject := Fields.respects_field "project" (Shape.respects_leaf Shape.text) none
  exact (hproject.map Change.mk)
    |>.seqLeaf "branch" _ |>.seqLeaf "id" _ |>.seqLeaf "number" _ |>.seqLeaf "subject" _
    |>.seqAccount "owner" |>.seqLeaf "url" _ |>.seqLeaf "topic" _ |>.seqLeaf "status" _

lemma PatchSet.respects_listed : PatchSet.shape.Respects (.record PatchSet.listed) := by
  refine Shape.respects_record ?_ (by decide) "PatchSet"
  have hnumber := Fields.respects_field "number" (Shape.respects_leaf Shape.numberOrText) (some 0)
  exact (hnumber.map PatchSet.mk)
    |>.seqLeaf "revision" _ |>.seqLeaf "ref" _ |>.seqAccount "uploader" |>.seqLeaf "kind" _

lemma Approval.respects_listed : Approval.shape.Respects (.record Approval.listed) := by
  refine Shape.respects_record ?_ (by decide) "Approval"
  have htype := Fields.respects_field "type" (Shape.respects_leaf Shape.text) none
  exact (htype.map Approval.mk)
    |>.seqLeaf "value" _ |>.seqLeaf "description" _ |>.seqAccount "by"

lemma RefUpdate.respects_listed : RefUpdate.shape.Respects (.record RefUpdate.listed) := by
  refine Shape.respects_record ?_ (by decide) "RefUpdate"
  have holdRev := Fields.respects_field "oldRev" (Shape.respects_leaf Shape.text) (some "")
  exact (holdRev.map RefUpdate.mk)
    |>.seqLeaf "newRev" _ |>.seqLeaf "refName" _ |>.seqLeaf "project" _

lemma ChangeRecord.respects_listed :
    ChangeRecord.shape.Respects (.record ChangeRecord.listed) := by
  refine Shape.respects_record ?_ (by decide) "ChangeRecord"
  have hchange := Fields.respects_field "change" Change.respects_listed none
  have hpatchSet :=
    Fields.respects_field "patchSet" PatchSet.respects_listed.nullable (some none)
  have happrovals := Fields.respects_field "approvals" Approval.respects_listed.items (some [])
  exact (hchange.map ChangeRecord.mk).seq hpatchSet
    |>.seqAccount "uploader" |>.seqAccount "submitter" |>.seqAccount "abandoner"
    |>.seqAccount "restorer" |>.seqAccount "deleter" |>.seqAccount "changer"
    |>.seqAccount "author" |>.seqAccount "reviewer" |>.seqAccount "adder"
    |>.seqAccount "remover" |>.seqAccount "editor" |>.seqLeaf "comment" _ |>.seq happrovals
    |>.seqLeaf "reason" _ |>.seqLeaf "oldTopic" _ |>.seqLeaf "added" _ |>.seqLeaf "removed" _
    |>.seqLeaf "hashtags" _

lemma RefUpdated.respects_listed : RefUpdated.shape.Respects (.record RefUpdated.listed) := by
  refine Shape.respects_record ?_ (by decide) "RefUpdated"
  have hupdate := Fields.respects_field "refUpdate" RefUpdate.respects_listed none
  exact (hupdate.map RefUpdated.mk).seqAccount "submitter"

lemma RefReplicated.respects_listed :
    RefReplicated.shape.Respects (.record RefReplicated.listed) := by
  refine Shape.respects_record ?_ (by decide) "RefReplicated"
  have hproject := Fields.respects_field "project" (Shape.respects_leaf Shape.text) none
  exact (hproject.map RefReplicated.mk)
    |>.seqLeaf "ref" _ |>.seqLeaf "status" _ |>.seqLeaf "targetNode" _

lemma ProjectCreated.respects_listed :
    ProjectCreated.shape.Respects (.record ProjectCreated.listed) := by
  refine Shape.respects_record ?_ (by decide) "ProjectCreated"
  have hproject := Fields.respects_field "projectName" (Shape.respects_leaf Shape.text) none
  exact (hproject.map ProjectCreated.mk).seqLeaf "headName" _

/-! ## Kinds -/

variable {v w : Json} {type : String}

lemma EventKind.listed_of_aboutChange (habout : type ∈ EventKind.aboutChange) :
    EventKind.listed type = ChangeRecord.listed := by
  have hnot : type ∉ ["ref-updated", "ref-replicated", "project-created"] :=
    of_decide_eq_true (List.mem_filter.mp habout).2
  simp only [List.mem_cons, List.not_mem_nil, or_false, not_or] at hnot
  rw [EventKind.listed, if_neg hnot.1, if_neg hnot.2.1, if_neg hnot.2.2]

/-- The kind of a modelled type is read alike before and after an edit of its record. -/
lemma EventKind.ofJson?_eq_of_edit (hmodelled : type ∈ EventKind.modelled)
    (hedit : (Layout.record (EventKind.listed type)).Edit v w) :
    EventKind.ofJson? type v = EventKind.ofJson? type w := by
  by_cases habout : type ∈ EventKind.aboutChange
  · obtain ⟨make, -, hread⟩ := EventKind.exists_fills habout
    rw [EventKind.listed_of_aboutChange habout] at hedit
    rw [hread, hread, ChangeRecord.respects_listed v w hedit]
  · have hother : type ∈ ["ref-updated", "ref-replicated", "project-created"] := by
      by_contra hnot
      exact habout (List.mem_filter.mpr ⟨hmodelled, decide_eq_true hnot⟩)
    simp only [List.mem_cons, List.not_mem_nil, or_false] at hother
    rcases hother with rfl | rfl | rfl
    · exact congrArg (fun read => (read.map EventKind.refUpdated).mapError DecodeError.data)
        (RefUpdated.respects_listed v w hedit)
    · exact congrArg (fun read => (read.map EventKind.refReplicated).mapError DecodeError.data)
        (RefReplicated.respects_listed v w hedit)
    · exact congrArg (fun read => (read.map EventKind.projectCreated).mapError DecodeError.data)
        (ProjectCreated.respects_listed v w hedit)

/-! ## Events -/

lemma EventKind.nodup_keys_layout (hmodelled : type ∈ EventKind.modelled) :
    ((("type", Layout.leaf) :: ("eventCreatedOn", .leaf) :: EventKind.listed type).map
      Prod.fst).Nodup := by
  revert type
  decide

/-- An edit of an event is one of its record. -/
lemma Event.edit_listed {members : List (String × Json)}
    (h : (Event.layout type).Edit (.object members) w) :
    (Layout.record (EventKind.listed type)).Edit (.object members) w := by
  have hlisted {key : String}
      (hkey : key ∉ (("type", Layout.leaf) :: ("eventCreatedOn", .leaf)
        :: EventKind.listed type).map Prod.fst) :
      key ∉ (EventKind.listed type).map Prod.fst :=
    fun hmem => hkey (List.mem_cons_of_mem _ (List.mem_cons_of_mem _ hmem))
  cases h with
  | add unlisted => exact .add (hlisted unlisted)
  | change unlisted => exact .change (hlisted unlisted)
  | remove unlisted => exact .remove (hlisted unlisted)
  | member listed inside =>
      rcases List.mem_cons.mp listed with heq | hrest
      · cases heq
        cases inside
      · rcases List.mem_cons.mp hrest with heq | hrecord
        · cases heq
          cases inside
        · exact .member hrecord inside

/-- One edit leaves the type of an event and what it is decoded as. -/
lemma Event.ofJson?_eq_of_edit (provider : Option Provider)
    (hmodelled : type ∈ EventKind.modelled) (htype : v.get? "type" = some (.text type))
    (hedit : (Event.layout type).Edit v w) :
    w.get? "type" = some (.text type)
      ∧ Event.ofJson? provider v = Event.ofJson? provider w := by
  have hkeys := EventKind.nodup_keys_layout hmodelled
  have hsame : v.get? "type" = w.get? "type" := hedit.get?_eq (by simp) hkeys
  have hcreated : v.get? "eventCreatedOn" = w.get? "eventCreatedOn" :=
    hedit.get?_eq (by simp) hkeys
  have htype' : w.get? "type" = some (.text type) := hsame.symm.trans htype
  refine ⟨htype', ?_⟩
  obtain ⟨members, rfl, -⟩ := Json.exists_members_of_get? htype
  rw [Event.ofJson?_of_type htype, Event.ofJson?_of_type htype', createdOn?, createdOn?, hcreated,
    EventKind.ofJson?_eq_of_edit hmodelled (Event.edit_listed hedit)]

/-- **What nothing lists has no part in decoding.**  An object with a modelled type is decoded as
the same event, or refused with the same error, whatever members are added, changed or removed that
the records in it do not list, in any of these records and any number of times. -/
theorem Event.ofJson?_eq_of_edits (provider : Option Provider)
    (hmodelled : type ∈ EventKind.modelled) (htype : v.get? "type" = some (.text type))
    (hedits : Relation.ReflTransGen (Event.layout type).Edit v w) :
    Event.ofJson? provider v = Event.ofJson? provider w := by
  have hall : w.get? "type" = some (.text type)
      ∧ Event.ofJson? provider v = Event.ofJson? provider w := by
    induction hedits with
    | refl => exact ⟨htype, rfl⟩
    | tail _ hedit ih =>
        obtain ⟨hbetween, hsame⟩ := ih
        obtain ⟨hlast, hstep⟩ := Event.ofJson?_eq_of_edit provider hmodelled hbetween hedit
        exact ⟨hlast, hsame.trans hstep⟩
  exact hall.2

/-- A comment with a vote, whose change is written as a list: a badge is added to the account of the
voter, the server's number of the owner is changed, and a member of the event is removed.  In front
of a change with a bad number and inside that change, members are added. -/
theorem Event.ofJson?_eq_of_edits_of_comment :
    let type : String × Json := ("type", .text "comment-added")
    let change (id : Int) : String × Json := ("change", .list
      [.text "tools", .text "main", .text "", .int 7, .text "Fix",
        .object [("_id", .int id), ("name", .text "Ann")]])
    let approvals (badges : List (String × Json)) : String × Json := ("approvals", .list
      [.object [("by", .object (badges ++ [("name", .text "Bot")])), ("type", .text "Verified")]])
    let v : Json := .object [approvals [], change 1, ("score", .null), type]
    let w : Json := .object [approvals [("badges", .list [.null])], change 2, type]
    let bad (early inner : List (String × Json)) : Json := .object
      (early ++ [("change", .object (inner ++ [("number", .text "x")])), type])
    ("comment-added" ∈ EventKind.modelled
        ∧ v.get? "type" = some (.text "comment-added")
        ∧ (bad [] []).get? "type" = some (.text "comment-added")
        ∧ Relation.ReflTransGen (Event.layout "comment-added").Edit v w
        ∧ Relation.ReflTransGen (Event.layout "comment-added").Edit (bad [] [])
          (bad [("branch", .list [])] [("hashtags", .int 0)]))
      ∧ Event.ofJson? none v = Event.ofJson? none w
      ∧ (∃ e, Event.ofJson? none w = .ok e ∧ e.project? = some "tools")
      ∧ Event.ofJson? none (bad [] [])
        = Event.ofJson? none (bad [("branch", .list [])] [("hashtags", .int 0)])
      ∧ Event.ofJson? none (bad [] []) = .error (.data (.integer .invalidDigit)) := by
  intro type change approvals v w bad
  have hmodelled : "comment-added" ∈ EventKind.modelled := by decide
  have hbadge : (Layout.record Approval.listed).Edit
      (.object [("by", .object [("name", .text "Bot")]), ("type", .text "Verified")])
      (.object [("by", .object [("badges", .list [.null]), ("name", .text "Bot")]),
        ("type", .text "Verified")]) :=
    @Layout.Edit.member _ [] _ "by" (.record Account.listed) _ _ (by simp [Approval.listed])
      (@Layout.Edit.add _ [] _ "badges" _ (by decide))
  have hid : (Layout.record Change.listed).Edit (change 1).2 (change 2).2 :=
    @Layout.Edit.place _ [.text "tools", .text "main", .text "", .int 7, .text "Fix"] []
      "owner" (.record Account.listed) _ _ rfl
      (@Layout.Edit.change _ [] _ "_id" _ _ (by decide))
  have hvote : (Event.layout "comment-added").Edit v
      (.object [approvals [("badges", .list [.null])], change 1, ("score", .null), type]) :=
    @Layout.Edit.member _ [] _ "approvals" (.items (.record Approval.listed)) _ _
      (by simp [EventKind.listed, ChangeRecord.listed]) (@Layout.Edit.item _ [] [] _ _ hbadge)
  have howner : (Event.layout "comment-added").Edit
      (.object [approvals [("badges", .list [.null])], change 1, ("score", .null), type])
      (.object [approvals [("badges", .list [.null])], change 2, ("score", .null), type]) :=
    @Layout.Edit.member _ [approvals [("badges", .list [.null])]] _ "change"
      (.record Change.listed) _ _ (by simp [EventKind.listed, ChangeRecord.listed]) hid
  have hscore : (Event.layout "comment-added").Edit
      (.object [approvals [("badges", .list [.null])], change 2, ("score", .null), type]) w :=
    @Layout.Edit.remove _ [approvals [("badges", .list [.null])], change 2] [type] "score" .null
      (by decide)
  have hgood : Relation.ReflTransGen (Event.layout "comment-added").Edit v w :=
    .tail (.tail (.single hvote) howner) hscore
  have hinner : (Event.layout "comment-added").Edit (bad [] []) (bad [] [("hashtags", .int 0)]) :=
    @Layout.Edit.member _ [] _ "change" (.record Change.listed) _ _
      (by simp [EventKind.listed, ChangeRecord.listed])
      (@Layout.Edit.add _ [] _ "hashtags" _ (by decide))
  have hearly : (Event.layout "comment-added").Edit (bad [] [("hashtags", .int 0)])
      (bad [("branch", .list [])] [("hashtags", .int 0)]) :=
    @Layout.Edit.add _ [] _ "branch" _ (by decide)
  have hbad : Relation.ReflTransGen (Event.layout "comment-added").Edit (bad [] [])
      (bad [("branch", .list [])] [("hashtags", .int 0)]) :=
    .tail (.single hinner) hearly
  exact ⟨⟨hmodelled, rfl, rfl, hgood, hbad⟩, Event.ofJson?_eq_of_edits none hmodelled rfl hgood,
    ⟨_, rfl, rfl⟩, Event.ofJson?_eq_of_edits none hmodelled rfl hbad, rfl⟩

end ReviewStream
