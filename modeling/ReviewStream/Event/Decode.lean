import ReviewStream.Error
import ReviewStream.Event.Basic
import ReviewStream.Json.Reader

/-!
# Decoding events

An event on the wire is an object whose `type` names its kind.  Its other members are read by the
record that belongs to the type; a type without a record keeps the whole object as its payload.

* `Event.ofJson?`: the event of a JSON value.
* `Event.ofLine?`: the event of a line of the stream.
-/

namespace ReviewStream

open Json (Shape Fields Fault)

/-! ## Attributes -/

/-- A natural number of 64 bits, written as a number or as its decimal text with blanks around. -/
def Json.Shape.numberOrText : Shape UInt64
  | .number (.integer i) =>
    if 0 ≤ i ∧ i < UInt64.size then .ok (UInt64.ofNat i.toNat) else .error .noForm
  | .text s =>
    match Text.readUnsigned (UInt64.size - 1) (Text.trim s.toList) with
    | .ok n => .ok (UInt64.ofNat n)
    | .error e => .error (.integer e)
  | _ => .error .noForm

/-- A text, or a signed integer of 64 bits, which stands for its decimal text. -/
def Json.Shape.textOrNumber : Shape String
  | .number (.integer i) =>
    if Int64.minValue.toInt ≤ i ∧ i ≤ Int64.maxValue.toInt then .ok (Text.intText i)
    else .error .noForm
  | .text s => .ok s
  | _ => .error .noForm

/-- A field that is the empty text when it is absent. -/
def Json.Fields.textOrEmpty (key : String) : Fields String := .defaulted key "" Shape.text

/-- A field that is an empty list of texts when it is absent. -/
def Json.Fields.textsOrEmpty (key : String) : Fields (List String) :=
  .defaulted key [] Shape.text.items

/-- The fields of an account. -/
def Account.fields : Fields Account :=
  Account.mk <$> .optional "name" Shape.text <*> .optional "email" Shape.text
    <*> .optional "username" Shape.text

/-- The shape of an account. -/
def Account.shape : Shape Account := .record "Account" fields

/-- A field that holds an account. -/
def Json.Fields.account (key : String) : Fields (Option Account) := .optional key Account.shape

/-- The fields of a change. -/
def Change.fields : Fields Change :=
  Change.mk <$> .required "project" Shape.text <*> .textOrEmpty "branch" <*> .textOrEmpty "id"
    <*> .defaulted "number" 0 Shape.numberOrText <*> .textOrEmpty "subject" <*> .account "owner"
    <*> .optional "url" Shape.text <*> .optional "topic" Shape.text
    <*> .optional "status" Shape.text

/-- The shape of a change. -/
def Change.shape : Shape Change := .record "Change" fields

/-- The fields of a patch set. -/
def PatchSet.fields : Fields PatchSet :=
  PatchSet.mk <$> .defaulted "number" 0 Shape.numberOrText <*> .textOrEmpty "revision"
    <*> .textOrEmpty "ref" <*> .account "uploader" <*> .optional "kind" Shape.text

/-- The shape of a patch set. -/
def PatchSet.shape : Shape PatchSet := .record "PatchSet" fields

/-- The fields of a vote. -/
def Approval.fields : Fields Approval :=
  Approval.mk <$> .required "type" Shape.text <*> .defaulted "value" "" Shape.textOrNumber
    <*> .optional "description" Shape.text <*> .account "by"

/-- The shape of a vote. -/
def Approval.shape : Shape Approval := .record "Approval" fields

/-- The fields of a ref update. -/
def RefUpdate.fields : Fields RefUpdate :=
  RefUpdate.mk <$> .textOrEmpty "oldRev" <*> .textOrEmpty "newRev"
    <*> .required "refName" Shape.text <*> .required "project" Shape.text

/-- The shape of a ref update. -/
def RefUpdate.shape : Shape RefUpdate := .record "RefUpdate" fields

/-! ## Records on the wire -/

/-- The members that events about a change may have.  All of them are read whatever the type is, so
that a bad one is a fault even where the kind does not keep it. -/
structure ChangeRecord where
  change : Change
  patchSet : Option PatchSet
  uploader : Option Account
  submitter : Option Account
  abandoner : Option Account
  restorer : Option Account
  deleter : Option Account
  changer : Option Account
  author : Option Account
  reviewer : Option Account
  adder : Option Account
  remover : Option Account
  editor : Option Account
  comment : String
  approvals : List Approval
  reason : String
  oldTopic : Option String
  added : List String
  removed : List String
  hashtags : List String

/-- The fields of an event about a change. -/
def ChangeRecord.fields : Fields ChangeRecord :=
  ChangeRecord.mk <$> .required "change" Change.shape <*> .optional "patchSet" PatchSet.shape
    <*> .account "uploader" <*> .account "submitter" <*> .account "abandoner"
    <*> .account "restorer" <*> .account "deleter" <*> .account "changer" <*> .account "author"
    <*> .account "reviewer" <*> .account "adder" <*> .account "remover" <*> .account "editor"
    <*> .textOrEmpty "comment" <*> .defaulted "approvals" [] Approval.shape.items
    <*> .textOrEmpty "reason" <*> .optional "oldTopic" Shape.text <*> .textsOrEmpty "added"
    <*> .textsOrEmpty "removed" <*> .textsOrEmpty "hashtags"

/-- The shape of an event about a change. -/
def ChangeRecord.shape : Shape ChangeRecord := .record "ChangeRecord" fields

/-- The account of an action is the one under the action's own role. -/
def ChangeRecord.actor (r : ChangeRecord) : ChangeAction → Option Account
  | .patchsetCreated => r.uploader
  | .merged => r.submitter
  | .abandoned => r.abandoner
  | .restored => r.restorer
  | .deleted => r.deleter
  | .privateStateChanged | .wipStateChanged => r.changer

/-- The shape of a direct ref update. -/
def RefUpdated.shape : Shape RefUpdated :=
  .record "RefUpdated" <|
    RefUpdated.mk <$> .required "refUpdate" RefUpdate.shape <*> .account "submitter"

/-- The shape of a replication. -/
def RefReplicated.shape : Shape RefReplicated :=
  .record "RefReplicated" <|
    RefReplicated.mk <$> .required "project" Shape.text <*> .required "ref" Shape.text
      <*> .textOrEmpty "status" <*> .textOrEmpty "targetNode"

/-- The shape of a project's creation. -/
def ProjectCreated.shape : Shape ProjectCreated :=
  .record "ProjectCreated" <|
    ProjectCreated.mk <$> .required "projectName" Shape.text <*> .optional "headName" Shape.text

/-! ## Kinds -/

/-- The shape of the events of one action. -/
def ChangeAction.shape (action : ChangeAction) : Shape EventKind := fun v =>
  (ChangeRecord.shape v).map fun r =>
    .changed action { change := r.change, patchSet := r.patchSet, account := r.actor action }

/-- The kinds that are modelled, by their type names, with their shapes. -/
def EventKind.shapes : List (String × Shape EventKind) :=
  ChangeAction.all.map (fun action => (action.typeName, action.shape)) ++
  [("comment-added", fun v => (ChangeRecord.shape v).map fun r =>
      .commentAdded
        { change := r.change, patchSet := r.patchSet, author := r.author, comment := r.comment,
          approvals := r.approvals }),
    ("reviewer-added", fun v => (ChangeRecord.shape v).map fun r =>
      .reviewerAdded
        { change := r.change, patchSet := r.patchSet, reviewer := r.reviewer, adder := r.adder }),
    ("topic-changed", fun v => (ChangeRecord.shape v).map fun r =>
      .topicChanged { change := r.change, changer := r.changer, oldTopic := r.oldTopic }),
    ("hashtags-changed", fun v => (ChangeRecord.shape v).map fun r =>
      .hashtagsChanged
        { change := r.change, editor := r.editor, added := r.added, removed := r.removed,
          hashtags := r.hashtags }),
    ("vote-deleted", fun v => (ChangeRecord.shape v).map fun r =>
      .voteDeleted
        { change := r.change, patchSet := r.patchSet, reviewer := r.reviewer,
          remover := r.remover, comment := r.comment, approvals := r.approvals }),
    ("merge-failed", fun v => (ChangeRecord.shape v).map fun r =>
      .mergeFailed
        { change := r.change, patchSet := r.patchSet, submitter := r.submitter,
          reason := r.reason }),
    ("ref-updated", fun v => (RefUpdated.shape v).map .refUpdated),
    ("ref-replicated", fun v => (RefReplicated.shape v).map .refReplicated),
    ("project-created", fun v => (ProjectCreated.shape v).map .projectCreated)]

/-- The kind of a value with a given type name. -/
def EventKind.ofJson? (type : String) (v : Json) : Except DecodeError EventKind :=
  match EventKind.shapes.lookup type with
  | some shape => (shape v).mapError .data
  | none => .ok (.other type v)

/-! ## Events -/

/-- The creation time of a value: an integer of 64 bits, anything else being no time. -/
def createdOn? (v : Json) : Option Int64 :=
  match (v.get? "eventCreatedOn").bind Json.int? with
  | some i =>
    if Int64.minValue.toInt ≤ i ∧ i ≤ Int64.maxValue.toInt then some (Int64.ofInt i) else none
  | none => none

/-- The event of a JSON value. -/
def Event.ofJson? (provider : Option Provider) (v : Json) : Except DecodeError Event :=
  if v.isObject then
    match v.textAt? "type" with
    | none => .error .missingType
    | some type =>
      (EventKind.ofJson? type v).map fun kind => { provider, createdOn := createdOn? v, kind }
  else .error .notAnObject

/-- The event of a line of the stream. -/
def Event.ofLine? (provider : Option Provider) (line : String) : Except DecodeError Event :=
  match Json.read? line with
  | none => .error .syntaxFault
  | some v => Event.ofJson? provider v

end ReviewStream
