import ReviewStream.Event.Basic
import ReviewStream.Json.Writer

/-!
# Events as JSON

Two ways to write an event as a JSON value.

* `Event.toRecord`: the record of an event as it is printed, with its provider, its creation time
  and its kind; every field is written, an absent one as null.
* `Event.toWire`: the object from which the event is decoded, with each field under its key on the
  wire.
-/

namespace ReviewStream

/-! ## Attributes -/

/-- The record of a provider. -/
def Provider.toJson (p : Provider) : Json :=
  .object [("name", .text p.name), ("host", .text p.host), ("port", .nat p.port.toNat),
    ("scheme", .text p.scheme), ("url", .text p.url), ("version", .text p.version)]

/-- The record of an account. -/
def Account.toJson (a : Account) : Json :=
  .object [("name", .optText a.name), ("email", .optText a.email),
    ("username", .optText a.username)]

/-- The record of an account, or null. -/
def Json.optAccount : Option Account → Json := Json.ofOption Account.toJson

/-- The record of a change. -/
def Change.toJson (c : Change) : Json :=
  .object [("project", .text c.project), ("branch", .text c.branch), ("id", .text c.id),
    ("number", .nat c.number.toNat), ("subject", .text c.subject), ("owner", .optAccount c.owner),
    ("url", .optText c.url), ("topic", .optText c.topic), ("status", .optText c.status)]

/-- The record of a patch set. -/
def PatchSet.toJson (p : PatchSet) : Json :=
  .object [("number", .nat p.number.toNat), ("revision", .text p.revision), ("ref", .text p.ref),
    ("uploader", .optAccount p.uploader), ("kind", .optText p.kind)]

/-- The record of a patch set, or null. -/
def Json.optPatchSet : Option PatchSet → Json := Json.ofOption PatchSet.toJson

/-- The record of a vote. -/
def Approval.toJson (a : Approval) : Json :=
  .object [("type", .text a.label), ("value", .text a.value),
    ("description", .optText a.description), ("by", .optAccount a.voter)]

/-- The record of some votes. -/
def Json.approvals (as : List Approval) : Json := .list (as.map Approval.toJson)

/-- The record of a ref update. -/
def RefUpdate.toJson (r : RefUpdate) : Json :=
  .object [("oldRev", .text r.oldRev), ("newRev", .text r.newRev), ("refName", .text r.refName),
    ("project", .text r.project)]

/-! ## Printed records -/

/-- The attributes of a kind under their names in the printed record. -/
def EventKind.members : EventKind → List (String × Json)
  | .changed _ e =>
    [("change", e.change.toJson), ("patch_set", .optPatchSet e.patchSet),
      ("account", .optAccount e.account)]
  | .commentAdded e =>
    [("change", e.change.toJson), ("patch_set", .optPatchSet e.patchSet),
      ("author", .optAccount e.author), ("comment", .text e.comment),
      ("approvals", .approvals e.approvals)]
  | .refUpdated e => [("ref_update", e.refUpdate.toJson), ("submitter", .optAccount e.submitter)]
  | .projectCreated e =>
    [("project_name", .text e.projectName), ("head_name", .optText e.headName)]
  | .reviewerAdded e =>
    [("change", e.change.toJson), ("patch_set", .optPatchSet e.patchSet),
      ("reviewer", .optAccount e.reviewer), ("adder", .optAccount e.adder)]
  | .topicChanged e =>
    [("change", e.change.toJson), ("changer", .optAccount e.changer),
      ("old_topic", .optText e.oldTopic)]
  | .hashtagsChanged e =>
    [("change", e.change.toJson), ("editor", .optAccount e.editor), ("added", .texts e.added),
      ("removed", .texts e.removed), ("hashtags", .texts e.hashtags)]
  | .voteDeleted e =>
    [("change", e.change.toJson), ("patch_set", .optPatchSet e.patchSet),
      ("reviewer", .optAccount e.reviewer), ("remover", .optAccount e.remover),
      ("comment", .text e.comment), ("approvals", .approvals e.approvals)]
  | .mergeFailed e =>
    [("change", e.change.toJson), ("patch_set", .optPatchSet e.patchSet),
      ("submitter", .optAccount e.submitter), ("reason", .text e.reason)]
  | .refReplicated e =>
    [("project", .text e.project), ("git_ref", .text e.ref), ("status", .text e.status),
      ("target_node", .text e.targetNode)]
  | .other type payload => [("event_type", .text type), ("payload", payload)]

/-- The name of an action among the kinds. -/
def ChangeAction.variant : ChangeAction → String
  | .patchsetCreated => "PatchsetCreated"
  | .merged => "ChangeMerged"
  | .abandoned => "ChangeAbandoned"
  | .restored => "ChangeRestored"
  | .deleted => "ChangeDeleted"
  | .privateStateChanged => "PrivateStateChanged"
  | .wipStateChanged => "WipStateChanged"

/-- The name of a kind among the kinds. -/
def EventKind.variant : EventKind → String
  | .changed action _ => action.variant
  | .commentAdded _ => "CommentAdded"
  | .refUpdated _ => "RefUpdated"
  | .projectCreated _ => "ProjectCreated"
  | .reviewerAdded _ => "ReviewerAdded"
  | .topicChanged _ => "TopicChanged"
  | .hashtagsChanged _ => "HashtagsChanged"
  | .voteDeleted _ => "VoteDeleted"
  | .mergeFailed _ => "MergeFailed"
  | .refReplicated _ => "RefReplicated"
  | .other .. => "Other"

/-- A name whose words begin with capitals, in small letters with a hyphen before every word but the
first. -/
def Text.hyphenate (name : String) : String :=
  match name.toList with
  | [] => ""
  | c :: cs =>
    String.ofList <|
      c.toLower :: cs.flatMap fun c => if c.isUpper then ['-', c.toLower] else [c]

/-- The tag of a kind in the printed record: the name of the kind, hyphenated. -/
def EventKind.tag (kind : EventKind) : String := Text.hyphenate kind.variant

/-- The record of a kind, its tag first. -/
def EventKind.toRecord (kind : EventKind) : Json :=
  .object (("type", .text kind.tag) :: kind.members)

/-- The record of an event. -/
def Event.toRecord (e : Event) : Json :=
  .object [("provider", .ofOption Provider.toJson e.provider),
    ("event_created_on", .ofOption (fun t => .int t.toInt) e.createdOn),
    ("kind", e.kind.toRecord)]

/-- The printed text of an event. -/
def Event.toText (e : Event) : String := e.toRecord.toText

/-! ## Wire objects -/

/-- The key of an action's account on the wire. -/
def ChangeAction.roleKey : ChangeAction → String
  | .patchsetCreated => "uploader"
  | .merged => "submitter"
  | .abandoned => "abandoner"
  | .restored => "restorer"
  | .deleted => "deleter"
  | .privateStateChanged | .wipStateChanged => "changer"

/-- The attributes of a modelled kind under their keys on the wire. -/
def EventKind.wireMembers : EventKind → List (String × Json)
  | .changed action e =>
    [("change", e.change.toJson), ("patchSet", .optPatchSet e.patchSet),
      (action.roleKey, .optAccount e.account)]
  | .commentAdded e =>
    [("change", e.change.toJson), ("patchSet", .optPatchSet e.patchSet),
      ("author", .optAccount e.author), ("comment", .text e.comment),
      ("approvals", .approvals e.approvals)]
  | .refUpdated e => [("refUpdate", e.refUpdate.toJson), ("submitter", .optAccount e.submitter)]
  | .projectCreated e =>
    [("projectName", .text e.projectName), ("headName", .optText e.headName)]
  | .reviewerAdded e =>
    [("change", e.change.toJson), ("patchSet", .optPatchSet e.patchSet),
      ("reviewer", .optAccount e.reviewer), ("adder", .optAccount e.adder)]
  | .topicChanged e =>
    [("change", e.change.toJson), ("changer", .optAccount e.changer),
      ("oldTopic", .optText e.oldTopic)]
  | .hashtagsChanged e =>
    [("change", e.change.toJson), ("editor", .optAccount e.editor), ("added", .texts e.added),
      ("removed", .texts e.removed), ("hashtags", .texts e.hashtags)]
  | .voteDeleted e =>
    [("change", e.change.toJson), ("patchSet", .optPatchSet e.patchSet),
      ("reviewer", .optAccount e.reviewer), ("remover", .optAccount e.remover),
      ("comment", .text e.comment), ("approvals", .approvals e.approvals)]
  | .mergeFailed e =>
    [("change", e.change.toJson), ("patchSet", .optPatchSet e.patchSet),
      ("submitter", .optAccount e.submitter), ("reason", .text e.reason)]
  | .refReplicated e =>
    [("project", .text e.project), ("ref", .text e.ref), ("status", .text e.status),
      ("targetNode", .text e.targetNode)]
  | .other _ (.object members) => members
  | .other .. => []

/-- The object from which an event of a modelled kind is decoded. -/
def Event.toWire (e : Event) : Json :=
  let created := match e.createdOn with
    | none => []
    | some t => [("eventCreatedOn", Json.int t.toInt)]
  .object (("type", .text e.typeName) :: created ++ e.kind.wireMembers)

end ReviewStream
