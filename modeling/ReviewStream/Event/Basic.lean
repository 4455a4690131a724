import ReviewStream.Json.Basic

/-!
# Review events

An event is a kind with its attributes, the moment of its creation on the server and the server
session that it was read from.  Types that are not modelled are kept with their payload.

* `Event.typeName`: the name of the type on the wire.
* `Event.project?`: the project that the event belongs to.
-/

namespace ReviewStream

/-- The server session that an event was read from. -/
structure Provider where
  name : String
  host : String
  port : UInt16
  scheme : String
  url : String
  version : String
deriving DecidableEq

/-- The provider of a stream session, whose scheme is always `ssh`. -/
def Provider.ofSession (name host : String) (port : UInt16) (url version : String) : Provider :=
  { name, host, port, scheme := "ssh", url, version }

/-! ## Attributes -/

/-- The account of a user. -/
structure Account where
  name : Option String
  email : Option String
  username : Option String
deriving DecidableEq

/-- The attributes of a change. -/
structure Change where
  project : String
  branch : String
  id : String
  number : UInt64
  subject : String
  owner : Option Account
  url : Option String
  topic : Option String
  status : Option String
deriving DecidableEq

/-- The attributes of a patch set. -/
structure PatchSet where
  number : UInt64
  revision : String
  ref : String
  uploader : Option Account
  kind : Option String
deriving DecidableEq

/-- A vote on a patch set. -/
structure Approval where
  label : String
  value : String
  description : Option String
  voter : Option Account
deriving DecidableEq

/-- The move of a ref. -/
structure RefUpdate where
  oldRev : String
  newRev : String
  refName : String
  project : String
deriving DecidableEq

/-! ## Kinds -/

/-- What happened to a change in an event that tells nothing else but who did it. -/
inductive ChangeAction where
  | patchsetCreated
  | merged
  | abandoned
  | restored
  | deleted
  | privateStateChanged
  | wipStateChanged
deriving DecidableEq

/-- The type name of an action. -/
def ChangeAction.typeName : ChangeAction → String
  | .patchsetCreated => "patchset-created"
  | .merged => "change-merged"
  | .abandoned => "change-abandoned"
  | .restored => "change-restored"
  | .deleted => "change-deleted"
  | .privateStateChanged => "private-state-changed"
  | .wipStateChanged => "wip-state-changed"

/-- All actions. -/
def ChangeAction.all : List ChangeAction :=
  [.patchsetCreated, .merged, .abandoned, .restored, .deleted, .privateStateChanged,
    .wipStateChanged]

/-- An event about a change and, usually, one of its patch sets. -/
structure ChangeEvent where
  change : Change
  patchSet : Option PatchSet
  /-- Who did it. -/
  account : Option Account
deriving DecidableEq

/-- A comment, possibly with votes. -/
structure CommentAdded where
  change : Change
  patchSet : Option PatchSet
  author : Option Account
  comment : String
  approvals : List Approval
deriving DecidableEq

/-- A ref was updated directly. -/
structure RefUpdated where
  refUpdate : RefUpdate
  submitter : Option Account
deriving DecidableEq

/-- A project was created. -/
structure ProjectCreated where
  projectName : String
  headName : Option String
deriving DecidableEq

/-- A reviewer was added to a change. -/
structure ReviewerAdded where
  change : Change
  patchSet : Option PatchSet
  reviewer : Option Account
  adder : Option Account
deriving DecidableEq

/-- The topic of a change was changed. -/
structure TopicChanged where
  change : Change
  changer : Option Account
  oldTopic : Option String
deriving DecidableEq

/-- Hashtags of a change were added or removed. -/
structure HashtagsChanged where
  change : Change
  editor : Option Account
  added : List String
  removed : List String
  /-- All hashtags after the edit. -/
  hashtags : List String
deriving DecidableEq

/-- A vote was removed. -/
structure VoteDeleted where
  change : Change
  patchSet : Option PatchSet
  reviewer : Option Account
  remover : Option Account
  comment : String
  approvals : List Approval
deriving DecidableEq

/-- A submitted change could not be merged. -/
structure MergeFailed where
  change : Change
  patchSet : Option PatchSet
  submitter : Option Account
  reason : String
deriving DecidableEq

/-- A ref was pushed to a replication target. -/
structure RefReplicated where
  project : String
  ref : String
  status : String
  targetNode : String
deriving DecidableEq

/-- The kind of an event with its attributes. -/
inductive EventKind where
  | changed (action : ChangeAction) (e : ChangeEvent)
  | commentAdded (e : CommentAdded)
  | refUpdated (e : RefUpdated)
  | projectCreated (e : ProjectCreated)
  | reviewerAdded (e : ReviewerAdded)
  | topicChanged (e : TopicChanged)
  | hashtagsChanged (e : HashtagsChanged)
  | voteDeleted (e : VoteDeleted)
  | mergeFailed (e : MergeFailed)
  | refReplicated (e : RefReplicated)
  /-- A type that is not modelled. -/
  | other (type : String) (payload : Json)
deriving DecidableEq

/-- A decoded event. -/
structure Event where
  provider : Option Provider
  /-- Seconds since the epoch, on the server's clock. -/
  createdOn : Option Int64
  kind : EventKind
deriving DecidableEq

/-! ## What an event says about itself -/

/-- The name of the type on the wire. -/
def EventKind.typeName : EventKind → String
  | .changed action _ => action.typeName
  | .commentAdded _ => "comment-added"
  | .refUpdated _ => "ref-updated"
  | .projectCreated _ => "project-created"
  | .reviewerAdded _ => "reviewer-added"
  | .topicChanged _ => "topic-changed"
  | .hashtagsChanged _ => "hashtags-changed"
  | .voteDeleted _ => "vote-deleted"
  | .mergeFailed _ => "merge-failed"
  | .refReplicated _ => "ref-replicated"
  | .other type _ => type

/-- The project named by a payload: its `project`, or the name inside that. -/
def payloadProject? (payload : Json) : Option String :=
  (payload.get? "project").bind fun p => p.text?.or (p.textAt? "name")

/-- The project that an event belongs to, if it is known. -/
def EventKind.project? : EventKind → Option String
  | .changed _ e => some e.change.project
  | .commentAdded e => some e.change.project
  | .refUpdated e => some e.refUpdate.project
  | .projectCreated e => some e.projectName
  | .reviewerAdded e => some e.change.project
  | .topicChanged e => some e.change.project
  | .hashtagsChanged e => some e.change.project
  | .voteDeleted e => some e.change.project
  | .mergeFailed e => some e.change.project
  | .refReplicated e => some e.project
  | .other _ payload => payloadProject? payload

namespace Event

/-- The name of the event's type. -/
def typeName (e : Event) : String := e.kind.typeName

/-- The project that the event belongs to, if it is known. -/
def project? (e : Event) : Option String := e.kind.project?

/-- The name of the server that the event came from. -/
def providerName? (e : Event) : Option String := e.provider.map (·.name)

end Event

end ReviewStream
