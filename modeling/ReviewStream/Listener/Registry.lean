import ReviewStream.Error
import ReviewStream.Event.Basic
import ReviewStream.Listener.Set

/-!
# Event listeners and their registry

A listener has a generic handler and may have handlers of its own for some kinds of events.  The
registry calls exactly one handler of each listener: its own one for the kind of the event if it
has one, else the generic one.

* `Registry.isSuppressed`: comments by an ignored account reach nobody.
* `Registry.round`: the calls that an event causes, in the order of registration.
* `Registry.notify`: the calls together with what the handlers did to the registry meanwhile.
-/

namespace ReviewStream

/-! ## Handlers -/

/-- The handlers that a listener may have. -/
inductive Handler where
  /-- Takes every event for which there is no other handler. -/
  | generic
  | changed (action : ChangeAction)
  | commentAdded
  | refUpdated
  | projectCreated
  | reviewerAdded
  | topicChanged
  | hashtagsChanged
  | voteDeleted
  | mergeFailed
  | refReplicated
deriving DecidableEq

/-- The handler that is made for a kind of events. -/
def EventKind.handler : EventKind → Handler
  | .changed action _ => .changed action
  | .commentAdded _ => .commentAdded
  | .refUpdated _ => .refUpdated
  | .projectCreated _ => .projectCreated
  | .reviewerAdded _ => .reviewerAdded
  | .topicChanged _ => .topicChanged
  | .hashtagsChanged _ => .hashtagsChanged
  | .voteDeleted _ => .voteDeleted
  | .mergeFailed _ => .mergeFailed
  | .refReplicated _ => .refReplicated
  | .other .. => .generic

/-- How a call of a handler ends. -/
inductive Outcome where
  | done
  | failed (e : ListenerError)
  | crashed
deriving DecidableEq

/-- What a handler may do to the registry that calls it. -/
inductive Registration where
  | add (id : String)
  | remove (id : String)
  | removeAll
deriving DecidableEq

/-- What a call of a handler comes to. -/
structure Reaction where
  outcome : Outcome
  changes : List Registration
deriving DecidableEq

/-- A listener: the handlers that it has besides the generic one, and how it reacts. -/
structure Listener where
  own : Handler → Bool
  react : Handler → Event → Reaction

/-- The handler of a listener that takes an event. -/
def Listener.handlerFor (l : Listener) (e : Event) : Handler :=
  if l.own e.kind.handler then e.kind.handler else .generic

/-- One call of one handler. -/
structure Call where
  listener : String
  handler : Handler
  event : Event
deriving DecidableEq

/-! ## The registry -/

/-- The registered listeners and, for each server, the end of the addresses whose comments are
ignored. -/
structure Registry where
  listeners : ListenerSet Listener
  ignoredEmails : List (String × String)

namespace Registry

/-- The registry without listeners that ignores nobody. -/
def empty : Registry := ⟨.empty, []⟩

/-- The ignored address of a server. -/
def ignoredEmail? (r : Registry) (server : String) : Option String :=
  r.ignoredEmails.lookup server

/-- Sets the ignored address of a server; an empty address means that nobody is ignored. -/
def setIgnoredEmail (r : Registry) (server address : String) : Registry :=
  let others := r.ignoredEmails.filter (·.1 != server)
  { r with ignoredEmails := if address.isEmpty then others else (server, address) :: others }

/-- Whether an event is a comment by an account whose address ends with the ignored one of the
event's server. -/
def isSuppressed (r : Registry) (e : Event) : Bool :=
  match e.kind with
  | .commentAdded c =>
    match c.author.bind (·.email), e.providerName?.bind r.ignoredEmail? with
    | some email, some ignored =>
      !email.isEmpty && !ignored.isEmpty && ignored.toList.isSuffixOf email.toList
    | _, _ => false
  | _ => false

/-- The calls that an event causes: one for each listener that is registered now. -/
def round (r : Registry) (e : Event) : List Call :=
  if r.isSuppressed e then []
  else r.listeners.snapshot.map fun l => ⟨l.id, l.value.handlerFor e, e⟩

/-- Adds a listener; tells whether it was no member yet. -/
def add (r : Registry) (x : Instance Listener) : Bool × Registry :=
  let (added, listeners) := r.listeners.add x
  (added, { r with listeners })

/-- Removes a listener; tells whether it was a member. -/
def remove (r : Registry) (id : String) : Bool × Registry :=
  let (removed, listeners) := r.listeners.remove id
  (removed, { r with listeners })

/-- Removes all listeners and gives them. -/
def removeAll (r : Registry) : List (Instance Listener) × Registry :=
  let (removed, listeners) := r.listeners.removeAll
  (removed, { r with listeners })

/-! ## Handlers that change the registry -/

/-- The listeners that exist, registered or not. -/
abbrev Population := String → Listener

/-- Makes one change. -/
def apply (population : Population) (r : Registry) : Registration → Registry
  | .add id => (r.add ⟨id, population id⟩).2
  | .remove id => (r.remove id).2
  | .removeAll => r.removeAll.2

/-- What becomes of the registry when a call is carried out. -/
def afterCall (population : Population) (r : Registry) (c : Call) : Registry :=
  ((population c.listener).react c.handler c.event).changes.foldl (apply population) r

/-- Carries out the calls of an event one after the other.  The calls are settled before the first
of them, so no handler can change whom the event reaches. -/
def notify (population : Population) (r : Registry) (e : Event) : List Call × Registry :=
  let calls := r.round e
  (calls, calls.foldl (afterCall population) r)

end Registry

end ReviewStream
