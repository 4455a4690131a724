import Mathlib.Tactic.SplitIfs
import ReviewStream.Dispatch.Work
import ReviewStream.Proofs.Listener.Containment

/-!
# Processing one item

A worker decodes the item that it has taken and tells the listeners one after the other.  Decoders
and listeners may crash.

* `WorkItem.process`: what processing an item does up to its end or to a crash.
* **`WorkItem.process_eq`**: the listeners get the calls that the item causes, whichever of them
  crash; only a decoder that crashes ends the processing.
* `Registry.AgreeExcept`: registries that differ in one listener and in what listeners do.
* **`WorkItem.received_calls_eq`**: what a listener is or does changes no call of another one.
-/

namespace ReviewStream

namespace Registry

variable {r r' : Registry} {x id : String}

/-- Calls one listener.  A listener that fails has an answer of its own, and one that crashes has
been called all the same. -/
def deliver (e : Event) (l : Instance Listener) : Attempt Call :=
  let handler := l.value.handlerFor e
  ⟨[⟨l.id, handler, e⟩], (l.value.react handler e).outcome == .crashed⟩

/-- Calls every listener, unless the event is suppressed. -/
def deliverAll (r : Registry) (e : Event) : Attempt Call :=
  if r.isSuppressed e then .done else .each (deliver e) r.listeners.snapshot

lemma deliverAll_eq (r : Registry) (e : Event) : r.deliverAll e = ⟨r.round e, false⟩ := by
  rw [deliverAll, round]
  split_ifs
  · rfl
  · rw [Attempt.each_eq, List.map_eq_flatMap]
    rfl

/-- Two registries that suppress the same events and have the same listeners with the same handlers,
but for one listener; what the handlers do may differ. -/
structure AgreeExcept (x : String) (r r' : Registry) : Prop where
  ignoredEmails_eq : r.ignoredEmails = r'.ignoredEmails
  others_eq : (r.listeners.snapshot.filter (·.id ≠ x)).map (fun l => (l.id, l.value.own))
    = (r'.listeners.snapshot.filter (·.id ≠ x)).map (fun l => (l.id, l.value.own))

end Registry

/-- The calls of one listener. -/
def received (id : String) (calls : List Call) : List Call := calls.filter (·.listener = id)

lemma received_flatMap {α : Type} (id : String) (f : α → List Call) (xs : List α) :
    received id (xs.flatMap f) = xs.flatMap fun x => received id (f x) := List.filter_flatMap ..

namespace Registry

variable {r r' : Registry} {x id : String}

/-- The call of a listener, of which nothing counts but what it is called and which handlers it
has. -/
def callOf (e : Event) (l : String × (Handler → Bool)) : Call :=
  ⟨l.1, if l.2 e.kind.handler then e.kind.handler else .generic, e⟩

/-- The calls of one listener do not depend on another one. -/
lemma received_round (r : Registry) (e : Event) (hid : id ≠ x) :
    received id (r.round e) = if r.isSuppressed e then [] else
      received id (((r.listeners.snapshot.filter (·.id ≠ x)).map
        fun l => (l.id, l.value.own)).map (callOf e)) := by
  rw [round]
  split_ifs
  · rfl
  · induction r.listeners.snapshot with
    | nil => rfl
    | cons l ls ih =>
        rw [received] at ih ⊢
        by_cases hx : l.id = x
        · have hother : l.id ≠ id := hx ▸ hid.symm
          simpa [hx, hid.symm, received] using ih
        · by_cases hl : l.id = id <;> simp_all [received, callOf, Listener.handlerFor]

lemma AgreeExcept.received_round_eq (h : r.AgreeExcept x r') (hid : id ≠ x) (e : Event) :
    received id (r.round e) = received id (r'.round e) := by
  have hignored : r.ignoredEmail? = r'.ignoredEmail? := by
    funext server
    rw [ignoredEmail?, ignoredEmail?, h.ignoredEmails_eq]
  have hsuppressed : r.isSuppressed e = r'.isSuppressed e := by
    simp only [isSuppressed, hignored]
  rw [received_round r e hid, received_round r' e hid, hsuppressed, h.others_eq]

/-- Whether no listener that is registered changes the registry. -/
def IsSteady (population : Population) (r : Registry) : Prop :=
  ∀ l ∈ r.listeners.snapshot, ∀ handler e, ((population l.id).react handler e).changes = []

lemma IsSteady.afterCall_eq {population : Population} {c : Call} (h : r.IsSteady population)
    (hc : ∃ l ∈ r.listeners.snapshot, l.id = c.listener) : r.afterCall population c = r := by
  obtain ⟨l, hl, hid⟩ := hc
  rw [afterCall, ← hid, h l hl]
  rfl

end Registry

/-! ## Items -/

namespace WorkItem

variable {w : Whitelist} {d : Decoder} {r r' : Registry} {x id : String}

/-- What processing an item does up to its end or to a crash. -/
def process (w : Whitelist) (d : Decoder) (r : Registry) (item : WorkItem) : Attempt Call :=
  if item.passes w then
    match item.decode d with
    | .event e => r.deliverAll e
    | .refused _ => .done
    | .crashed => ⟨[], true⟩
  else .done

/-- **What processing an item comes to.**  The listeners get the calls that the item causes,
whichever of them fail or crash, and nothing but a crash of the decoder ends the processing. -/
theorem process_eq (w : Whitelist) (d : Decoder) (r : Registry) (item : WorkItem) :
    item.process w d r
      = ⟨item.calls w d r, item.passes w && item.decode d == .crashed⟩ := by
  rw [process, calls, event?]
  cases item.passes w with
  | false => rfl
  | true =>
      cases item.decode d with
      | event e => exact r.deliverAll_eq e
      | refused e => rfl
      | crashed => rfl

/-- **What a listener is or does changes no call of another one.** -/
theorem received_calls_eq (h : r.AgreeExcept x r') (hid : id ≠ x) (item : WorkItem) :
    received id (item.calls w d r) = received id (item.calls w d r') := by
  rw [calls, calls]
  cases item.event? w d with
  | none => rfl
  | some e => exact h.received_round_eq hid e

/-- Items call nobody but the registered listeners. -/
lemma exists_of_mem_calls {item : WorkItem} {c : Call} (hc : c ∈ item.calls w d r) :
    ∃ l ∈ r.listeners.snapshot, l.id = c.listener := by
  rw [calls] at hc
  split at hc
  · rw [Registry.round] at hc
    split_ifs at hc
    · cases hc
    · obtain ⟨l, hl, rfl⟩ := List.mem_map.mp hc
      exact ⟨l, hl, rfl⟩
  · cases hc

end WorkItem

end ReviewStream
