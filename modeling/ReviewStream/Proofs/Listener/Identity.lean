import Mathlib.Tactic.Lemma
import Mathlib.Tactic.SplitIfs
import ReviewStream.Listener.Shared

/-!
# Instances and their values

Members of a set of listeners are told apart by their identity.  Give all instances other values,
even the same one, and every call has the same answer.

* `SharedListeners.map`: a shared set whose instances have other values.
* **`SharedListeners.after_map`**: whatever the tasks do, it comes to the same.
-/

namespace ReviewStream

variable {α β : Type}

/-! ## Other values -/

/-- The same instance with another value. -/
def Instance.map (f : α → β) (x : Instance α) : Instance β := ⟨x.id, f x.value⟩

/-- The same members with other values. -/
def ListenerSet.map (f : α → β) (l : ListenerSet α) : ListenerSet β :=
  ⟨l.members.map (Instance.map f)⟩

/-- The same call about instances with other values. -/
def ListenerWrite.map (f : α → β) : ListenerWrite α → ListenerWrite β
  | add x => .add (x.map f)
  | remove id => .remove id
  | removeAll => .removeAll

/-- The same writer with other values. -/
def ListenerWriter.map (f : α → β) : ListenerWriter α → ListenerWriter β
  | adding x loaded => .adding (x.map f) loaded
  | removing id loaded => .removing id loaded
  | clearing => .clearing
  | leaving => .leaving

/-- The same answer about instances with other values. -/
def ListenerDeed.map (f : α → β) : ListenerDeed α → ListenerDeed β
  | added x done => .added (x.map f) done
  | removed id done => .removed id done
  | cleared members => .cleared (members.map (Instance.map f))
  | asked id found => .asked id found
  | taken pointer => .taken pointer

namespace SharedListeners

/-- The same set with other values. -/
def map (f : α → β) (s : SharedListeners α) : SharedListeners β where
  made := s.made.map (ListenerSet.map f)
  current := s.current
  current_lt := by rw [List.length_map]; exact s.current_lt
  writer := s.writer.map (ListenerWriter.map f)
  log := s.log.map (ListenerDeed.map f)

/-- The same act with other values. -/
def Act.map (f : α → β) : Act α → Act β
  | enter w => .enter (w.map f)
  | advance => .advance
  | ask id => .ask id
  | take => .take

end SharedListeners

namespace ListenerSet

variable (f : α → β) (l : ListenerSet α)

@[simp] lemma contains_map (id : String) : (l.map f).contains id = l.contains id := by
  simp [contains, map, Function.comp_def, Instance.map]

lemma add_map (x : Instance α) : (l.map f).add (x.map f) = ((l.add x).1, (l.add x).2.map f) := by
  rw [add, add, show (x.map f).id = x.id from rfl, contains_map]
  split_ifs
  · rfl
  · simp [map]

lemma remove_map (id : String) :
    (l.map f).remove id = ((l.remove id).1, (l.remove id).2.map f) := by
  rw [remove, remove, contains_map]
  split_ifs
  · simp [map, List.eraseP_map, Function.comp_def, Instance.map]
  · rfl

end ListenerSet

namespace SharedListeners

variable (f : α → β) (s : SharedListeners α)

lemma inUse_map : (s.map f).inUse = s.inUse.map f := by
  simp [inUse, map]

lemma listAt_map (pointer : Nat) : (s.map f).listAt pointer = (s.listAt pointer).map f := by
  rw [listAt, listAt, List.getD_eq_getElem?_getD, List.getD_eq_getElem?_getD, map,
    List.getElem?_map]
  cases s.made[pointer]? with
  | none => rfl
  | some l => rfl

lemma note_map (d : ListenerDeed α) : (s.map f).note (d.map f) = (s.note d).map f := by
  simp [note, map]

lemma store_map (l : ListenerSet α) : (s.map f).store (l.map f) = (s.store l).map f := by
  simp [store, map]

lemma finish_map (d : ListenerDeed α) : (s.map f).finish (d.map f) = (s.finish d).map f := by
  simp [finish, note, map]
  rfl

lemma settle_map (outcome : Bool × ListenerSet α) (deed : Bool → ListenerDeed α) :
    (s.map f).settle (outcome.1, outcome.2.map f) (fun done => (deed done).map f) =
      (s.settle outcome deed).map f := by
  rw [settle, settle]
  split_ifs
  · rw [store_map, finish_map]
  · rw [finish_map]

lemma advance_map : (s.map f).advance = s.advance.map f := by
  have hwriter : (s.map f).writer = s.writer.map (ListenerWriter.map f) := rfl
  rw [advance, advance, hwriter]
  cases s.writer with
  | none => rfl
  | some writer =>
      cases writer with
      | adding x loaded =>
          cases loaded with
          | none => rfl
          | some pointer =>
              simp only [Option.map_some, ListenerWriter.map, listAt_map, ListenerSet.add_map]
              exact settle_map f s ((s.listAt pointer).add x) (.added x)
      | removing id loaded =>
          cases loaded with
          | none => rfl
          | some pointer =>
              simp only [Option.map_some, ListenerWriter.map, listAt_map, ListenerSet.remove_map]
              exact settle_map f s ((s.listAt pointer).remove id) (.removed id)
      | clearing =>
          simp only [Option.map_some, ListenerWriter.map, inUse_map]
          rw [← finish_map, ← store_map]
          rfl
      | leaving => rfl

lemma enter_map (w : ListenerWrite α) : (s.map f).enter (w.map f) = (s.enter w).map f := by
  have hwriter : (s.map f).writer = s.writer.map (ListenerWriter.map f) := rfl
  rw [enter, enter, hwriter]
  cases s.writer with
  | some writer => rfl
  | none =>
      cases w with
      | add | remove | removeAll => rfl

lemma act_map (a : Act α) : (s.map f).act (a.map f) = (s.act a).map f := by
  cases a with
  | enter w => exact enter_map f s w
  | advance => exact advance_map f s
  | ask id =>
      rw [act, Act.map, act, inUse_map, ListenerSet.contains_map]
      exact note_map f s (.asked id _)
  | take => exact note_map f s (.taken s.current)

/-- Instances with other values get the same answers. -/
theorem after_map (acts : List (Act α)) :
    (s.map f).after (acts.map (Act.map f)) = (s.after acts).map f := by
  induction acts generalizing s with
  | nil => rfl
  | cons a acts ih =>
      rw [List.map_cons, after, List.foldl_cons, act_map, ← after, ih]
      rfl

end SharedListeners

end ReviewStream
