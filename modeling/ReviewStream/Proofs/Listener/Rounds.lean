import Mathlib.Data.List.Sort
import ReviewStream.Proofs.Event.Kinds
import ReviewStream.Proofs.Listener.Membership

/-!
# Whom an event reaches

An event is told to the listeners that were registered when the round took its snapshot, in the
order of registration and to one handler of each.  Whatever the handlers come to and whatever is
done to the registry meanwhile, the round makes the same calls.

* `Listener.Answers`: the handler of a listener that has to take an event.
  `Listener.answers_iff`: it is the one that is called.
* `Round.Tells`: calls that tell the registered listeners of an event.  **`Round.Tells.unique`**:
  there is no choice.
* `Round.Underway`: a round for which it is settled whom it calls.  `Round.Underway.step` and
  `Round.Underway.run`: one step, and any number of them, keep it one.
* `Round.exists_run_finished`: every round gets to its end.
* **`Round.run_script`**: what the registry does by itself is one of the rounds.
* **`Round.calls_due`**: which calls a round makes, whatever happens in its course.
-/

namespace ReviewStream

open Registry (Population)

/-! ## Handlers -/

namespace Handler

/-- The type of the events that a handler is made for.  The generic handler is made for none. -/
def typeName? : Handler → Option String
  | .generic => none
  | .changed action => some action.typeName
  | .commentAdded => some "comment-added"
  | .refUpdated => some "ref-updated"
  | .projectCreated => some "project-created"
  | .reviewerAdded => some "reviewer-added"
  | .topicChanged => some "topic-changed"
  | .hashtagsChanged => some "hashtags-changed"
  | .voteDeleted => some "vote-deleted"
  | .mergeFailed => some "merge-failed"
  | .refReplicated => some "ref-replicated"

/-- All handlers. -/
def all : List Handler :=
  [.generic, .commentAdded, .refUpdated, .projectCreated, .reviewerAdded, .topicChanged,
    .hashtagsChanged, .voteDeleted, .mergeFailed, .refReplicated] ++ ChangeAction.all.map .changed

lemma mem_all (h : Handler) : h ∈ all := by
  cases h with
  | changed action => cases action <;> decide
  | _ => decide

/-- No two handlers are made for the same type. -/
lemma typeName?_inj {h h' : Handler} (heq : h.typeName? = h'.typeName?) : h = h' := by
  have hnodup : (all.map typeName?).Nodup := by decide
  exact List.inj_on_of_nodup_map hnodup (mem_all h) (mem_all h') heq

/-- Whether a handler is made for the kind of an event.  An event of a type that is not modelled
has none, whatever its type is called. -/
def IsFor (h : Handler) (e : Event) : Prop :=
  e.kind.IsModelled ∧ h.typeName? = some e.typeName

end Handler

lemma EventKind.typeName?_handler {kind : EventKind} (h : kind.IsModelled) :
    kind.handler.typeName? = some kind.typeName := by
  cases kind with
  | other type payload => exact h.elim
  | _ => rfl

lemma Handler.isFor_iff {h : Handler} {e : Event} :
    h.IsFor e ↔ e.kind.IsModelled ∧ h = e.kind.handler := by
  refine and_congr_right fun hmodelled => ⟨fun hname => ?_, ?_⟩
  · exact Handler.typeName?_inj (hname.trans (EventKind.typeName?_handler hmodelled).symm)
  · rintro rfl
    exact EventKind.typeName?_handler hmodelled

/-- Whether a handler of a listener has to take an event: the one that is made for the kind of the
event if the listener has it, else the generic one. -/
def Listener.Answers (l : Listener) (e : Event) (h : Handler) : Prop :=
  h.IsFor e ∧ l.own h = true ∨ h = .generic ∧ ∀ own : Handler, own.IsFor e → l.own own = false

lemma Listener.answers_iff {l : Listener} {e : Event} {h : Handler} :
    l.Answers e h ↔ h = l.handlerFor e := by
  rw [Answers, handlerFor]
  simp only [Handler.isFor_iff]
  by_cases hmodelled : e.kind.IsModelled
  · by_cases hown : l.own e.kind.handler = true
    · simp only [hmodelled, hown, if_true]
      constructor
      · rintro (⟨⟨-, rfl⟩, -⟩ | ⟨-, hnone⟩)
        · rfl
        · exact absurd (hnone _ ⟨trivial, rfl⟩) (by simp [hown])
      · rintro rfl
        exact .inl ⟨⟨trivial, rfl⟩, hown⟩
    · rw [if_neg hown]
      constructor
      · rintro (⟨⟨-, rfl⟩, hown'⟩ | ⟨rfl, -⟩)
        · exact absurd hown' hown
        · rfl
      · rintro rfl
        refine .inr ⟨rfl, ?_⟩
        rintro own ⟨-, rfl⟩
        simpa using hown
  · have hgeneric : e.kind.handler = .generic := by
      cases hkind : e.kind with
      | other type payload => rfl
      | _ =>
          rw [hkind] at hmodelled
          exact absurd trivial hmodelled
    simp [hmodelled, hgeneric]

namespace Round

variable {population : Population} {history : List Registry.Change} {e : Event} {calls : List Call}
  {ls : List (Instance Listener)} {s s' : Round} {acts : List Act}

/-! ## The calls that an event asks for -/

/-- Calls that tell the registered listeners of an event: one of each of them, in the order of
registration, and to the handler that has to take it. -/
structure Tells (population : Population) (history : List Registry.Change) (e : Event)
    (calls : List Call) : Prop where
  inOrder : calls.Pairwise fun c later => Registry.Before history c.listener later.listener
  mem_iff : ∀ id, (∃ c ∈ calls, c.listener = id) ↔ (Registry.since history id).isSome
  answers : ∀ c ∈ calls, c.event = e ∧ (population c.listener).Answers e c.handler

lemma Tells.subset {calls' : List Call} (h : Tells population history e calls)
    (h' : Tells population history e calls') : calls ⊆ calls' := by
  intro c hc
  obtain ⟨c', hc', hlistener⟩ :=
    (h'.mem_iff c.listener).mpr ((h.mem_iff c.listener).mp ⟨c, hc, rfl⟩)
  obtain ⟨hevent, hanswers⟩ := h.answers c hc
  obtain ⟨hevent', hanswers'⟩ := h'.answers c' hc'
  have hhandler : c'.handler = c.handler := by
    rw [Listener.answers_iff.mp hanswers, Listener.answers_iff.mp hanswers', hlistener]
  have heq : c' = c := by
    cases c
    cases c'
    simp_all
  exact heq ▸ hc'

lemma Tells.nodup (h : Tells population history e calls) : calls.Nodup :=
  h.inOrder.imp fun hbefore heq => hbefore.ne (congrArg Call.listener heq)

/-- **There is no choice** of whom to tell, of the handlers or of the order. -/
theorem Tells.unique {calls' : List Call} (h : Tells population history e calls)
    (h' : Tells population history e calls') : calls = calls' := by
  have hperm : calls.Perm calls' :=
    (List.perm_ext_iff_of_nodup h.nodup h'.nodup).mpr fun c =>
      ⟨fun hc => h.subset h' hc, fun hc => h'.subset h hc⟩
  exact hperm.eq_of_pairwise (fun c c' _ _ hbefore hafter => absurd hafter hbefore.asymm)
    h.inOrder h'.inOrder

/-- What the handlers come to makes no difference. -/
lemma Tells.congr {population' : Population}
    (hown : ∀ id, (population' id).own = (population id).own)
    (h : Tells population history e calls) : Tells population' history e calls where
  inOrder := h.inOrder
  mem_iff := h.mem_iff
  answers c hc := by
    rw [Listener.Answers, hown]
    exact h.answers c hc

/-- Calling the members of a registry one after the other tells all who are registered. -/
lemma tells_of_lists (h : Registry.Lists population history ls) (e : Event) :
    Tells population history e (ls.map (callOf e)) where
  inOrder := List.pairwise_map.mpr h.inOrder
  mem_iff id := by
    rw [← h.mem_iff]
    simp [callOf]
  answers c hc := by
    obtain ⟨l, hl, rfl⟩ := List.mem_map.mp hc
    refine ⟨rfl, ?_⟩
    rw [callOf, ← h.value_eq l hl]
    exact Listener.answers_iff.mpr rfl

/-- The calls that are due: none if the event is suppressed by what has been done to the registry
when the round looks, else those to the listeners that are registered when it takes its
snapshot. -/
structure Due (population : Population) (checked fetched : List Registry.Change) (e : Event)
    (calls : List Call) : Prop where
  of_suppressed : (Registry.after population checked).isSuppressed e = true → calls = []
  of_admitted : (Registry.after population checked).isSuppressed e = false →
    Tells population fetched e calls

lemma Due.eq {population' : Population} {checked fetched : List Registry.Change}
    {calls' : List Call} (hown : ∀ id, (population' id).own = (population id).own)
    (h : Due population checked fetched e calls) (h' : Due population' checked fetched e calls') :
    calls' = calls := by
  have hchecked := Registry.isSuppressed_after population population' checked e
  cases hsuppressed : (Registry.after population checked).isSuppressed e with
  | true => rw [h.of_suppressed hsuppressed, h'.of_suppressed (hchecked.trans hsuppressed)]
  | false =>
      have htells := (h.of_admitted hsuppressed).congr hown
      exact (h'.of_admitted (hchecked.trans hsuppressed)).unique htells

/-! ## Rounds that have their listeners -/

/-- The listeners that a round has yet to turn to. -/
def Stage.left : Stage → List (Instance Listener)
  | .between left | .within left => left
  | .arrived | .admitted | .finished => []

/-- A round for which it is settled whom it calls: the calls that it has made and those that are
left are the calls to these listeners. -/
structure Underway (ls : List (Instance Listener)) (e : Event) (s : Round) : Prop where
  settled : s.stage ≠ .arrived ∧ s.stage ≠ .admitted
  event_eq : s.event = e
  made_append : s.made ++ s.stage.left.map (callOf e) = ls.map (callOf e)

/-- A snapshot has been taken. -/
lemma Underway.of_snapshot (r : Registry) (ls : List (Instance Listener)) (e : Event) :
    Underway ls e ⟨r, e, .between ls, []⟩ := ⟨⟨nofun, nofun⟩, rfl, rfl⟩

/-- The event is suppressed. -/
lemma Underway.of_suppressed (r : Registry) (e : Event) : Underway [] e ⟨r, e, .finished, []⟩ :=
  ⟨⟨nofun, nofun⟩, rfl, rfl⟩

/-- Nothing that happens makes a difference to whom the round calls. -/
lemma Underway.step (h : Underway ls e s) {act : Act} (hstep : s.step population act = some s') :
    Underway ls e s' := by
  obtain ⟨⟨harrived, hadmitted⟩, rfl, hmade⟩ := h
  obtain ⟨r, e, stage, made⟩ := s
  cases act with
  | change c =>
      cases hstep
      exact ⟨⟨harrived, hadmitted⟩, rfl, hmade⟩
  | check =>
      cases stage with
      | arrived => exact absurd rfl harrived
      | _ => cases hstep
  | fetch =>
      cases stage with
      | admitted => exact absurd rfl hadmitted
      | _ => cases hstep
  | next =>
      cases stage with
      | between left =>
          cases left with
          | nil =>
              cases hstep
              exact ⟨⟨nofun, nofun⟩, rfl, hmade⟩
          | cons l left =>
              cases hstep
              exact ⟨⟨nofun, nofun⟩, rfl, by simpa [Stage.left] using hmade⟩
      | _ => cases hstep
  | ends outcome =>
      cases stage with
      | within left =>
          cases hstep
          exact ⟨⟨nofun, nofun⟩, rfl, hmade⟩
      | _ => cases hstep

lemma Underway.run (h : Underway ls e s) (hrun : s.run population acts = some s') :
    Underway ls e s' := by
  induction acts generalizing s with
  | nil => exact Option.some.inj hrun ▸ h
  | cons act acts ih =>
      obtain ⟨next, hstep, hrest⟩ := Option.bind_eq_some_iff.mp hrun
      exact ih (h.step hstep) hrest

lemma Underway.made_isPrefix (h : Underway ls e s) : s.made <+: ls.map (callOf e) :=
  ⟨_, h.made_append⟩

lemma Underway.made_eq (h : Underway ls e s) (hfinished : s.stage = .finished) :
    s.made = ls.map (callOf e) := by
  rw [← h.made_append, hfinished, Stage.left, List.map_nil, List.append_nil]

/-! ## Rounds from their start -/

/-- What is done to the registry. -/
def Act.changes : Act → List Registry.Change
  | .change c => [c]
  | .check | .fetch | .next | .ends _ => []

/-- What is done to the registry before something happens for the first time. -/
def changesUntil (moment : Act) : List Act → List Registry.Change
  | [] => []
  | act :: rest => if act = moment then [] else act.changes ++ changesUntil moment rest

@[simp]
lemma changesUntil_cons_self (moment : Act) : changesUntil moment (moment :: acts) = [] :=
  if_pos rfl

lemma append_changesUntil {moment act : Act} (hne : act ≠ moment) :
    history ++ changesUntil moment (act :: acts)
      = history ++ act.changes ++ changesUntil moment acts := by
  rw [changesUntil, if_neg hne, List.append_assoc]

/-- The listeners that a round settles on: none if the event is suppressed when the round looks,
else those that are registered when the round takes its snapshot. -/
def audience (population : Population) (before : List Registry.Change) (e : Event)
    (acts : List Act) : List (Instance Listener) :=
  if (Registry.after population (before ++ changesUntil .check acts)).isSuppressed e then []
  else (Registry.after population (before ++ changesUntil .fetch acts)).listeners.snapshot

lemma run_of_admitted
    (hrun : Round.run population ⟨.after population history, e, .admitted, []⟩ acts = some s) :
    s.stage ≠ .finished ∧ s.made = [] ∨
      Underway (Registry.after population (history ++ changesUntil .fetch acts)).listeners.snapshot
        e s := by
  induction acts generalizing history with
  | nil =>
      cases hrun
      exact .inl ⟨nofun, rfl⟩
  | cons act acts ih =>
      obtain ⟨next, hstep, hrest⟩ := Option.bind_eq_some_iff.mp hrun
      cases act with
      | change c =>
          cases hstep
          rw [← Registry.after_append] at hrest
          rw [append_changesUntil (show .change c ≠ Act.fetch from nofun)]
          exact ih hrest
      | fetch =>
          cases hstep
          rw [changesUntil_cons_self, List.append_nil]
          exact .inr ((Underway.of_snapshot ..).run hrest)
      | check | next | ends outcome => cases hstep

lemma run_of_arrived
    (hrun : Round.run population ⟨.after population history, e, .arrived, []⟩ acts = some s) :
    s.stage ≠ .finished ∧ s.made = [] ∨ Underway (audience population history e acts) e s := by
  induction acts generalizing history with
  | nil =>
      cases hrun
      exact .inl ⟨nofun, rfl⟩
  | cons act acts ih =>
      obtain ⟨next, hstep, hrest⟩ := Option.bind_eq_some_iff.mp hrun
      cases act with
      | change c =>
          cases hstep
          rw [← Registry.after_append] at hrest
          rw [audience, append_changesUntil (show .change c ≠ Act.check from nofun),
            append_changesUntil (show .change c ≠ Act.fetch from nofun)]
          exact ih hrest
      | check =>
          cases hstep
          rw [audience, changesUntil_cons_self, List.append_nil,
            append_changesUntil (show Act.check ≠ .fetch from nofun), Act.changes, List.append_nil]
          by_cases hsuppressed : (Registry.after population history).isSuppressed e = true
          · -- The round is finished before it takes a snapshot.
            rw [if_pos hsuppressed] at hrest ⊢
            exact .inr ((Underway.of_suppressed ..).run hrest)
          · rw [if_neg hsuppressed] at hrest ⊢
            exact run_of_admitted hrest
      | fetch | next | ends outcome => cases hstep

lemma due_audience (population : Population) (before : List Registry.Change) (e : Event)
    (acts : List Act) :
    Due population (before ++ changesUntil .check acts) (before ++ changesUntil .fetch acts) e
      ((audience population before e acts).map (callOf e)) where
  of_suppressed h := by rw [audience, if_pos h, List.map_nil]
  of_admitted h := by
    rw [audience, h, if_neg Bool.false_ne_true]
    exact tells_of_lists (Registry.lists_after ..) e

/-! ## Rounds to their end -/

/-- A round that is between two calls gets to its end, whatever the handlers that are left come
to. -/
lemma exists_run_of_between (population : Population) (outcome : Outcome) (r : Registry)
    (e : Event) (left : List (Instance Listener)) (made : List Call) :
    ∃ rest last, Round.run population ⟨r, e, .between left, made⟩ rest = some last ∧
      last.stage = .finished ∧ ∀ o, .ends o ∈ rest → o = outcome := by
  induction left generalizing made with
  | nil => exact ⟨[.next], _, rfl, rfl, by simp⟩
  | cons l left ih =>
      obtain ⟨rest, last, hrun, hfinished, houtcome⟩ := ih (made ++ [callOf e l])
      refine ⟨.next :: .ends outcome :: rest, last, hrun, hfinished, fun o ho => ?_⟩
      rcases List.mem_cons.mp ho with ho | ho
      · cases ho
      rcases List.mem_cons.mp ho with ho | ho
      · cases ho
        rfl
      · exact houtcome o ho

/-- Every round gets to its end, whatever the handlers that are left come to. -/
lemma exists_run_finished (population : Population) (outcome : Outcome) (s : Round) :
    ∃ rest last, s.run population rest = some last ∧ last.stage = .finished ∧
      ∀ o, .ends o ∈ rest → o = outcome := by
  obtain ⟨r, e, stage, made⟩ := s
  cases stage with
  | finished => exact ⟨[], _, rfl, rfl, by simp⟩
  | between left => exact exists_run_of_between population outcome r e left made
  | within left =>
      obtain ⟨rest, last, hrun, hfinished, houtcome⟩ :=
        exists_run_of_between population outcome r e left made
      exact ⟨.ends outcome :: rest, last, hrun, hfinished, by simpa using houtcome⟩
  | admitted =>
      obtain ⟨rest, last, hrun, hfinished, houtcome⟩ :=
        exists_run_of_between population outcome r e r.listeners.snapshot made
      exact ⟨.fetch :: rest, last, hrun, hfinished, by simpa using houtcome⟩
  | arrived =>
      by_cases hsuppressed : r.isSuppressed e = true
      · refine ⟨[.check], _, rfl, ?_, by simp⟩
        simp [hsuppressed]
      · obtain ⟨rest, last, hrun, hfinished, houtcome⟩ :=
          exists_run_of_between population outcome r e r.listeners.snapshot made
        refine ⟨.check :: .fetch :: rest, last, ?_, hfinished, by simpa using houtcome⟩
        simpa [run, step, hsuppressed] using hrun

/-! ## The round that the registry carries out by itself -/

/-- What happens while a call is carried out: its handler is entered, makes its changes to the
registry and comes to its end. -/
def performed (population : Population) (c : Call) : List Act :=
  let reaction := (population c.listener).react c.handler c.event
  .next :: (reaction.changes.map fun c => .change (.registration c)) ++ [.ends reaction.outcome]

/-- What happens in a round that nobody but the handlers disturbs. -/
def script (population : Population) (r : Registry) (e : Event) : List Act :=
  .check :: if r.isSuppressed e then []
    else .fetch :: ((r.round e).flatMap (performed population) ++ [.next])

lemma run_eq_foldlM (s : Round) (acts : List Act) :
    s.run population acts = acts.foldlM (step population) s := by
  induction acts generalizing s with
  | nil => rfl
  | cons act acts ih =>
      rw [run, List.foldlM_cons]
      exact congrArg _ (funext ih)

lemma run_append (s : Round) (acts rest : List Act) :
    s.run population (acts ++ rest)
      = (s.run population acts).bind fun next => next.run population rest := by
  simp only [run_eq_foldlM, List.foldlM_append, Option.bind_eq_bind]

lemma run_changes (s : Round) (cs : List Registration) :
    s.run population (cs.map fun c => .change (.registration c))
      = some { s with registry := cs.foldl (Registry.apply population) s.registry } := by
  induction cs generalizing s with
  | nil => rfl
  | cons c cs ih => exact ih _

/-- Carrying out one call. -/
lemma run_performed (r : Registry) (e : Event) (l : Instance Listener)
    (left : List (Instance Listener)) (made : List Call) :
    Round.run population ⟨r, e, .between (l :: left), made⟩ (performed population (callOf e l))
      = some ⟨r.afterCall population (callOf e l), e, .between left, made ++ [callOf e l]⟩ := by
  rw [performed, List.cons_append, run]
  exact (run_append ..).trans (by rw [run_changes]; rfl)

lemma run_members (r : Registry) (e : Event) (ls : List (Instance Listener)) (made : List Call) :
    Round.run population ⟨r, e, .between ls, made⟩
        ((ls.map (callOf e)).flatMap (performed population) ++ [.next])
      = some ⟨(ls.map (callOf e)).foldl (Registry.afterCall population) r, e, .finished,
          made ++ ls.map (callOf e)⟩ := by
  induction ls generalizing r made with
  | nil => simp [run, step]
  | cons l ls ih =>
      rw [List.map_cons, List.flatMap_cons, List.append_assoc, run_append, run_performed]
      simpa using ih (r.afterCall population (callOf e l)) (made ++ [callOf e l])

/-- **What the registry does by itself is a round.** -/
theorem run_script (population : Population) (r : Registry) (e : Event) :
    (ofEvent r e).run population (script population r e)
      = some ⟨(r.notify population e).2, e, .finished, (r.notify population e).1⟩ := by
  by_cases hsuppressed : r.isSuppressed e = true
  · simp [script, Registry.notify, Registry.round, run, step, ofEvent, hsuppressed]
  · have hround : r.round e = r.listeners.snapshot.map (callOf e) := if_neg hsuppressed
    rw [script, if_neg hsuppressed, Registry.notify, hround]
    simpa [run, step, ofEvent, hsuppressed] using run_members r e r.listeners.snapshot []

lemma changesUntil_check_script (population : Population) (r : Registry) (e : Event) :
    changesUntil .check (script population r e) = [] := changesUntil_cons_self _

lemma changesUntil_fetch_script (population : Population) (r : Registry) (e : Event) :
    changesUntil .fetch (script population r e) = [] := by
  rw [script]
  split_ifs
  · rfl
  · rfl

/-! ## Whom an event reaches -/

variable {before : List Registry.Change}

/-- What a round has called is part of what is due, and all of it when the round is finished. -/
lemma made_of_run
    (hrun : (ofEvent (.after population before) e).run population acts = some s) :
    s.made <+: (audience population before e acts).map (callOf e) ∧
      (s.stage = .finished → s.made = (audience population before e acts).map (callOf e)) := by
  rcases run_of_arrived hrun with ⟨hstage, hmade⟩ | hunderway
  · rw [hmade]
    exact ⟨List.nil_prefix, fun hfinished => absurd hfinished hstage⟩
  · exact ⟨hunderway.made_isPrefix, hunderway.made_eq⟩

/-- **Whom an event reaches.**  An event that is suppressed reaches nobody.  Any other one is told
to the listeners that were registered when the round began, once to each, in the order of
registration, and to the handler that has to take it.  The round gets to its end, whatever the
handlers come to, and neither that nor what is done to the registry in its course makes a difference
to its calls. -/
theorem calls_due (population : Population) (before : List Registry.Change) (e : Event) :
    Due population before before e ((Registry.after population before).notify population e).1 ∧
      ∀ acts s, (ofEvent (.after population before) e).run population acts = some s →
        (∃ calls, Due population (before ++ changesUntil .check acts)
            (before ++ changesUntil .fetch acts) e calls ∧
          s.made <+: calls ∧ (s.stage = .finished → s.made = calls)) ∧
        (∀ outcome, ∃ rest last, s.run population rest = some last ∧ last.stage = .finished ∧
          ∀ o, .ends o ∈ rest → o = outcome) ∧
        ∀ (population' : Population) (acts' : List Act) (s' : Round),
          (∀ id, (population' id).own = (population id).own) →
          (ofEvent (.after population' before) e).run population' acts' = some s' →
          changesUntil .check acts' = changesUntil .check acts →
          changesUntil .fetch acts' = changesUntil .fetch acts →
          s.stage = .finished → s'.stage = .finished → s'.made = s.made := by
  refine ⟨?_, fun acts s hrun => ⟨?_, ?_, ?_⟩⟩
  · have hscript := run_script population (.after population before) e
    have hdue := due_audience population before e (script population (.after population before) e)
    rw [changesUntil_check_script, changesUntil_fetch_script, List.append_nil] at hdue
    have hmade := (made_of_run hscript).2 rfl
    rw [← hmade] at hdue
    exact hdue
  · exact ⟨_, due_audience population before e acts, made_of_run hrun⟩
  · exact fun outcome => exists_run_finished population outcome s
  · intro population' acts' s' hown hrun' hcheck hfetch hfinished hfinished'
    have hdue := due_audience population before e acts
    have hdue' := due_audience population' before e acts'
    rw [hcheck, hfetch] at hdue'
    rw [(made_of_run hrun).2 hfinished, (made_of_run hrun').2 hfinished']
    exact hdue.eq hown hdue'

/-- Three listeners have been added and one of them has been taken out again.  The first one that is
called has a handler of its own.  It crashes after having removed everybody and added somebody new;
the second one fails.  Both are called, as if nothing had happened. -/
theorem calls_due_despite_crash :
    let e : Event := ⟨none, none, .refUpdated ⟨⟨"", "", "refs/heads/main", "tools"⟩, none⟩⟩
    let moody : Population := fun id =>
      if id = "gate" then ⟨(· = .refUpdated), fun _ _ => ⟨.crashed, [.removeAll, .add "late"]⟩⟩
      else ⟨fun _ => false, fun _ _ => ⟨.failed ⟨"full"⟩, []⟩⟩
    let calm : Population := fun id => ⟨(moody id).own, fun _ _ => ⟨.done, []⟩⟩
    let before : List Registry.Change :=
      [.registration (.add "gone"), .registration (.add "gate"), .registration (.add "log"),
        .registration (.add "gate"), .registration (.remove "gone")]
    let acts : List Act :=
      [.check, .fetch, .next, .change (.registration .removeAll),
        .change (.registration (.add "late")), .ends .crashed, .next,
        .ends (.failed ⟨"full"⟩), .next]
    let quiet : List Act := [.check, .fetch, .next, .ends .done, .next, .ends .done, .next]
    let calls : List Call := [⟨"gate", .refUpdated, e⟩, ⟨"log", .generic, e⟩]
    ((Registry.after moody before).notify moody e).1 = calls ∧
      Due moody before before e calls ∧
      ((ofEvent (.after moody before) e).run moody acts).map (·.made) = some calls ∧
      ((ofEvent (.after calm before) e).run calm quiet).map (·.made) = some calls := by
  intro e moody calm before acts quiet calls
  obtain ⟨hnotify, hruns⟩ := calls_due moody before e
  obtain ⟨⟨due, hdue, -, hmade⟩, -, hsame⟩ := hruns acts _ rfl
  have hcalls : calls = due := hmade rfl
  have hquiet := hsame calm quiet _ (fun _ => rfl) rfl rfl rfl rfl rfl
  exact ⟨rfl, hcalls ▸ hdue, rfl, congrArg some hquiet⟩

end Round

end ReviewStream
