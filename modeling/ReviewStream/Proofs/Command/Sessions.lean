import Mathlib.Data.List.Induction
import Mathlib.Tactic.Lemma
import ReviewStream.Command.Calls
import ReviewStream.Transport.Script

/-!
# One session at a time

A runner of queries runs its commands on one session and keeps that from call to call.  A session
that has been lost is disconnected by the next call, which opens another one in its place.

* `Orderly`: the logs of somebody who never has more than one session.
* `QueryRunner.Serves`: what one call does, in each of its three courses.
* `QueryRunner.orderly_after`: the log of a runner is orderly after all moves.
* `QueryRunner.Adds`: what a move leaves in the log.  `QueryRunner.chronicle_after`: the log tells of
  the moves, one after the other.
* **`QueryRunner.keepsOneSession_after`**: which session is held, what becomes of the others, and
  when a call connects.
-/

namespace ReviewStream

variable {σ : Type} {held : Option Nat} {n sessions : Nat} {deeds : List TransportDeed}

/-! ## Orderly logs -/

/-- The calls of somebody who has one session at most.  A session is opened while none is held, is
disconnected once, and only the one that is held is used. -/
inductive Orderly : (held : Option Nat) → (sessions : Nat) → List TransportDeed → Prop where
  | nil : Orderly none 0 []
  | refused {sessions : Nat} {deeds : List TransportDeed} {config : ConnectionConfig}
      {e : TransportError} (h : Orderly none sessions deeds) :
      Orderly none sessions (deeds ++ [.refused config e])
  | opened {sessions : Nat} {deeds : List TransportDeed} {config : ConnectionConfig}
      (h : Orderly none sessions deeds) :
      Orderly (some sessions) (sessions + 1) (deeds ++ [.opened config sessions])
  | executed {n sessions : Nat} {deeds : List TransportDeed} {command : String}
      {answer : Except TransportError String} (h : Orderly (some n) sessions deeds) :
      Orderly (some n) sessions (deeds ++ [.executed n command answer])
  | closed {n sessions : Nat} {deeds : List TransportDeed} (h : Orderly (some n) sessions deeds) :
      Orderly none sessions (deeds ++ [.closed n])

namespace TransportDeed

lemma closes_eq_true_iff {d : TransportDeed} : d.closes n = true ↔ d = .closed n := by
  cases d <;> simp [closes]

lemma countP_closes_eq_zero_iff : deeds.countP (·.closes n) = 0 ↔ .closed n ∉ deeds := by
  simp only [List.countP_eq_zero, closes_eq_true_iff]
  exact ⟨fun h hmem => h _ hmem rfl, fun h d hd hclosed => h (hclosed ▸ hd)⟩

/-- Whether a later call is not about a session that an earlier one has disconnected. -/
def LeavesAlone (d later : TransportDeed) : Prop :=
  ∀ n, d = .closed n → later.session? ≠ some n

lemma pairwise_append {later : TransportDeed} (h : deeds.Pairwise LeavesAlone)
    (hlater : ∀ n, later.session? = some n → .closed n ∉ deeds) :
    (deeds ++ [later]).Pairwise LeavesAlone := by
  refine List.pairwise_append.mpr ⟨h, List.pairwise_singleton _ _, ?_⟩
  intro d hd other hother n hclosed hn
  cases List.mem_singleton.mp hother
  exact hlater n hn (hclosed ▸ hd)

end TransportDeed

namespace Orderly

/-- Every session in the log has one of the numbers that were given out. -/
lemma lt_sessions (h : Orderly held sessions deeds) :
    (∀ n, held = some n → n < sessions) ∧
      ∀ d ∈ deeds, ∀ n, d.session? = some n → n < sessions := by
  induction h with
  | nil => simp
  | refused _ ih =>
      refine ⟨ih.1, List.forall_mem_append.mpr ⟨ih.2, List.forall_mem_singleton.mpr ?_⟩⟩
      intro n hn
      cases hn
  | @opened sessions deeds config _ ih =>
      have hbefore := fun d hd n hn => Nat.lt_succ_of_lt (ih.2 d hd n hn)
      have hnew : ∀ n, some sessions = some n → n < sessions + 1 := by
        intro n hn
        cases hn
        exact Nat.lt_succ_self sessions
      exact ⟨hnew, List.forall_mem_append.mpr ⟨hbefore, List.forall_mem_singleton.mpr hnew⟩⟩
  | executed _ ih =>
      exact ⟨ih.1, List.forall_mem_append.mpr ⟨ih.2, List.forall_mem_singleton.mpr ih.1⟩⟩
  | closed _ ih =>
      refine ⟨?_, List.forall_mem_append.mpr ⟨ih.2, List.forall_mem_singleton.mpr ih.1⟩⟩
      intro n hn
      cases hn

/-- Sessions are numbered in the order in which they are opened. -/
lemma filterMap_opened (h : Orderly held sessions deeds) :
    deeds.filterMap TransportDeed.opened? = List.range sessions := by
  induction h with
  | nil => rfl
  | refused _ ih | executed _ ih | closed _ ih =>
      rw [List.filterMap_append, ih]
      exact List.append_nil _
  | opened _ ih =>
      rw [List.filterMap_append, ih, List.range_succ]
      rfl

lemma exists_opened (h : Orderly held sessions deeds) (hn : n < sessions) :
    ∃ config, .opened config n ∈ deeds := by
  have hmem : n ∈ deeds.filterMap TransportDeed.opened? := by
    rw [h.filterMap_opened]
    exact List.mem_range.mpr hn
  obtain ⟨d, hd, hopened⟩ := List.mem_filterMap.mp hmem
  cases d with
  | opened config m =>
      cases hopened
      exact ⟨config, hd⟩
  | _ => cases hopened

/-- A session is disconnected once, unless it is held. -/
lemma countP_closes (h : Orderly held sessions deeds) (hn : n < sessions) :
    deeds.countP (·.closes n) = if held = some n then 0 else 1 := by
  induction h with
  | nil => cases hn
  | refused _ ih => simpa [TransportDeed.closes] using ih hn
  | @opened sessions deeds config hbefore ih =>
      rcases Nat.lt_succ_iff_lt_or_eq.mp hn with hlt | rfl
      · simpa [TransportDeed.closes, Nat.ne_of_gt hlt] using ih hlt
      · -- The number is new, so that no call so far was about it.
        have hnone : deeds.countP (·.closes n) = 0 := by
          refine TransportDeed.countP_closes_eq_zero_iff.mpr fun hmem => ?_
          exact Nat.lt_irrefl n (hbefore.lt_sessions.2 _ hmem n rfl)
        rw [List.countP_append, hnone]
        simp [TransportDeed.closes]
  | executed _ ih => simpa [TransportDeed.closes] using ih hn
  | @closed m sessions deeds _ ih =>
      have hbefore := ih hn
      by_cases hm : m = n
      · simpa [TransportDeed.closes, hm] using hbefore
      · simpa [TransportDeed.closes, hm] using hbefore

/-- The session that is held is the one that is open. -/
lemma isOpen_iff {s : Logbook σ} (h : Orderly held s.sessions s.deeds) :
    s.IsOpen n ↔ held = some n := by
  constructor
  · rintro ⟨⟨config, hopened⟩, hclosed⟩
    have hlt : n < s.sessions := h.lt_sessions.2 _ hopened n rfl
    have hnever := TransportDeed.countP_closes_eq_zero_iff.mpr hclosed
    rw [h.countP_closes hlt] at hnever
    refine Decidable.byContradiction fun hheld => ?_
    rw [if_neg hheld] at hnever
    cases hnever
  · intro hheld
    have hlt : n < s.sessions := h.lt_sessions.1 n hheld
    have hnever := h.countP_closes hlt
    rw [if_pos hheld] at hnever
    exact ⟨h.exists_opened hlt, TransportDeed.countP_closes_eq_zero_iff.mp hnever⟩

/-- A session that is held, or new, has not been disconnected. -/
lemma not_closed (h : Orderly held sessions deeds) (hn : held = some n ∨ n = sessions) :
    .closed n ∉ deeds := by
  intro hmem
  have hlt : n < sessions := h.lt_sessions.2 _ hmem n rfl
  have hheld : held = some n := hn.resolve_right (Nat.ne_of_lt hlt)
  have hnever := h.countP_closes hlt
  rw [if_pos hheld] at hnever
  exact TransportDeed.countP_closes_eq_zero_iff.mp hnever hmem

/-- Nothing is done with a session behind its disconnect. -/
lemma pairwise (h : Orderly held sessions deeds) :
    deeds.Pairwise TransportDeed.LeavesAlone := by
  induction h with
  | nil => exact .nil
  | refused _ ih => exact TransportDeed.pairwise_append ih nofun
  | @opened sessions deeds config hbefore ih =>
      refine TransportDeed.pairwise_append ih fun n hn => ?_
      cases hn
      exact hbefore.not_closed (.inr rfl)
  | @executed m sessions deeds command answer hbefore ih =>
      refine TransportDeed.pairwise_append ih fun n hn => ?_
      cases hn
      exact hbefore.not_closed (.inl rfl)
  | @closed m sessions deeds hbefore ih =>
      refine TransportDeed.pairwise_append ih fun n hn => ?_
      cases hn
      exact hbefore.not_closed (.inl rfl)

/-- The calls that give up the session that is held. -/
def closing (held : Option Nat) : List TransportDeed := held.toList.map .closed

/-- Whatever was held, nothing is when it has been given up. -/
lemma append_closing (h : Orderly held sessions deeds) :
    Orderly none sessions (deeds ++ closing held) := by
  cases held with
  | none => simpa [closing] using h
  | some n => exact h.closed

end Orderly

/-! ## A call -/

namespace QueryRunner

open Orderly (closing)

variable {t : Transport σ} {r : QueryRunner} {s : Logbook σ} {command : String}

/-- The session to run on when the one that is held is connected. -/
lemma ready_of_isConnected {world : σ} (h : r.isConnected t world = true) :
    ∃ n, r.session = some n ∧ r.ready t world = (.ok n, r, world) := by
  obtain ⟨config, _ | n⟩ := r
  · cases h
  · exact ⟨n, rfl, if_pos h⟩

/-- The session to run on when no connected one is held. -/
lemma ready_of_not_isConnected {world : σ} (h : r.isConnected t world = false) :
    r.ready t world = ready.renew t r world := by
  obtain ⟨config, _ | n⟩ := r
  · rfl
  · have hlost : t.isConnected n world = false := h
    simp only [ready, hlost, Bool.false_eq_true, if_false]

/-- What comes of a call for a command: its answer, and the runner and the logbook behind it. -/
inductive Serves (t : Transport σ) (r : QueryRunner) (s : Logbook σ) (command : String) :
    Except TransportError String × QueryRunner × Logbook σ → Prop where
  /-- The session that is held is connected.  It is kept, whatever the answer. -/
  | kept {n : Nat} {answer : Except TransportError String} {s' : Logbook σ}
      (hheld : r.session = some n) (hconnected : r.isConnected t.recorded s = true)
      (hsessions : s'.sessions = s.sessions)
      (hdeeds : s'.deeds = s.deeds ++ [.executed n command answer]) :
      Serves t r s command (answer, r, s')
  /-- A new session takes the place of the one that is held, if any, and is held, whatever the
  answer. -/
  | renewed {answer : Except TransportError String} {s' : Logbook σ}
      (hconnected : r.isConnected t.recorded s = false)
      (hsessions : s'.sessions = s.sessions + 1)
      (hdeeds : s'.deeds = s.deeds ++ closing r.session ++
        [.opened r.config s.sessions, .executed s.sessions command answer]) :
      Serves t r s command (answer, { r with session := some s.sessions }, s')
  /-- No session could be opened, and none is held. -/
  | refused {e : TransportError} {s' : Logbook σ}
      (hconnected : r.isConnected t.recorded s = false)
      (hsessions : s'.sessions = s.sessions)
      (hdeeds : s'.deeds = s.deeds ++ closing r.session ++ [.refused r.config e]) :
      Serves t r s command (.error e, { r with session := none }, s')

/-- Giving up the session. -/
theorem disconnect_spec (t : Transport σ) (r : QueryRunner) (s : Logbook σ) :
    (r.disconnect t.recorded s).1 = { r with session := none } ∧
      (r.disconnect t.recorded s).2.handles = s.handles ∧
      (r.disconnect t.recorded s).2.deeds = s.deeds ++ closing r.session := by
  obtain ⟨config, _ | n⟩ := r
  · simp [disconnect, closing]
  · exact ⟨rfl, rfl, rfl⟩

/-- What is taken down of a connect. -/
lemma connect_recorded (t : Transport σ) (config : ConnectionConfig) (s : Logbook σ) :
    (∃ s' : Logbook σ, t.recorded.connect config s = (.ok s.sessions, s') ∧
      s'.sessions = s.sessions + 1 ∧ s'.deeds = s.deeds ++ [.opened config s.sessions]) ∨
    ∃ (e : TransportError) (s' : Logbook σ), t.recorded.connect config s = (.error e, s') ∧
      s'.sessions = s.sessions ∧ s'.deeds = s.deeds ++ [.refused config e] := by
  rcases hconnect : t.connect config s.world with ⟨e | handle, world⟩
  · refine .inr ⟨e, s.note world (.refused config e), ?_, rfl, rfl⟩
    simp only [Transport.recorded, hconnect]
  · refine .inl ⟨{ s.note world (.opened config s.sessions) with handles := s.handles ++ [handle] },
      ?_, List.length_append, rfl⟩
    simp only [Transport.recorded, hconnect]

/-- Connecting in place of the session that is held. -/
theorem renew_cases (t : Transport σ) (r : QueryRunner) (s : Logbook σ) :
    (∃ s' : Logbook σ, ready.renew t.recorded r s =
        (.ok s.sessions, { r with session := some s.sessions }, s') ∧
      s'.sessions = s.sessions + 1 ∧
      s'.deeds = s.deeds ++ closing r.session ++ [.opened r.config s.sessions]) ∨
    ∃ (e : TransportError) (s' : Logbook σ),
      ready.renew t.recorded r s = (.error e, { r with session := none }, s') ∧
      s'.sessions = s.sessions ∧
      s'.deeds = s.deeds ++ closing r.session ++ [.refused r.config e] := by
  obtain ⟨hr, hhandles, hdeeds⟩ := disconnect_spec t r s
  generalize hgiven : r.disconnect t.recorded s = given at hr hhandles hdeeds
  obtain ⟨r', s'⟩ := given
  simp only at hr hhandles hdeeds
  subst hr
  have hsessions : s'.sessions = s.sessions := congrArg List.length hhandles
  rcases connect_recorded t r.config s' with
    ⟨s'', hconnect, hcount, hlog⟩ | ⟨e, s'', hconnect, hcount, hlog⟩
  · refine .inl ⟨s'', ?_, ?_, ?_⟩
    · rw [ready.renew, hgiven, ← hsessions]
      simp only [hconnect]
    · rw [hcount, hsessions]
    · rw [hlog, hdeeds, hsessions]
  · refine .inr ⟨e, s'', ?_, ?_, ?_⟩
    · rw [ready.renew, hgiven]
      simp only [hconnect]
    · rw [hcount, hsessions]
    · rw [hlog, hdeeds]

/-- A call takes one of the three courses. -/
theorem serves_execute (t : Transport σ) (r : QueryRunner) (command : String) (s : Logbook σ) :
    Serves t r s command (r.execute t.recorded command s) := by
  cases hconnected : r.isConnected t.recorded s with
  | true =>
      obtain ⟨n, hheld, hready⟩ := ready_of_isConnected hconnected
      rw [execute, hready]
      exact .kept hheld hconnected rfl rfl
  | false =>
      rw [execute, ready_of_not_isConnected hconnected]
      rcases renew_cases t r s with
        ⟨s', hrenew, hsessions, hdeeds⟩ | ⟨e, s', hrenew, hsessions, hdeeds⟩
      · rw [hrenew]
        refine .renewed hconnected hsessions ?_
        simp only [Transport.recorded, Logbook.note, hdeeds, List.append_assoc,
          List.singleton_append]
      · rw [hrenew]
        exact .refused hconnected hsessions hdeeds

/-- A query does what the call for its command does, and reads the answer. -/
theorem query_eq (t : Transport σ) (r : QueryRunner) (options : QueryOptions) (query : String)
    (s : σ) :
    r.query t options query s =
      (((r.execute t (options.command query) s).1.mapError Failure.transport).bind fun output =>
        (readChanges? output).mapError .decode, (r.execute t (options.command query) s).2) := by
  rw [QueryRunner.query]
  rcases r.execute t (options.command query) s with ⟨e | output, r', s'⟩
  · rfl
  · rfl

/-! ## The transport without its log -/

@[simp] lemma isConnected_bare (t : Transport σ) (r : QueryRunner) (s : Logbook σ) :
    (r.bare s).isConnected t s.world = r.isConnected t.recorded s := by
  obtain ⟨config, _ | n⟩ := r
  · rfl
  · rfl

theorem disconnect_bare (t : Transport σ) (r : QueryRunner) (s : Logbook σ) :
    (r.bare s).disconnect t s.world =
      ((r.disconnect t.recorded s).1.bare (r.disconnect t.recorded s).2,
        (r.disconnect t.recorded s).2.world) := by
  obtain ⟨config, _ | n⟩ := r
  · rfl
  · rfl

/-- The number that a new session gets from the transport. -/
lemma handle_append (s : Logbook σ) (handle : Nat) :
    (s.handles ++ [handle]).getD s.sessions s.sessions = handle := by
  simp [Logbook.sessions]

lemma renew_bare (t : Transport σ) (r : QueryRunner) (s : Logbook σ) :
    ready.renew t (r.bare s) s.world =
      ((ready.renew t.recorded r s).1.map (ready.renew t.recorded r s).2.2.handle,
        (ready.renew t.recorded r s).2.1.bare (ready.renew t.recorded r s).2.2,
        (ready.renew t.recorded r s).2.2.world) := by
  have hdisconnect := disconnect_bare t r s
  generalize hgiven : r.disconnect t.recorded s = given at hdisconnect
  obtain ⟨r', s'⟩ := given
  simp only [ready.renew, hdisconnect, hgiven]
  rcases hconnect : t.connect r'.config s'.world with ⟨e | handle, world⟩
  · simp only [bare, Transport.recorded, hconnect]
    rfl
  · simp only [bare, Transport.recorded, hconnect, Except.map, Option.map_some, Logbook.handle,
      handle_append]
    rfl

lemma ready_bare (t : Transport σ) (r : QueryRunner) (s : Logbook σ) :
    (r.bare s).ready t s.world =
      ((r.ready t.recorded s).1.map (r.ready t.recorded s).2.2.handle,
        (r.ready t.recorded s).2.1.bare (r.ready t.recorded s).2.2,
        (r.ready t.recorded s).2.2.world) := by
  cases hconnected : r.isConnected t.recorded s with
  | true =>
      obtain ⟨n, hheld, hready⟩ := ready_of_isConnected hconnected
      obtain ⟨m, hbare, hready'⟩ := ready_of_isConnected ((isConnected_bare t r s).trans hconnected)
      have hm : s.handle n = m := by simpa [bare, hheld] using hbare
      rw [hready, hready', ← hm]
      rfl
  | false =>
      rw [ready_of_not_isConnected hconnected, ← renew_bare,
        ready_of_not_isConnected ((isConnected_bare t r s).trans hconnected)]

/-- Taking down the calls changes nothing about them. -/
theorem execute_bare (t : Transport σ) (r : QueryRunner) (command : String) (s : Logbook σ) :
    (r.bare s).execute t command s.world =
      ((r.execute t.recorded command s).1,
        (r.execute t.recorded command s).2.1.bare (r.execute t.recorded command s).2.2,
        (r.execute t.recorded command s).2.2.world) := by
  have hready := ready_bare t r s
  rw [execute, execute, hready]
  rcases r.ready t.recorded s with ⟨e | n, r', s'⟩
  · rfl
  · rfl

/-! ## All calls -/

variable {config : ConnectionConfig}

/-- A call is in keeping with an orderly log. -/
lemma Serves.orderly {outcome : Except TransportError String × QueryRunner × Logbook σ}
    (hserves : Serves t r s command outcome) (h : Orderly r.session s.sessions s.deeds) :
    Orderly outcome.2.1.session outcome.2.2.sessions outcome.2.2.deeds := by
  cases hserves with
  | kept hheld hconnected hsessions hdeeds =>
      rw [hheld] at h ⊢
      rw [hsessions, hdeeds]
      exact h.executed
  | renewed hconnected hsessions hdeeds =>
      rw [hsessions, hdeeds, ← List.singleton_append, ← List.append_assoc]
      exact h.append_closing.opened.executed
  | refused hconnected hsessions hdeeds =>
      rw [hsessions, hdeeds]
      exact h.append_closing.refused

/-- A call connects once if no connected session is held, and else not at all. -/
lemma Serves.countP_isConnect {outcome : Except TransportError String × QueryRunner × Logbook σ}
    (hserves : Serves t r s command outcome) :
    ∃ made, outcome.2.2.deeds = s.deeds ++ made ∧
      made.countP (·.isConnect) = if r.isConnected t.recorded s then 0 else 1 := by
  have hclosing : (closing r.session).countP (·.isConnect) = 0 := by
    cases r.session with
    | none => rfl
    | some n => rfl
  cases hserves with
  | kept hheld hconnected hsessions hdeeds =>
      rw [if_pos hconnected]
      exact ⟨_, hdeeds, rfl⟩
  | renewed hconnected hsessions hdeeds | refused hconnected hsessions hdeeds =>
      rw [List.append_assoc] at hdeeds
      refine ⟨_, hdeeds, ?_⟩
      rw [List.countP_append, hclosing, hconnected]
      rfl

lemma Serves.config_eq {outcome : Except TransportError String × QueryRunner × Logbook σ}
    (hserves : Serves t r s command outcome) : outcome.2.1.config = r.config := by
  cases hserves with
  | kept | renewed | refused => rfl

/-- Calls of every kind keep the settings and are in keeping with an orderly log. -/
lemma move_orderly (m : Move σ) (h : Orderly r.session s.sessions s.deeds) :
    (move t (r, s) m).1.config = r.config ∧ Orderly (move t (r, s) m).1.session
      (move t (r, s) m).2.sessions (move t (r, s) m).2.deeds := by
  cases m with
  | execute command =>
      have hserves := serves_execute t r command s
      exact ⟨hserves.config_eq, hserves.orderly h⟩
  | query options query =>
      have hserves := serves_execute t r (options.command query) s
      rw [move, query_eq]
      exact ⟨hserves.config_eq, hserves.orderly h⟩
  | disconnect =>
      obtain ⟨hr, hhandles, hdeeds⟩ := disconnect_spec t r s
      rw [move, hr, hdeeds, Logbook.sessions, hhandles]
      exact ⟨rfl, h.append_closing⟩
  | pass world => exact ⟨rfl, h⟩

/-- The command of a call, if it is for one. -/
def Move.command? : Move σ → Option String
  | .execute command => some command
  | .query options text => some (options.command text)
  | .disconnect | .pass _ => none

/-- What a move leaves in the log, and which session is held before and after it.  A call for a
command ends with what came of the command, or with the connect that was refused. -/
inductive Adds (config : ConnectionConfig) :
    (before : Option Nat) → Move σ → List TransportDeed → (behind : Option Nat) → Prop where
  /-- The session is kept, whatever the answer. -/
  | kept {m : Move σ} {n : Nat} {command : String} {answer : Except TransportError String}
      (hm : m.command? = some command) :
      Adds config (some n) m [.executed n command answer] (some n)
  | renewed {m : Move σ} {held : Option Nat} {n : Nat} {command : String}
      {answer : Except TransportError String} (hm : m.command? = some command) :
      Adds config held m (closing held ++ [.opened config n, .executed n command answer]) (some n)
  | refused {m : Move σ} {held : Option Nat} {command : String} {e : TransportError}
      (hm : m.command? = some command) :
      Adds config held m (closing held ++ [.refused config e]) none
  | disconnected {held : Option Nat} : Adds config held .disconnect (closing held) none
  | passed {held : Option Nat} {world : σ} : Adds config held (.pass world) [] held

/-- The log of moves, told one after the other, and the session that is held in the end. -/
inductive Chronicle (config : ConnectionConfig) :
    List (Move σ) → List TransportDeed → (held : Option Nat) → Prop where
  | nil : Chronicle config [] [] none
  | concat {moves : List (Move σ)} {deeds piece : List TransportDeed} {m : Move σ}
      {held behind : Option Nat} (h : Chronicle config moves deeds held)
      (hadds : Adds config held m piece behind) :
      Chronicle config (moves ++ [m]) (deeds ++ piece) behind

lemma Serves.adds {outcome : Except TransportError String × QueryRunner × Logbook σ}
    (hserves : Serves t r s command outcome) {m : Move σ} (hm : m.command? = some command) :
    ∃ piece, Adds r.config r.session m piece outcome.2.1.session
      ∧ outcome.2.2.deeds = s.deeds ++ piece := by
  cases hserves with
  | kept hheld hconnected hsessions hdeeds =>
      rw [hheld]
      exact ⟨_, .kept hm, hdeeds⟩
  | renewed hconnected hsessions hdeeds =>
      exact ⟨_, .renewed hm, hdeeds.trans (List.append_assoc ..)⟩
  | refused hconnected hsessions hdeeds =>
      exact ⟨_, .refused hm, hdeeds.trans (List.append_assoc ..)⟩

lemma move_adds (t : Transport σ) (r : QueryRunner) (s : Logbook σ) (m : Move σ) :
    ∃ piece, Adds r.config r.session m piece (move t (r, s) m).1.session
      ∧ (move t (r, s) m).2.deeds = s.deeds ++ piece := by
  cases m with
  | execute command => exact (serves_execute t r command s).adds rfl
  | query options query =>
      rw [move, query_eq]
      exact (serves_execute t r (options.command query) s).adds rfl
  | disconnect =>
      obtain ⟨hr, -, hdeeds⟩ := disconnect_spec t r s
      rw [move, hr]
      exact ⟨_, .disconnected, hdeeds⟩
  | pass world => exact ⟨[], .passed, (List.append_nil _).symm⟩

/-- The log of a runner is orderly after all moves. -/
theorem orderly_after (t : Transport σ) (config : ConnectionConfig) (world : σ)
    (moves : List (Move σ)) :
    (after t config world moves).1.config = config ∧
      Orderly (after t config world moves).1.session (after t config world moves).2.sessions
        (after t config world moves).2.deeds := by
  -- The induction is on the moves from the last one on.
  induction moves using List.reverseRecOn with
  | nil => exact ⟨rfl, .nil⟩
  | append_singleton moves m ih =>
      have hstep := move_orderly (t := t) m ih.2
      rw [after, List.foldl_append]
      exact ⟨hstep.1.trans ih.1, hstep.2⟩

/-- The log of a runner tells of its moves, one after the other. -/
theorem chronicle_after (t : Transport σ) (config : ConnectionConfig) (world : σ)
    (moves : List (Move σ)) :
    Chronicle config moves (after t config world moves).2.deeds
      (after t config world moves).1.session := by
  induction moves using List.reverseRecOn with
  | nil => exact .nil
  | append_singleton moves m ih =>
      have hconfig := (orderly_after t config world moves).1
      rw [after, List.foldl_append, ← after]
      generalize after t config world moves = state at ih hconfig ⊢
      obtain ⟨r, s⟩ := state
      obtain ⟨piece, hadds, hdeeds⟩ := move_adds t r s m
      rw [List.foldl_cons, List.foldl_nil, hdeeds]
      exact ih.concat (hconfig ▸ hadds)

/-- The one session that a runner has, what became of the others, and what the next call does. -/
structure KeepsOneSession (t : Transport σ) (r : QueryRunner) (s : Logbook σ) : Prop where
  /-- The session that is held, if any, is the only one that has not been disconnected. -/
  isOpen_iff : ∀ n, s.IsOpen n ↔ r.session = some n
  /-- Sessions are told apart by their numbers. -/
  numbered : s.deeds.filterMap TransportDeed.opened? = List.range s.sessions
  /-- Every other session has been disconnected, and just once. -/
  closed_once : ∀ n < s.sessions,
    s.deeds.countP (·.closes n) = if r.session = some n then 0 else 1
  /-- No call is about a session that has been disconnected. -/
  unused : s.deeds.Pairwise TransportDeed.LeavesAlone
  /-- A call for a command takes one of the three courses. -/
  serves : ∀ command, Serves t r s command (r.execute t.recorded command s)
  /-- It connects once if no connected session is held, and else not at all. -/
  connects : ∀ command, ∃ made, (r.execute t.recorded command s).2.2.deeds = s.deeds ++ made ∧
    made.countP (·.isConnect) = if r.isConnected t.recorded s then 0 else 1
  /-- A query is served as its command is. -/
  queries : ∀ options query, r.query t.recorded options query s =
    (((r.execute t.recorded (options.command query) s).1.mapError Failure.transport).bind
      fun output => (readChanges? output).mapError .decode,
      (r.execute t.recorded (options.command query) s).2)
  /-- A disconnect gives up the session that is held, and does nothing else. -/
  disconnects : (r.disconnect t.recorded s).1.session = none ∧
    (r.disconnect t.recorded s).2.deeds = s.deeds ++ closing r.session
  /-- The transport is called in the same way when nobody takes down its calls. -/
  unlogged : ∀ command, (r.bare s).execute t command s.world =
    ((r.execute t.recorded command s).1,
      (r.execute t.recorded command s).2.1.bare (r.execute t.recorded command s).2.2,
      (r.execute t.recorded command s).2.2.world)

/-- Whatever the calls, whatever the answers of the transport and whenever a session is lost, a
runner keeps to one session, and its log tells of the calls one after the other. -/
theorem keepsOneSession_after (t : Transport σ) (config : ConnectionConfig) (world : σ)
    (moves : List (Move σ)) :
    (after t config world moves).1.config = config ∧
      KeepsOneSession t (after t config world moves).1 (after t config world moves).2 ∧
      Chronicle config moves (after t config world moves).2.deeds
        (after t config world moves).1.session := by
  have hchronicle := chronicle_after t config world moves
  obtain ⟨hconfig, horderly⟩ := orderly_after t config world moves
  generalize after t config world moves = state at hconfig horderly hchronicle ⊢
  obtain ⟨r, s⟩ := state
  refine ⟨hconfig, ?_, hchronicle⟩
  exact {
    isOpen_iff := fun n => horderly.isOpen_iff
    numbered := horderly.filterMap_opened
    closed_once := fun n hn => horderly.countP_closes hn
    unused := horderly.pairwise
    serves := fun command => serves_execute t r command s
    connects := fun command => (serves_execute t r command s).countP_isConnect
    queries := fun options query => query_eq t.recorded r options query s
    disconnects := by
      obtain ⟨hr, -, hdeeds⟩ := disconnect_spec t r s
      exact ⟨congrArg QueryRunner.session hr, hdeeds⟩
    unlogged := fun command => execute_bare t r command s }

/-- A connect that fails is made up for by the next call, and a command that fails leaves its
session to the one behind it. -/
example (config : ConnectionConfig) :
    let script := Script.ofAttempts
      [⟨0, .error .notConnected⟩, ⟨0, .ok ⟨[⟨0, .error .notConnected⟩], []⟩⟩]
    let version : Move Script := .execute "gerrit version"
    (after Script.transport config script [version, version, version, .disconnect]).2.deeds =
      [.refused config .notConnected, .opened config 0,
        .executed 0 "gerrit version" (.error .notConnected),
        .executed 0 "gerrit version" (.ok ""), .closed 0] :=
  rfl

end QueryRunner

end ReviewStream
