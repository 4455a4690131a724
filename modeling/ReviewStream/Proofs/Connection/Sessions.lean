import Mathlib.Tactic.Set
import ReviewStream.Proofs.Connection.Points

/-!
# Sessions are handed back

A connect that succeeds hands out a session, and whoever has a session disconnects it or passes it
on: from the version query to the stream, and from one stream to the next.

* `Course.session?`: the session that the task has in hand.
* `Course.Hands`: what comes into the task's hands is what goes out of them or stays there.
* **`Course.released_eq`**: sessions are disconnected once each, in order, before the next connect.
* `Course.Abandons`: the one place where a session falls out of the task's hands.
-/

namespace ReviewStream

open Connection (Move)

/-! ## What is handed out and handed back -/

/-- The sessions that connects have handed out.  The first thing to be done on a session is the
version query. -/
def handed (deeds : List Deed) : List Nat :=
  deeds.filterMap fun
    | .call (.execute session _) => some session
    | _ => none

/-- The sessions whose disconnect has begun. -/
def released (deeds : List Deed) : List Nat :=
  deeds.filterMap fun
    | .call (.disconnect session) => some session
    | _ => none

/-- Whether a deed leaves the number of sessions alone. -/
def Deed.isNeutral : Deed → Bool
  | .call (.connect _) | .call (.execute _ _) | .call (.disconnect _) => false
  | _ => true

/-- Whether a connect succeeds. -/
def Happening.connects : Happening → Bool
  | .wake .connected => true
  | _ => false

lemma handed_append (xs ys : List Deed) : handed (xs ++ ys) = handed xs ++ handed ys :=
  List.filterMap_append

lemma released_append (xs ys : List Deed) : released (xs ++ ys) = released xs ++ released ys :=
  List.filterMap_append

lemma handed_released_of_neutral {deeds : List Deed} (h : ∀ d ∈ deeds, d.isNeutral = true) :
    handed deeds = [] ∧ released deeds = [] := by
  constructor
  all_goals
    refine List.filterMap_eq_nil_iff.mpr fun d hd => ?_
    have hneutral := h d hd
    cases d with
    | call c => cases c <;> first | rfl | cases hneutral
    | _ => rfl

lemma not_connect_of_neutral {deeds : List Deed} (h : ∀ d ∈ deeds, d.isNeutral = true)
    (config : ConnectionConfig) : .call (.connect config) ∉ deeds := by
  intro hmem
  cases h _ hmem

/-! ## What the task has in hand -/

/-- The session that a waiting task has in hand.  One that is being disconnected is not. -/
def Task.session? : Task → Option Nat
  | .querying session | .opening session => some session
  | .reading s | .pausing s => some s.session
  | .backingOff reusable => reusable
  | _ => none

/-- The session that the task has in hand. -/
def Point.session? (task : Task) : Point → Option Nat
  | .waiting => task.session?
  | .loop reusable | .choose reusable | .leave reusable | .report reusable _ | .mourn reusable _ =>
    reusable
  | .reuse session | .arm session | .guard session | .ask session | .establish session
  | .announce session | .read session | .unguard session _ | .disarm session _
  | .judge session _ _ => some session
  | .connect | .prepare | .refresh | .attempt | .crashed => none

namespace Course

variable {r : Course} {c : Connection} {p : Point} {x : Happening} {turn : Course × List Deed}

/-- The session that the task has in hand. -/
def session? (r : Course) : Option Nat := r.point.session? r.connection.task

/-- Nothing is lost: the task had a session in hand or got one, and hands it back or keeps it; and
it has none when it begins a connect. -/
structure Hands (r : Course) (x : Happening) (turn : Course × List Deed) : Prop where
  kept : r.session?.toList ++ handed turn.2 = released turn.2 ++ turn.1.session?.toList
  counted : List.range turn.1.connection.sessions
    = List.range r.connection.sessions ++ handed turn.2
  connected : turn.1.connection.sessions = r.connection.sessions + [x].countP (·.connects)
  empty : ∀ config, Deed.call (.connect config) ∈ turn.2 →
    r.session? = none ∧ turn.2 = [.call (.connect config)]

/-- A happening in which no session comes or goes. -/
lemma hands_of_neutral (hsession : turn.1.session? = r.session?)
    (hsessions : turn.1.connection.sessions = r.connection.sessions)
    (hconnects : x.connects = false) (hneutral : ∀ d ∈ turn.2, d.isNeutral = true) :
    r.Hands x turn := by
  obtain ⟨hhanded, hreleased⟩ := handed_released_of_neutral hneutral
  constructor
  case kept => rw [hhanded, hreleased, hsession, List.append_nil, List.nil_append]
  case counted => rw [hhanded, hsessions, List.append_nil]
  case connected => simp [hsessions, hconnects]
  case empty => exact fun config hmem => absurd hmem (not_connect_of_neutral hneutral config)

/-- A happening in which the disconnect of the session in hand begins. -/
lemma hands_of_disconnect {session : Nat} {next : Course} (hbefore : r.session? = some session)
    (hafter : next.session? = none) (hsessions : next.connection.sessions = r.connection.sessions)
    (hconnects : x.connects = false) : r.Hands x (next, [.call (.disconnect session)]) := by
  constructor
  case kept =>
    rw [hbefore, hafter]
    rfl
  case counted =>
    rw [hsessions]
    exact (List.append_nil _).symm
  case connected => simp [hsessions, hconnects]
  case empty => simp

/-! ## What the task does -/

/-- A connect begins while the task has no session in hand. -/
lemma hands_attempt (crashing : String → Bool) :
    Hands ⟨c, .attempt⟩ (.pass crashing) (c.pass crashing .attempt) := by
  rw [Connection.pass]
  split_ifs
  · exact hands_of_neutral rfl rfl rfl (by simp)
  · constructor
    case kept => rfl
    case counted => exact (List.append_nil _).symm
    case connected => rfl
    case empty =>
      intro config hmem
      rw [List.mem_singleton.mp hmem]
      exact ⟨rfl, rfl⟩

/-- Observers that crash do not make the task drop its session. -/
lemma hands_announce {session : Nat} (crashing : String → Bool) :
    Hands ⟨c, .announce session⟩ (.pass crashing) (c.pass crashing (.announce session)) := by
  rw [Connection.pass_announce]
  refine hands_of_neutral rfl rfl rfl fun d hd => ?_
  obtain ⟨observer, rfl⟩ := Connection.exists_eq_of_mem_tellAll hd
  rfl

lemma hands_mourn {reusable : Option Nat} {backOff : Bool} (crashing : String → Bool) :
    Hands ⟨c, .mourn reusable backOff⟩ (.pass crashing)
      (c.pass crashing (.mourn reusable backOff)) := by
  have hneutral : ∀ d ∈ if c.established then c.tellAll .down else [], d.isNeutral = true := by
    intro d hd
    split_ifs at hd
    · obtain ⟨observer, rfl⟩ := Connection.exists_eq_of_mem_tellAll hd
      rfl
    · exact absurd hd List.not_mem_nil
  rw [Connection.pass_mourn]
  split_ifs at hneutral ⊢ <;> exact hands_of_neutral rfl rfl rfl hneutral

lemma hands_pass (c : Connection) (p : Point) (crashing : String → Bool) :
    Hands ⟨c, p⟩ (.pass crashing) (c.pass crashing p) := by
  cases p with
  | waiting | crashed | prepare | arm | disarm | report | read =>
      exact hands_of_neutral rfl rfl rfl (by simp [Connection.pass])
  | loop reusable =>
      refine hands_of_neutral ?_ rfl rfl (by simp [Connection.pass])
      cases hstop : c.shutdown <;> simp only [Connection.pass, hstop] <;> rfl
  | connect =>
      refine hands_of_neutral ?_ rfl rfl (by simp [Connection.pass])
      cases hstop : c.shutdown <;> simp only [Connection.pass, hstop] <;> rfl
  | choose reusable =>
      cases reusable with
      | none => exact hands_of_neutral rfl rfl rfl (by simp [Connection.pass])
      | some session =>
          rw [Connection.pass]
          split_ifs
          · exact hands_of_neutral rfl rfl rfl (by simp)
          · exact hands_of_disconnect rfl rfl rfl rfl
  | leave reusable =>
      cases reusable with
      | none => exact hands_of_neutral rfl rfl rfl (by simp [Connection.pass])
      | some session => exact hands_of_disconnect rfl rfl rfl rfl
  | refresh =>
      have hneutral : ∀ d ∈ c.refresh.2, d.isNeutral = true := by
        intro d hd
        rw [Connection.eq_of_mem_refresh hd]
        rfl
      refine hands_of_neutral rfl ?_ rfl hneutral
      simp only [Connection.pass]
      rw [Connection.refresh_eq]
  | attempt => exact hands_attempt crashing
  | guard session =>
      refine hands_of_neutral rfl rfl rfl ?_
      cases htimeout : c.config.watchdogTimeout? <;>
        simp [Connection.pass, htimeout, Deed.isNeutral]
  | reuse session | establish session =>
      rw [Connection.pass]
      split_ifs
      · exact hands_of_neutral rfl rfl rfl (by simp)
      · exact hands_of_neutral rfl rfl rfl (by simp)
  | ask session =>
      rw [Connection.pass]
      split_ifs
      · exact hands_of_neutral rfl rfl rfl (by simp)
      · exact hands_of_neutral rfl rfl rfl (by simp [Deed.isNeutral])
  | announce session => exact hands_announce crashing
  | unguard session e =>
      refine hands_of_neutral rfl rfl rfl fun d hd => ?_
      rw [Connection.eq_of_mem_stopWatchdog hd]
      rfl
  | judge session e cancelled =>
      simp only [Connection.pass]
      split_ifs
      · exact hands_of_neutral rfl rfl rfl (by simp)
      · exact hands_of_disconnect rfl rfl rfl rfl
  | mourn reusable backOff => exact hands_mourn crashing

/-- **After a wait nothing is lost either**, unless the task gives up while it waits for the
version: then it has forgotten the session. -/
lemma hands_of_wakes {move : Move} (h : c.Wakes move turn) :
    Hands ⟨c, .waiting⟩ (.wake move) turn
      ∨ move = .run ∧ turn = (⟨c, .leave none⟩, []) ∧ ∃ session, c.task = .querying session := by
  have hsession : session? ⟨c, .waiting⟩ = c.task.session? := rfl
  cases h with
  | stopQuerying htask _ => exact .inr ⟨rfl, rfl, _, htask⟩
  | stopWaiting htask _ | stopReading htask _ =>
      left
      rcases htask with htask | htask <;>
        exact hands_of_neutral (by rw [hsession, htask]; rfl) rfl rfl (by simp)
  | begin htask | stopRejecting htask _ | stopBackingOff htask _ | stopOpening htask _
  | refused htask _ | answered htask _ | opened htask _ | unopened htask _ | finished htask _
  | broken htask _ | rejected htask _ | released htask | discarded htask | closed htask
  | retried htask _ | backedOff htask _ | paused htask _ =>
      exact .inl (hands_of_neutral (by rw [hsession, htask]; rfl) rfl rfl (by simp))
  | unanswered htask _ =>
      exact .inl (hands_of_disconnect (by rw [hsession, htask]; rfl) rfl rfl rfl)
  | received htask _ =>
      left
      refine hands_of_neutral (by rw [hsession, htask]; rfl) rfl rfl fun d hd => ?_
      obtain ⟨line, rfl⟩ | rfl := Connection.eq_of_mem_take hd
      · rfl
      · rfl
  | connected htask _ =>
      left
      constructor
      case kept =>
        rw [hsession, htask]
        rfl
      case counted => exact List.range_succ
      case connected => rfl
      case empty => simp

/-- Others do not touch sessions. -/
lemma hands_strike (hfresh : r.Fresh) (s : Strike) :
    r.Hands (.strike s) (⟨(r.connection.struck s).1, r.point⟩, (r.connection.struck s).2) := by
  cases s with
  | launch =>
      simp only [Connection.struck]
      split_ifs with hstarted
      · exact hands_of_neutral rfl rfl rfl (by simp)
      · obtain ⟨hpoint, htask⟩ := hfresh.mp (Bool.eq_false_iff.mpr hstarted)
        refine hands_of_neutral ?_ rfl rfl (by simp)
        rw [session?, session?, hpoint, htask]
        rfl
  | unwatch =>
      refine hands_of_neutral rfl rfl rfl fun d hd => ?_
      rw [Connection.eq_of_mem_stopWatchdog hd]
      rfl
  | _ => exact hands_of_neutral rfl rfl rfl (by simp [Connection.struck])

/-- The task gives up while it waits for the version. -/
def Forgets (r : Course) (x : Happening) : Prop :=
  x = .wake .run ∧ r.point = .waiting ∧ ∃ session, r.connection.task = .querying session

/-- **What becomes of the session in hand.** -/
theorem hands_or_forgets (hfresh : r.Fresh) (hstep : r.step x = some turn) :
    r.Hands x turn ∨ r.Forgets x ∧ turn = (⟨r.connection, .leave none⟩, []) := by
  cases x with
  | pass crashing =>
      obtain rfl := Option.some.inj hstep
      exact .inl (hands_pass r.connection r.point crashing)
  | wake move =>
      obtain ⟨c, p⟩ := r
      cases p <;> try cases hstep
      rcases hands_of_wakes (Connection.wake_spec hstep) with h | ⟨rfl, hturn, htask⟩
      · exact .inl h
      · exact .inr ⟨⟨rfl, rfl, htask⟩, hturn⟩
  | strike s =>
      obtain rfl := Option.some.inj hstep
      exact .inl (hands_strike hfresh s)

/-- What is forgotten is lost. -/
lemma Hands.not_forgets (h : r.Hands x turn) (hstep : r.step x = some turn) : ¬ r.Forgets x := by
  rintro ⟨rfl, hpoint, session, htask⟩
  obtain ⟨c, p⟩ := r
  obtain rfl : p = .waiting := hpoint
  have hsession : session? ⟨c, .waiting⟩ = some session := by
    rw [session?, Point.session?, htask]
    rfl
  have hkept := h.kept
  have hwakes : c.Wakes .run turn := Connection.wake_spec hstep
  cases hwakes <;> simp_all [handed, released, session?, Point.session?]

/-! ## The end of the task -/

/-- The task has no session in hand and will not have another one. -/
def IsGone (r : Course) : Prop := r.point = .leave none ∨ r.HasEnded

/-- Once the task is gone nothing happens to sessions. -/
lemma IsGone.step (h : r.IsGone) (hfresh : r.Fresh) (hstep : r.step x = some turn) :
    turn.1.IsGone ∧ x.connects = false ∧ turn.1.connection.sessions = r.connection.sessions
      ∧ ∀ d ∈ turn.2, d.isNeutral = true := by
  obtain ⟨c, p⟩ := r
  have hstarted : c.started = true := by
    cases hunstarted : c.started with
    | true => rfl
    | false =>
        obtain ⟨hpoint, htask⟩ := hfresh.mp hunstarted
        rcases h with h | h
        · cases h.symm.trans hpoint
        · cases h.2.symm.trans htask
  cases x with
  | pass crashing =>
      obtain rfl := Option.some.inj hstep
      rcases h with h | h
      · obtain rfl : p = .leave none := h
        exact ⟨.inr ⟨rfl, rfl⟩, rfl, rfl, by simp [Connection.pass]⟩
      · obtain rfl : p = .waiting := h.1
        exact ⟨.inr h, rfl, rfl, by simp [Connection.pass]⟩
  | wake move =>
      cases p <;> try cases hstep
      have hended : c.task = .ended := (h.resolve_left (by rintro ⟨⟩)).2
      cases Connection.wake_spec hstep <;> simp_all
  | strike s =>
      obtain rfl := Option.some.inj hstep
      cases s with
      | launch =>
          rw [if_pos hstarted]
          exact ⟨h, rfl, rfl, by simp⟩
      | unwatch =>
          refine ⟨h, rfl, rfl, fun d hd => ?_⟩
          rw [Connection.eq_of_mem_stopWatchdog hd]
          rfl
      | _ => exact ⟨h, rfl, rfl, by simp⟩

/-! ## Runs -/

/-- Somewhere in a run the task gives up while it waits for the version. -/
def Abandons (start : Course) (happenings : List Happening) : Prop :=
  ∃ earlier x later r sights, happenings = earlier ++ x :: later
    ∧ start.log earlier = some (r, sights) ∧ r.Forgets x

lemma abandons_snoc {start : Course} {past : List Happening} {sights : List Sight}
    (hlog : start.log past = some (r, sights)) :
    start.Abandons (past ++ [x]) ↔ start.Abandons past ∨ r.Forgets x := by
  constructor
  · rintro ⟨earlier, y, later, s, seen, hsplit, hearlier, hforgets⟩
    rcases List.eq_nil_or_concat later with rfl | ⟨middle, z, rfl⟩
    · obtain ⟨rfl, hx⟩ := List.append_inj' hsplit rfl
      obtain rfl := List.singleton_inj.mp hx
      cases hlog.symm.trans hearlier
      exact .inr hforgets
    · have hpast : past ++ [x] = (earlier ++ y :: middle) ++ [z] := by simpa using hsplit
      obtain ⟨rfl, -⟩ := List.append_inj' hpast rfl
      exact .inl ⟨earlier, y, middle, s, seen, rfl, hearlier, hforgets⟩
  · rintro (⟨earlier, y, later, s, seen, rfl, hearlier, hforgets⟩ | hforgets)
    · exact ⟨earlier, y, later ++ [x], s, seen, by simp, hearlier, hforgets⟩
    · exact ⟨past, x, [], r, sights, rfl, hlog, hforgets⟩

/-- All that has been handed out is handed back before each connect. -/
def Balanced (deeds : List Deed) : Prop :=
  ∀ earlier config later, deeds = earlier ++ .call (.connect config) :: later →
    handed earlier = released earlier

lemma Balanced.append {xs ys : List Deed} (h : Balanced xs)
    (hnew : ∀ config, Deed.call (.connect config) ∈ ys →
      handed xs = released xs ∧ ys = [.call (.connect config)]) : Balanced (xs ++ ys) := by
  intro earlier config later hsplit
  rcases List.append_eq_append_iff.mp hsplit with ⟨as, rfl, hys⟩ | ⟨cs, rfl, hcs⟩
  · have hmem : Deed.call (.connect config) ∈ ys := by simp [hys]
    obtain ⟨hbalance, hsingle⟩ := hnew config hmem
    -- Nothing else is done in the happening that begins the connect.
    have hnil : as = [] := by
      cases as with
      | nil => rfl
      | cons d as =>
          rw [hys] at hsingle
          simp at hsingle
    rw [hnil, List.append_nil]
    exact hbalance
  · cases cs with
    | nil =>
        have hmem : Deed.call (.connect config) ∈ ys := by
          rw [List.nil_append] at hcs
          simp [← hcs]
        simpa using (hnew config hmem).1
    | cons d cs =>
        rw [List.cons_append, List.cons.injEq] at hcs
        exact h earlier config cs (by rw [hcs.1])

/-- What has become of the sessions so far: those that have been handed out are handed back, but for
one that is in hand or was forgotten. -/
structure Tracks (start : Course) (past : List Happening) (r : Course) (deeds : List Deed) :
    Prop where
  fresh : r.Fresh
  handed_eq : handed deeds = List.range r.connection.sessions
  sessions_eq : r.connection.sessions = past.countP (·.connects)
  balanced : Balanced deeds
  balance : ¬ start.Abandons past ∧ handed deeds = released deeds ++ r.session?.toList
    ∨ start.Abandons past ∧ r.IsGone ∧ ∃ session, handed deeds = released deeds ++ [session]

lemma Tracks.hands {start : Course} {past : List Happening} {sights : List Sight}
    {deeds : List Deed} (hlog : start.log past = some (r, sights)) (h : start.Tracks past r deeds)
    (hstep : r.step x = some turn) (hhands : r.Hands x turn) :
    start.Tracks (past ++ [x]) turn.1 (deeds ++ turn.2) := by
  constructor
  case fresh => exact h.fresh.step hstep
  case handed_eq => rw [handed_append, h.handed_eq, hhands.counted]
  case sessions_eq => rw [List.countP_append, ← h.sessions_eq, hhands.connected]
  case balanced =>
    refine h.balanced.append fun config hmem => ?_
    obtain ⟨hnone, hsingle⟩ := hhands.empty config hmem
    rcases h.balance with ⟨-, hbalance⟩ | ⟨-, hgone, -⟩
    · rw [hnone] at hbalance
      exact ⟨by simpa using hbalance, hsingle⟩
    · exact absurd hmem (not_connect_of_neutral (hgone.step h.fresh hstep).2.2.2 config)
  case balance =>
    rcases h.balance with ⟨hnot, hbalance⟩ | ⟨habandons, hgone, session, hbalance⟩
    · left
      constructor
      · rw [abandons_snoc hlog]
        rintro (habandons | hforgets)
        · exact hnot habandons
        · exact hhands.not_forgets hstep hforgets
      · calc handed (deeds ++ turn.2)
            = released deeds ++ (r.session?.toList ++ handed turn.2) := by
              rw [handed_append, hbalance, List.append_assoc]
          _ = released (deeds ++ turn.2) ++ turn.1.session?.toList := by
              rw [hhands.kept, released_append, List.append_assoc]
    · right
      obtain ⟨hgoneAfter, -, -, hneutral⟩ := hgone.step h.fresh hstep
      refine ⟨(abandons_snoc hlog).mpr (.inl habandons), hgoneAfter, session, ?_⟩
      obtain ⟨hhanded, hreleased⟩ := handed_released_of_neutral hneutral
      rw [handed_append, released_append, hhanded, hreleased, List.append_nil, List.append_nil,
        hbalance]

lemma Tracks.forgets {start : Course} {past : List Happening} {sights : List Sight}
    {deeds : List Deed} (hlog : start.log past = some (r, sights)) (h : start.Tracks past r deeds)
    (hstep : r.step x = some (⟨r.connection, .leave none⟩, [])) (hforgets : r.Forgets x) :
    start.Tracks (past ++ [x]) ⟨r.connection, .leave none⟩ deeds := by
  have hconnects : x.connects = false := by
    rw [hforgets.1]
    rfl
  constructor
  case fresh => exact h.fresh.step hstep
  case handed_eq => exact h.handed_eq
  case sessions_eq => simp [h.sessions_eq, hconnects]
  case balanced => exact h.balanced
  case balance =>
    refine .inr ⟨(abandons_snoc hlog).mpr (.inr hforgets), .inl rfl, ?_⟩
    rcases h.balance with ⟨-, hbalance⟩ | ⟨-, -, hbalance⟩
    · obtain ⟨-, hpoint, session, htask⟩ := hforgets
      refine ⟨session, ?_⟩
      rw [hbalance, session?, hpoint, Point.session?, htask]
      rfl
    · exact hbalance

/-- **What has become of the sessions after any run**, by induction on what happens in it. -/
theorem tracks_of_log {start last : Course} {happenings : List Happening} {sights : List Sight}
    (hstart : start.Tracks [] start []) (hlog : start.log happenings = some (last, sights)) :
    start.Tracks happenings last (sights.flatMap (·.deeds)) := by
  refine log_induction (I := fun past r sights => start.Tracks past r (sights.flatMap (·.deeds)))
    ?_ happenings [] rfl hstart hlog
  intro past r sights x turn hpast h hstep
  have hdeeds : (sights ++ [(⟨turn.1.connection.state, turn.2⟩ : Sight)]).flatMap (·.deeds)
      = sights.flatMap (·.deeds) ++ turn.2 := by simp
  rw [hdeeds]
  rcases hands_or_forgets h.fresh hstep with hhands | ⟨hforgets, rfl⟩
  · exact h.hands hpast hstep hhands
  · rw [List.append_nil]
    exact h.forgets hpast hstep hforgets

/-- **Sessions are handed back.**  In every run, whenever others strike:

* The sessions that connects have handed out are numbered in order, one for each connect that has
  succeeded.
* All of them have been disconnected when another connect begins.
* They are disconnected in the order in which they were handed out, each of them once, but for at
  most one, the last.
* When the task has ended that one is left over exactly if the task has given up while it waited for
  the version; otherwise there is none.

A disconnect counts from its beginning: after a query that has failed, a shutdown may keep it from
coming to its end. -/
theorem released_eq {config : ConnectionConfig} {hasDispatcher : Bool}
    {updater : Option CredentialUpdater} {listeners : ListenerSet Observer}
    {happenings : List Happening} {last : Course} {sights : List Sight}
    (hlog : (ofConnection { Connection.ofConfig config hasDispatcher updater with
      listeners }).log happenings = some (last, sights)) :
    let start := ofConnection { Connection.ofConfig config hasDispatcher updater with listeners }
    let deeds := sights.flatMap (·.deeds)
    handed deeds = List.range (happenings.countP (·.connects))
      ∧ Balanced deeds
      ∧ ∃ left : Option Nat, handed deeds = released deeds ++ left.toList
        ∧ (last.HasEnded → (left.isSome ↔ start.Abandons happenings)) := by
  intro start deeds
  have hstart : start.Tracks [] start [] := by
    constructor
    case fresh => exact fresh_ofConfig config hasDispatcher updater listeners
    case handed_eq => rfl
    case sessions_eq => rfl
    case balanced => simp [Balanced]
    case balance => exact .inl ⟨by simp [Abandons], rfl⟩
  have htracks : start.Tracks happenings last deeds := tracks_of_log hstart hlog
  refine ⟨by rw [htracks.handed_eq, htracks.sessions_eq], htracks.balanced, ?_⟩
  rcases htracks.balance with ⟨hnot, hbalance⟩ | ⟨habandons, -, session, hbalance⟩
  · refine ⟨last.session?, hbalance, fun hended => ?_⟩
    have hnone : last.session? = none := by
      rw [session?, hended.1, Point.session?, hended.2]
      rfl
    simp [hnone, hnot]
  · exact ⟨some session, hbalance, fun _ => by simp [habandons]⟩

/-- Two sessions: the first one does not tell its version, and the second one serves two streams
before a shutdown comes. -/
theorem released_eq_of_two_sessions :
    let config : ConnectionConfig := .ofTarget "main" "review.example.com" "jenkins"
    let c : Connection := { Connection.ofConfig config true none with listeners := .empty }
    let pass : Happening := .pass fun _ => false
    let happenings : List Happening :=
      [.strike .launch, .wake .run, pass, pass, pass, pass, pass, pass, .wake .connected,
        .wake (.unanswered .notConnected), .wake .released, .wake .slept, pass, pass, pass,
        pass, .wake .connected, .wake (.answered "gerrit version 3.4"), pass, pass, pass,
        .wake .opened, pass, pass, pass, .wake (.received [97, 10]), .wake .slept, .wake .finished,
        pass, pass, pass, pass, pass, pass, pass, pass, pass, pass, pass, .strike .condemn,
        .strike .cancel, .wake .run, pass, pass, pass, .wake .released, pass, pass, .wake .run,
        pass]
    ∃ last sights, (ofConnection c).log happenings = some (last, sights) ∧ last.HasEnded
      ∧ ¬ (ofConnection c).Abandons happenings
      ∧ handed (sights.flatMap (·.deeds)) = [0, 1]
      ∧ released (sights.flatMap (·.deeds)) = [0, 1] := by
  intro config c pass happenings
  obtain ⟨last, sights, hlog, hended, hhanded, hreleased⟩ :
      ∃ last sights, (ofConnection c).log happenings = some (last, sights) ∧ last.HasEnded
        ∧ handed (sights.flatMap (·.deeds)) = [0, 1]
        ∧ released (sights.flatMap (·.deeds)) = [0, 1] :=
    ⟨_, _, rfl, ⟨rfl, rfl⟩, rfl, rfl⟩
  obtain ⟨-, -, left, hleft, habandons⟩ := released_eq hlog
  have hnone : left = none := by
    rw [hhanded, hreleased] at hleft
    simpa using hleft
  rw [hnone] at habandons
  exact ⟨last, sights, hlog, hended, by simpa using habandons hended, hhanded, hreleased⟩

/-- **A session gets lost.**  The task connects, a shutdown comes while it waits for the version,
and it ends without a word to the session. -/
theorem released_eq_nil_of_shutdown_in_query :
    let config : ConnectionConfig := .ofTarget "main" "review.example.com" "jenkins"
    let c : Connection := .ofConfig config true none
    ∃ last deeds, c.run [.start, .run, .connected, .shutdown, .run] = some (last, deeds)
      ∧ last.task = .ended ∧ handed deeds = [0] ∧ released deeds = [] := by
  intro config c
  exact ⟨_, _, rfl, rfl, rfl, rfl⟩

end Course

end ReviewStream
