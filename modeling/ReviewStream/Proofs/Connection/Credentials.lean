import ReviewStream.Proofs.Connection.Replacement

/-!
# Credentials are replaced before connects

Before every connect another credential is asked for, and what is answered stays until the next
answer, whatever becomes of the connect.  All other settings are those of the beginning.

* `CredentialUpdater.left`: the credential that the first answers leave.
* `CredentialUpdater.attempts`: the requests and the connects that ought to be made, one of each in
  turn.
* `Course.Rotates`: what has been asked for and tried so far, and what the settings are by then.
* `Course.IsSpent`: no stream is opened on a session any more once another credential is asked for.
* **`Course.rotation`**: requests and connects, the settings, streams and the origin of lines in
  every run.

An updater answers by the number of the request, so one that is replaced on the way is one that
answers otherwise from some request on.
-/

namespace ReviewStream

open Connection (Move)

/-! ## What ought to be done -/

/-- The credential that is left by the first answers: each one takes the place of the credential
before, which stays if there is none. -/
def CredentialUpdater.left (answer : CredentialUpdater) (first : Credential) : Nat → Credential
  | 0 => first
  | n + 1 => (answer n (answer.left first n)).getD (answer.left first n)

/-- A request and the connect after it.  The request is given the credential that is left by all
earlier ones, and the connect has the one that it leaves. -/
def CredentialUpdater.attempt (answer : CredentialUpdater) (config : ConnectionConfig) (n : Nat) :
    List Deed :=
  let before := answer.left config.credential n
  let after := answer.left config.credential (n + 1)
  [.refresh before,
    .call (.connect
      { config with
        username := after.username
        privateKeyFile := after.privateKeyFile
        passphrase := after.passphrase })]

/-- The first attempts, one after the other. -/
def CredentialUpdater.attempts (answer : CredentialUpdater) (config : ConnectionConfig) (n : Nat) :
    List Deed :=
  (List.range n).flatMap (answer.attempt config)

lemma CredentialUpdater.attempts_succ (answer : CredentialUpdater) (config : ConnectionConfig)
    (n : Nat) :
    answer.attempts config (n + 1) = answer.attempts config n ++ answer.attempt config n := by
  rw [attempts, List.range_succ, List.flatMap_append, List.flatMap_singleton]
  rfl

/-- Whether a deed is a request for a credential or begins a connect. -/
def Deed.rotates : Deed → Bool
  | .refresh _ | .call (.connect _) => true
  | _ => false

/-- Whether a deed is neither of these and posts nothing. -/
def Deed.isRoutine : Deed → Bool
  | .refresh _ | .call (.connect _) | .post _ _ => false
  | _ => true

lemma Deed.rotates_of_routine {d : Deed} (h : d.isRoutine = true) : d.rotates = false := by
  cases d with
  | call c => cases c <;> first | rfl | cases h
  | refresh current => cases h
  | _ => rfl

/-- No credential is asked for between two streams on one session. -/
def Steady (deeds : List Deed) : Prop :=
  ∀ earlier current later session, deeds = earlier ++ .refresh current :: later →
    session ∈ opened earlier → session ∉ opened later

/-- A server is called what the settings say; its version is its own. -/
structure Provider.IsOf (config : ConnectionConfig) (p : Provider) : Prop where
  name_eq : p.name = config.name
  host_eq : p.host = config.host
  port_eq : p.port = config.port
  url_eq : p.url = config.frontendUrl

/-- The stream that a task reads. -/
def Task.stream? : Task → Option Stream
  | .reading s | .pausing s => some s
  | _ => none

/-! ## The settings -/

namespace ConnectionConfig

@[simp] lemma credential_withCredential (config : ConnectionConfig) (k : Credential) :
    (config.withCredential k).credential = k := rfl

end ConnectionConfig

/-- A request leaves the credential that is answered, or the one of before. -/
lemma Connection.refresh_of_updater {c : Connection} {answer : CredentialUpdater}
    {config : ConnectionConfig} {k : Credential} (hupdater : c.updater = some answer)
    (hconfig : c.config = config.withCredential k) :
    c.refresh = ({ c with
        config := config.withCredential ((answer c.refreshes k).getD k)
        refreshes := c.refreshes + 1 }, [.refresh k]) := by
  simp only [refresh, hupdater, hconfig, ConnectionConfig.credential_withCredential]
  cases answer c.refreshes k <;> rfl

namespace Course

variable {r last : Course} {c : Connection} {p : Point} {x : Happening} {session : Nat}
  {turn : Course × List Deed} {happenings : List Happening} {sights : List Sight}
  {deeds : List Deed} {config : ConnectionConfig} {answer : CredentialUpdater}

/-! ## Requests and connects -/

/-- Nothing is done about credentials. -/
structure Rests (r : Course) (turn : Course × List Deed) : Prop where
  name_eq : turn.1.connection.name = r.connection.name
  updater_eq : turn.1.connection.updater = r.connection.updater
  refreshes_eq : turn.1.connection.refreshes = r.connection.refreshes
  config_eq : turn.1.connection.config = r.connection.config
  quiet : ∀ d ∈ turn.2, d.rotates = false
  /-- A task that is about to connect stays so, unless it has found that it has to end. -/
  attempt : turn.1.point = .attempt → r.point = .attempt
  gone : r.point = .attempt →
    turn.1.point = .attempt ∨ turn.1.IsGone ∧ r.connection.shutdown = true

/-- A happening in which the settings stay, while the task is not about to connect. -/
lemma rests_of_ne (hr : r.point ≠ .attempt) (hturn : turn.1.point ≠ .attempt)
    (hname : turn.1.connection.name = r.connection.name)
    (hupdater : turn.1.connection.updater = r.connection.updater)
    (hrefreshes : turn.1.connection.refreshes = r.connection.refreshes)
    (hconfig : turn.1.connection.config = r.connection.config)
    (hquiet : ∀ d ∈ turn.2, d.rotates = false) : r.Rests turn where
  name_eq := hname
  updater_eq := hupdater
  refreshes_eq := hrefreshes
  config_eq := hconfig
  quiet := hquiet
  attempt h := absurd h hturn
  gone h := absurd h hr

/-- What the task does about credentials: it asks for one, it begins a connect, or nothing. -/
inductive Turns (r : Course) : Course × List Deed → Prop
  | asks (hpoint : r.point = .refresh) :
      Turns r (⟨r.connection.refresh.1, .attempt⟩, r.connection.refresh.2)
  | tries (hpoint : r.point = .attempt) :
      Turns r (⟨{ r.connection with task := .connecting }, .waiting⟩,
        [.call (.connect r.connection.config)])
  | rests {turn : Course × List Deed} (h : r.Rests turn) : Turns r turn

/-- Only at two points the task asks for a credential or begins a connect, and it posts nothing
before its next wait. -/
lemma routine_of_pass {crashing : String → Bool} {d : Deed} (h : d ∈ (c.pass crashing p).2) :
    p = .refresh ∨ p = .attempt ∨ d.isRoutine = true := by
  cases p with
  | refresh => exact .inl rfl
  | attempt => exact .inr (.inl rfl)
  | announce session =>
      rw [Connection.pass_announce] at h
      obtain ⟨observer, rfl⟩ := Connection.exists_eq_of_mem_tellAll h
      exact .inr (.inr rfl)
  | mourn reusable backOff =>
      rw [Connection.pass_mourn] at h
      dsimp only at h
      split_ifs at h
      · obtain ⟨observer, rfl⟩ := Connection.exists_eq_of_mem_tellAll h
        exact .inr (.inr rfl)
      · exact absurd h List.not_mem_nil
  | unguard session e =>
      rw [Connection.eq_of_mem_stopWatchdog h]
      exact .inr (.inr rfl)
  | guard session =>
      obtain ⟨secs, -, rfl⟩ := Option.map_eq_some_iff.mp (Option.mem_toList.mp h)
      exact .inr (.inr rfl)
  | choose reusable | leave reusable =>
      cases reusable <;> simp only [Connection.pass] at h <;> (try split_ifs at h) <;>
        simp_all [Deed.isRoutine]
  | reuse session | ask session | establish session | judge session e cancelled =>
      simp only [Connection.pass] at h
      split_ifs at h <;> simp_all [Deed.isRoutine]
  | _ => exact absurd h List.not_mem_nil

/-- Nothing but a request changes the settings, and only after one the task is about to connect. -/
lemma settings_of_pass (crashing : String → Bool) (hp : p ≠ .refresh) :
    (c.pass crashing p).1.connection.name = c.name
      ∧ (c.pass crashing p).1.connection.updater = c.updater
      ∧ (c.pass crashing p).1.connection.refreshes = c.refreshes
      ∧ (c.pass crashing p).1.connection.config = c.config
      ∧ (c.pass crashing p).1.point ≠ .attempt := by
  cases p with
  | refresh => exact absurd rfl hp
  | announce => rw [Connection.pass_announce]; exact ⟨rfl, rfl, rfl, rfl, by rintro ⟨⟩⟩
  | mourn => rw [Connection.pass_mourn]; split_ifs <;> exact ⟨rfl, rfl, rfl, rfl, by rintro ⟨⟩⟩
  | choose reusable =>
      cases reusable with
      | none => exact ⟨rfl, rfl, rfl, rfl, by rintro ⟨⟩⟩
      | some session => rw [Connection.pass]; split_ifs <;> exact ⟨rfl, rfl, rfl, rfl, by rintro ⟨⟩⟩
  | leave reusable => cases reusable <;> exact ⟨rfl, rfl, rfl, rfl, by rintro ⟨⟩⟩
  | loop | connect | reuse | attempt | ask | establish =>
      rw [Connection.pass]
      split_ifs <;> exact ⟨rfl, rfl, rfl, rfl, by rintro ⟨⟩⟩
  | judge =>
      simp only [Connection.pass]
      split_ifs <;> simp
  | _ => exact ⟨rfl, rfl, rfl, rfl, by rintro ⟨⟩⟩

lemma turns_pass (c : Connection) (p : Point) (crashing : String → Bool) :
    Turns ⟨c, p⟩ (c.pass crashing p) := by
  by_cases hrefresh : p = .refresh
  · rw [hrefresh]
    exact .asks rfl
  by_cases hattempt : p = .attempt
  · rw [hattempt, Connection.pass]
    split_ifs with hstop
    · exact .rests ⟨rfl, rfl, rfl, rfl, fun _ hd => absurd hd List.not_mem_nil, by rintro ⟨⟩,
        fun _ => .inr ⟨.inl rfl, hstop⟩⟩
    · exact .tries rfl
  obtain ⟨hname, hupdater, hrefreshes, hconfig, hpoint⟩ :=
    settings_of_pass (c := c) crashing hrefresh
  refine .rests (rests_of_ne hattempt hpoint hname hupdater hrefreshes hconfig fun d hd => ?_)
  rcases routine_of_pass hd with hp | hp | hd
  · exact absurd hp hrefresh
  · exact absurd hp hattempt
  · exact Deed.rotates_of_routine hd

lemma rests_of_wakes {move : Move} (h : c.Wakes move turn) : Rests ⟨c, .waiting⟩ turn := by
  have hwaiting : Point.waiting ≠ .attempt := nofun
  have hnone : ∀ d ∈ ([] : List Deed), d.rotates = false := nofun
  cases h with
  | received _ _ =>
      refine rests_of_ne hwaiting hwaiting rfl rfl rfl rfl fun d hd => ?_
      obtain ⟨line, rfl⟩ | rfl := Connection.eq_of_mem_take hd <;> rfl
  | connected _ _ | unanswered _ _ =>
      exact rests_of_ne hwaiting hwaiting rfl rfl rfl rfl (by simp [Deed.rotates])
  | refused _ _ | rejected _ _ | paused _ _ =>
      exact rests_of_ne hwaiting hwaiting rfl rfl rfl rfl hnone
  | _ => exact rests_of_ne hwaiting (by rintro ⟨⟩) rfl rfl rfl rfl hnone

lemma rests_strike (r : Course) (s : Strike) :
    r.Rests (⟨(r.connection.struck s).1, r.point⟩, (r.connection.struck s).2) := by
  have hnone : ∀ d ∈ ([] : List Deed), d.rotates = false := nofun
  cases s with
  | launch =>
      simp only [Connection.struck]
      split_ifs <;> exact ⟨rfl, rfl, rfl, rfl, hnone, id, .inl⟩
  | unwatch =>
      refine ⟨rfl, rfl, rfl, rfl, fun d hd => ?_, id, .inl⟩
      rw [Connection.eq_of_mem_stopWatchdog hd]
      rfl
  | _ => exact ⟨rfl, rfl, rfl, rfl, hnone, id, .inl⟩

/-- **What a happening does about credentials.** -/
theorem turns_of_step (hstep : r.step x = some turn) : r.Turns turn := by
  cases x with
  | pass crashing =>
      obtain rfl := Option.some.inj hstep
      exact turns_pass r.connection r.point crashing
  | wake move =>
      obtain ⟨c, p⟩ := r
      cases p <;> try cases hstep
      exact .rests (rests_of_wakes (Connection.wake_spec hstep))
  | strike s =>
      obtain rfl := Option.some.inj hstep
      exact .rests (rests_strike r s)

/-- What has been asked for and tried so far, and what the settings are by then. -/
structure Rotates (answer : CredentialUpdater) (config : ConnectionConfig) (r : Course)
    (deeds : List Deed) : Prop where
  fresh : r.Fresh
  updater_eq : r.connection.updater = some answer
  config_eq : r.connection.config
    = config.withCredential (answer.left config.credential r.connection.refreshes)
  /-- Every request is followed by its connect, but for one that is about to be, or never will
  be. -/
  made : r.point ≠ .attempt
      ∧ deeds.filter (·.rotates) = answer.attempts config r.connection.refreshes
    ∨ ∃ n, r.connection.refreshes = n + 1
      ∧ deeds.filter (·.rotates)
        = answer.attempts config n ++ [.refresh (answer.left config.credential n)]
      ∧ (r.point = .attempt ∨ r.IsGone ∧ r.connection.shutdown = true)

/-- A task that asks is not gone. -/
lemma IsGone.point_ne (h : r.IsGone) : r.point ≠ .refresh ∧ r.point ≠ .attempt := by
  rcases h with h | h
  · rw [h]
    exact ⟨nofun, nofun⟩
  · rw [h.1]
    exact ⟨nofun, nofun⟩

lemma Rotates.step (h : r.Rotates answer config deeds) (hstep : r.step x = some turn) :
    turn.1.Rotates answer config (deeds ++ turn.2) := by
  have hfresh := h.fresh.step hstep
  cases turns_of_step hstep with
  | asks hpoint =>
      have hmade : deeds.filter (·.rotates) = answer.attempts config r.connection.refreshes := by
        rcases h.made with ⟨-, hmade⟩ | ⟨n, -, -, hattempt | ⟨hgone, -⟩⟩
        · exact hmade
        · rw [hpoint] at hattempt
          cases hattempt
        · exact absurd hpoint hgone.point_ne.1
      have hrefresh := Connection.refresh_of_updater h.updater_eq h.config_eq
      rw [hrefresh] at hfresh ⊢
      refine ⟨hfresh, h.updater_eq, rfl, .inr ⟨_, rfl, ?_, .inl rfl⟩⟩
      rw [List.filter_append, hmade]
      rfl
  | tries hpoint =>
      obtain ⟨n, hn, hmade⟩ : ∃ n, r.connection.refreshes = n + 1 ∧ deeds.filter (·.rotates)
          = answer.attempts config n ++ [.refresh (answer.left config.credential n)] := by
        rcases h.made with ⟨hother, -⟩ | ⟨n, hn, hmade, -⟩
        · exact absurd hpoint hother
        · exact ⟨n, hn, hmade⟩
      refine ⟨hfresh, h.updater_eq, h.config_eq, .inl ⟨nofun, ?_⟩⟩
      dsimp only
      rw [hn, CredentialUpdater.attempts_succ, List.filter_append, hmade, h.config_eq, hn,
        List.append_assoc]
      rfl
  | rests hrests =>
      have hfilter : (deeds ++ turn.2).filter (·.rotates) = deeds.filter (·.rotates) := by
        have hnone : turn.2.filter (·.rotates) = [] :=
          List.filter_eq_nil_iff.mpr fun d hd => Bool.eq_false_iff.mp (hrests.quiet d hd)
        rw [List.filter_append, hnone, List.append_nil]
      refine ⟨hfresh, hrests.updater_eq.trans h.updater_eq, ?_, ?_⟩
      · rw [hrests.config_eq, hrests.refreshes_eq, h.config_eq]
      rw [hfilter, hrests.refreshes_eq]
      rcases h.made with ⟨hother, hmade⟩ | ⟨n, hn, hmade, hattempt | ⟨hgone, hstop⟩⟩
      · exact .inl ⟨fun hattempt => hother (hrests.attempt hattempt), hmade⟩
      · refine .inr ⟨n, hn, hmade, (hrests.gone hattempt).imp_right fun h => ⟨h.1, ?_⟩⟩
        exact shutdown_of_step h.2 hstep
      · refine .inr ⟨n, hn, hmade, .inr ⟨(hgone.step h.fresh hstep).1, ?_⟩⟩
        exact shutdown_of_step hstop hstep

/-! ## Streams -/

/-- No stream will be opened on a session: it has been in hand and is not any more. -/
structure IsSpent (session : Nat) (r : Course) : Prop where
  lt_sessions : session < r.connection.sessions
  not_in_hand : r.session? ≠ some session

/-- The session in hand after a happening was there before, or has just been handed out. -/
lemma session?_of_step (hfresh : r.Fresh) (hstep : r.step x = some turn) :
    r.connection.sessions ≤ turn.1.connection.sessions
      ∧ ∀ session, turn.1.session? = some session → r.session? = some session
        ∨ r.connection.sessions ≤ session ∧ session < turn.1.connection.sessions := by
  rcases hands_or_forgets hfresh hstep with hhands | ⟨-, rfl⟩
  · have hle : r.connection.sessions ≤ turn.1.connection.sessions :=
      hhands.connected ▸ Nat.le_add_right ..
    refine ⟨hle, fun session hsession => ?_⟩
    have hmem : session ∈ r.session?.toList ++ handed turn.2 := by
      rw [hhands.kept, hsession]
      simp
    rcases List.mem_append.mp hmem with hkept | hnew
    · exact .inl (Option.mem_toList.mp hkept)
    · have hrange : session ∈ List.range turn.1.connection.sessions := by
        rw [hhands.counted]
        exact List.mem_append_right _ hnew
      refine .inr ⟨Nat.le_of_not_lt fun hlt => ?_, List.mem_range.mp hrange⟩
      -- Sessions are numbered in order, each of them once.
      have hnodup : (List.range r.connection.sessions ++ handed turn.2).Nodup :=
        hhands.counted ▸ List.nodup_range
      exact (List.nodup_append.mp hnodup).2.2 session (List.mem_range.mpr hlt) session hnew rfl
  · exact ⟨Nat.le_refl _, nofun⟩

lemma IsSpent.step (h : r.IsSpent session) (hfresh : r.Fresh) (hstep : r.step x = some turn) :
    turn.1.IsSpent session := by
  obtain ⟨hle, hhand⟩ := session?_of_step hfresh hstep
  refine ⟨Nat.lt_of_lt_of_le h.lt_sessions hle, fun hsession => ?_⟩
  rcases hhand session hsession with hkept | ⟨hnew, -⟩
  · exact h.not_in_hand hkept
  · exact Nat.not_le_of_lt h.lt_sessions hnew

/-- A stream is opened on the session in hand. -/
lemma session?_of_opened (hstep : r.step x = some turn) (h : session ∈ opened turn.2) :
    r.session? = some session := by
  obtain ⟨command, hmem⟩ := exists_of_mem_opened h
  rcases begins_of_step hstep hmem rfl with ⟨-, config, hconnect⟩ | ⟨-, session', _, hpoint, hopen⟩
  · cases hconnect
  · cases hopen
    rw [session?, hpoint]
    rfl

/-- What becomes of sessions when another credential is asked for. -/
structure Settles (r : Course) (deeds : List Deed) : Prop where
  fresh : r.Fresh
  hand_lt : ∀ session, r.session? = some session → session < r.connection.sessions
  opened_lt : ∀ session ∈ opened deeds, session < r.connection.sessions
  steady : ∀ earlier current later session, deeds = earlier ++ .refresh current :: later →
    session ∈ opened earlier → r.IsSpent session ∧ session ∉ opened later

lemma opened_append (xs ys : List Deed) : opened (xs ++ ys) = opened xs ++ opened ys :=
  List.filterMap_append

/-- While a credential is asked for no session is in hand, and nothing else is done. -/
lemma of_mem_refresh (current : Credential) (hstep : r.step x = some turn)
    (hmem : .refresh current ∈ turn.2) : turn.1.session? = none ∧ turn.2 = [.refresh current] := by
  cases turns_of_step hstep with
  | asks hpoint =>
      refine ⟨rfl, ?_⟩
      have hmem' : Deed.refresh current ∈ r.connection.refresh.2 := hmem
      dsimp only
      rw [Connection.refresh] at hmem' ⊢
      split at hmem'
      · exact absurd hmem' List.not_mem_nil
      · rw [List.mem_singleton.mp hmem']
  | tries => cases List.mem_singleton.mp hmem
  | rests hrests => cases hrests.quiet _ hmem

lemma Settles.step (h : r.Settles deeds) (hstep : r.step x = some turn) :
    turn.1.Settles (deeds ++ turn.2) := by
  obtain ⟨hle, hhand⟩ := session?_of_step h.fresh hstep
  have hopened : ∀ session ∈ opened deeds, session < turn.1.connection.sessions :=
    fun session hsession => Nat.lt_of_lt_of_le (h.opened_lt session hsession) hle
  constructor
  case fresh => exact h.fresh.step hstep
  case hand_lt =>
    intro session hsession
    rcases hhand session hsession with hkept | ⟨-, hlt⟩
    · exact Nat.lt_of_lt_of_le (h.hand_lt session hkept) hle
    · exact hlt
  case opened_lt =>
    intro session hsession
    rw [opened_append] at hsession
    rcases List.mem_append.mp hsession with hearlier | hnow
    · exact hopened session hearlier
    · exact Nat.lt_of_lt_of_le (h.hand_lt session (session?_of_opened hstep hnow)) hle
  case steady =>
    intro earlier current later session hsplit hsession
    rcases List.append_eq_append_iff.mp hsplit with ⟨as, rfl, hnow⟩ | ⟨bs, rfl, hbs⟩
    · obtain ⟨hnone, hsingle⟩ := of_mem_refresh current hstep (by simp [hnow])
      obtain ⟨rfl, rfl⟩ : as = [] ∧ later = [] := by
        rw [hsingle] at hnow
        cases as <;> simp_all
      rw [List.append_nil] at hsession
      exact ⟨⟨hopened session hsession, by simp [hnone]⟩, List.not_mem_nil⟩
    · cases bs with
      | nil =>
          rw [List.nil_append] at hbs
          obtain ⟨hnone, hsingle⟩ := of_mem_refresh current hstep (by simp [← hbs])
          obtain rfl : later = [] := by
            rw [hsingle] at hbs
            simpa using hbs
          rw [List.append_nil] at hopened
          exact ⟨⟨hopened session hsession, by simp [hnone]⟩, List.not_mem_nil⟩
      | cons d bs =>
          rw [List.cons_append, List.cons.injEq] at hbs
          obtain ⟨rfl, rfl⟩ := hbs
          obtain ⟨hspent, hbefore⟩ := h.steady earlier current bs session rfl hsession
          refine ⟨hspent.step h.fresh hstep, fun hlater => ?_⟩
          rw [opened_append] at hlater
          rcases List.mem_append.mp hlater with hearlier | hnow
          · exact hbefore hearlier
          · exact hspent.not_in_hand (session?_of_opened hstep hnow)

/-! ## Where lines come from -/

/-- Where the connection says that lines come from. -/
structure Named (config : ConnectionConfig) (r : Course) (deeds : List Deed) : Prop where
  provider : r.connection.provider.IsOf config
  stream : ∀ s, r.connection.task.stream? = some s → s.provider.IsOf config
  posts : ∀ line provider, .post line provider ∈ deeds → provider.IsOf config

/-- A connection goes by its name and the place of its server. -/
lemma provider_of_step (hstep : r.step x = some turn) (h : r.connection.provider.IsOf config) :
    turn.1.connection.provider.IsOf config := by
  cases turns_of_step hstep with
  | asks _ =>
      simp only [Connection.refresh]
      split
      · exact h
      · split <;> exact ⟨h.name_eq, h.host_eq, h.port_eq, h.url_eq⟩
  | tries _ => exact h
  | rests hrests =>
      constructor
      case name_eq => exact hrests.name_eq.trans h.name_eq
      case host_eq => exact (congrArg (·.host) hrests.config_eq).trans h.host_eq
      case port_eq => exact (congrArg (·.port) hrests.config_eq).trans h.port_eq
      case url_eq => exact (congrArg (·.frontendUrl) hrests.config_eq).trans h.url_eq

/-- What a stream's lines come from is settled when reading begins. -/
lemma stream_pass (crashing : String → Bool) {s : Stream}
    (hs : (c.pass crashing p).1.connection.task.stream? = some s) :
    s.provider = c.provider ∨ c.task.stream? = some s := by
  cases p with
  | read session =>
      obtain rfl := Option.some.inj hs
      exact .inl rfl
  | refresh =>
      rw [Connection.pass, Connection.refresh_eq] at hs
      exact .inr hs
  | announce session =>
      rw [Connection.pass_announce] at hs
      exact .inr hs
  | mourn reusable backOff =>
      rw [Connection.pass_mourn] at hs
      dsimp only at hs
      split_ifs at hs <;> first | exact .inr hs | cases hs
  | choose reusable =>
      cases reusable with
      | none => exact .inr hs
      | some session =>
          rw [Connection.pass] at hs
          split_ifs at hs
          · exact .inr hs
          · cases hs
  | leave reusable => cases reusable <;> cases hs
  | reuse session | establish session =>
      rw [Connection.pass] at hs
      split_ifs at hs <;> exact .inr hs
  | attempt | ask session =>
      rw [Connection.pass] at hs
      split_ifs at hs
      · exact .inr hs
      · cases hs
  | judge session e cancelled =>
      simp only [Connection.pass] at hs
      split_ifs at hs
      · exact .inr hs
      · cases hs
  | _ => exact .inr hs

/-- While the task waits, a stream goes on or ends, and what arrives on it is posted. -/
lemma stream_of_wakes {move : Move} (h : c.Wakes move turn) :
    (∀ s, turn.1.connection.task.stream? = some s →
        ∃ before, c.task.stream? = some before ∧ s.provider = before.provider)
      ∧ ∀ line provider, .post line provider ∈ turn.2 →
        ∃ before, c.task.stream? = some before ∧ provider = before.provider := by
  have hnone : ∀ line provider, .post line provider ∈ ([] : List Deed) →
      ∃ before, c.task.stream? = some before ∧ provider = before.provider := nofun
  cases h with
  | @received octets stream htask _ =>
      have hbefore : c.task.stream? = some stream := by
        rw [htask]
        rfl
      refine ⟨fun s hs => ⟨stream, hbefore, ?_⟩, fun line provider hmem => ⟨stream, hbefore, ?_⟩⟩
      · obtain rfl := Option.some.inj hs
        rfl
      · obtain ⟨line', heq⟩ | heq := Connection.eq_of_mem_take hmem
        · exact (Deed.post.inj heq).2
        · cases heq
  | @paused stream htask _ =>
      refine ⟨fun s hs => ⟨s, ?_, rfl⟩, hnone⟩
      rw [htask]
      exact hs
  | connected htask _ | unanswered htask _ => exact ⟨nofun, by simp⟩
  | refused htask _ | rejected htask _ => exact ⟨nofun, hnone⟩
  | _ => exact ⟨fun s hs => ⟨s, hs, rfl⟩, hnone⟩

/-- A stream has the origin that the connection had when it began, and so have its lines. -/
lemma origin_of_step (hstep : r.step x = some turn) :
    (∀ s, turn.1.connection.task.stream? = some s → s.provider = r.connection.provider
        ∨ ∃ before, r.connection.task.stream? = some before ∧ s.provider = before.provider)
      ∧ ∀ line provider, .post line provider ∈ turn.2 →
        ∃ before, r.connection.task.stream? = some before ∧ provider = before.provider := by
  cases x with
  | pass crashing =>
      obtain rfl := Option.some.inj hstep
      refine ⟨fun s hs => ?_, fun line provider hmem => ?_⟩
      · exact (stream_pass crashing hs).imp_right fun hsame => ⟨s, hsame, rfl⟩
      · obtain ⟨c, p⟩ := r
        rcases routine_of_pass hmem with rfl | rfl | hroutine
        · cases Connection.eq_of_mem_refresh hmem
        · rw [Connection.pass] at hmem
          split_ifs at hmem <;> simp at hmem
        · cases hroutine
  | wake move =>
      obtain ⟨c, p⟩ := r
      cases p <;> try cases hstep
      obtain ⟨hstream, hposts⟩ := stream_of_wakes (Connection.wake_spec hstep)
      exact ⟨fun s hs => .inr (hstream s hs), hposts⟩
  | strike s =>
      obtain rfl := Option.some.inj hstep
      have hnone : ∀ line provider, .post line provider ∈ ([] : List Deed) →
          ∃ before, r.connection.task.stream? = some before ∧ provider = before.provider :=
        fun _ _ hmem => absurd hmem List.not_mem_nil
      cases s with
      | launch =>
          split_ifs
          · exact ⟨fun s hs => .inr ⟨s, hs, rfl⟩, hnone⟩
          · exact ⟨by rintro _ ⟨⟩, hnone⟩
      | unwatch =>
          refine ⟨fun s hs => .inr ⟨s, hs, rfl⟩, fun line provider hmem => ?_⟩
          cases Connection.eq_of_mem_stopWatchdog hmem
      | _ => exact ⟨fun s hs => .inr ⟨s, hs, rfl⟩, hnone⟩

lemma Named.step (h : r.Named config deeds) (hstep : r.step x = some turn) :
    turn.1.Named config (deeds ++ turn.2) := by
  obtain ⟨hstream, hposts⟩ := origin_of_step hstep
  constructor
  case provider => exact provider_of_step hstep h.provider
  case stream =>
    intro s hs
    rcases hstream s hs with heq | ⟨before, hbefore, heq⟩
    · exact heq ▸ h.provider
    · exact heq ▸ h.stream before hbefore
  case posts =>
    intro line provider hmem
    rcases List.mem_append.mp hmem with hearlier | hnow
    · exact h.posts line provider hearlier
    · obtain ⟨before, hbefore, rfl⟩ := hposts line provider hnow
      exact h.stream before hbefore

/-! ## Runs -/

variable {hasDispatcher : Bool} {listeners : ListenerSet Observer}

/-- **Credentials are replaced before connects.**  In every run, whenever others strike:

* Requests for a credential and connects take turns, a request first.  Each request is given the
  credential that all earlier ones have left, which stays if nothing is answered; each connect has
  the one that the request before it has left, and all else as in the beginning.  What becomes of a
  connect makes no difference.
* Of the last request the connect is still to come, or it never comes, since the task has been told
  to end.
* The credential that has been left last is the one in the settings, in which nothing else changes.
* None is asked for between two streams on one session.
* Lines come from a server of the name, the place and the address that the settings had in the
  beginning, and the connection says so of itself. -/
theorem rotation
    (hlog : (ofConnection { Connection.ofConfig config hasDispatcher (some answer) with
      listeners }).log happenings = some (last, sights)) :
    let deeds := sights.flatMap (·.deeds)
    let n := last.connection.refreshes
    (last.point ≠ .attempt ∧ deeds.filter (·.rotates) = answer.attempts config n
        ∨ ∃ m, n = m + 1
          ∧ deeds.filter (·.rotates)
            = answer.attempts config m ++ [.refresh (answer.left config.credential m)]
          ∧ (last.point = .attempt ∨ last.IsGone ∧ last.connection.shutdown = true))
      ∧ last.connection.config = config.withCredential (answer.left config.credential n)
      ∧ Steady deeds
      ∧ (∀ line provider, .post line provider ∈ deeds → provider.IsOf config)
      ∧ last.connection.provider.IsOf config := by
  intro deeds n
  have hfresh := fresh_ofConfig config hasDispatcher (some answer) listeners
  have hinv : last.Rotates answer config deeds ∧ last.Settles deeds ∧ last.Named config deeds := by
    refine log_induction (I := fun _ r sights => r.Rotates answer config (sights.flatMap (·.deeds))
      ∧ r.Settles (sights.flatMap (·.deeds)) ∧ r.Named config (sights.flatMap (·.deeds)))
      ?_ happenings [] rfl ⟨?_, ?_, ?_⟩ hlog
    · intro _ r sights x turn _ ⟨hrotates, hsettles, hnamed⟩ hstep
      have hdeeds : (sights ++ [(⟨turn.1.connection.state, turn.2⟩ : Sight)]).flatMap (·.deeds)
          = sights.flatMap (·.deeds) ++ turn.2 := by simp
      rw [hdeeds]
      exact ⟨hrotates.step hstep, hsettles.step hstep, hnamed.step hstep⟩
    · exact ⟨hfresh, rfl, rfl, .inl ⟨nofun, rfl⟩⟩
    · exact ⟨hfresh, nofun, nofun, by simp⟩
    · exact ⟨⟨rfl, rfl, rfl, rfl⟩, nofun, nofun⟩
  obtain ⟨hrotates, hsettles, hnamed⟩ := hinv
  refine ⟨hrotates.made, hrotates.config_eq, ?_, hnamed.posts, hnamed.provider⟩
  intro earlier current later session hsplit hsession
  exact (hsettles.steady earlier current later session hsplit hsession).2

/-- Three answers, of which the second is none.  The first connect is refused; the session of the
second one serves two streams and gets lost, and a third connect begins. -/
theorem rotation_of_three_requests :
    let config : ConnectionConfig := .ofTarget "main" "review.example.com" "jenkins"
    let robot : Credential := ⟨"robot", some "robot.key", none⟩
    let deputy : Credential := ⟨"deputy", none, some "secret"⟩
    let answer : CredentialUpdater := fun n _ => [some robot, none, some deputy].getD n none
    let c : Connection :=
      { Connection.ofConfig config true (some answer) with listeners := .empty }
    let pass : Happening := .pass fun _ => false
    let happenings : List Happening :=
      [.strike .launch, .wake .run, pass, pass, pass, pass, pass, pass,
        .wake (.refused .notConnected), .wake .slept, pass, pass, pass, pass, .wake .connected,
        .wake (.answered "gerrit version 3.4"), pass, pass, pass, .wake .opened, pass, pass, pass,
        .wake (.received [97, 10]), .wake .slept, .wake .finished, pass, pass, pass, pass, pass,
        pass, pass, pass, pass, pass, pass, .strike (.lose 0), .wake .opened, pass, pass, pass,
        .wake .finished, pass, pass, pass, .wake .released, pass, pass, .wake .slept, pass, pass,
        pass, pass, pass, pass]
    ∃ last sights, (ofConnection c).log happenings = some (last, sights)
      ∧ opened (sights.flatMap (·.deeds)) = [0, 0]
      ∧ (sights.flatMap (·.deeds)).filter (·.rotates) = answer.attempts config 3
      ∧ last.connection.config = config.withCredential deputy := by
  intro config robot deputy answer c pass happenings
  obtain ⟨last, sights, hlog, hopened, hcount, hpoint⟩ :
      ∃ last sights, (ofConnection c).log happenings = some (last, sights)
        ∧ opened (sights.flatMap (·.deeds)) = [0, 0] ∧ last.connection.refreshes = 3
        ∧ last.point = .waiting ∧ last.connection.shutdown = false :=
    ⟨_, _, rfl, rfl, rfl, rfl, rfl⟩
  obtain ⟨hmade, hconfig, -⟩ := rotation hlog
  rw [hcount] at hmade hconfig
  refine ⟨last, sights, hlog, hopened, ?_, hconfig⟩
  rcases hmade with ⟨-, hmade⟩ | ⟨_, -, -, hattempt | ⟨-, hstop⟩⟩
  · exact hmade
  · rw [hpoint.1] at hattempt
    cases hattempt
  · rw [hpoint.2] at hstop
    cases hstop

end Course

end ReviewStream
