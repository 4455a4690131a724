import ReviewStream.Proofs.Connection.Transcript

/-!
# What a connection posts

The lines that are posted are those of the streams, one stream after the other.  While a stream is
read, its buffer holds what the last line feed has left over, and nothing else; the buffer goes when
the stream ends, and what it holds goes with it.

* `Connection.Follows`: what the task takes for granted agrees with the transcript.
* `Connection.Quiet`: a turn that posts nothing and keeps to that.
* **`Connection.posted_eq_lines`**: what has been posted after any run.
-/

namespace ReviewStream

open Connection (Entry Move)
open Text (Octet)

namespace Connection

variable {config : ConnectionConfig} {t : Transcript} {c : Connection} {session : Nat}
  {version : Option String} {deeds : List Deed} {turn : Turn}

/-! ## Agreement with the transcript -/

/-- Lines go somewhere, and their origin is what the settings say. -/
structure Serves (config : ConnectionConfig) (hasDispatcher : Bool) (name : String)
    (current : ConnectionConfig) : Prop where
  hasDispatcher_eq : hasDispatcher = true
  name_eq : name = config.name
  host_eq : current.host = config.host
  port_eq : current.port = config.port
  frontendUrl_eq : current.frontendUrl = config.frontendUrl

/-- Sessions have reported at most one version each, and only after they had been opened. -/
structure Distinct (reported : List (Nat × String)) (sessions : Nat) : Prop where
  nodup : (reported.map Prod.fst).Nodup
  lt_sessions : ∀ session ∈ reported.map Prod.fst, session < sessions

/-- What holds at every wait, whatever the task waits for. -/
def Configured (config : ConnectionConfig) (t : Transcript) (c : Connection) : Prop :=
  Serves config c.hasDispatcher c.name c.config ∧ Distinct t.reported c.sessions

/-- The version that was reported on a session. -/
def Knows (t : Transcript) (session : Nat) (version : Option String) : Prop :=
  ∃ v, version = some v ∧ t.reported.lookup session = some v

/-- The stream that is read is the last one, and its buffer has lost nothing. -/
structure Reads (config : ConnectionConfig) (t : Transcript) (version : Option String)
    (earlier : List Feed) (f : Feed) (s : Stream) : Prop where
  feeds_eq : t.feeds = earlier ++ [f]
  version_eq : version = some f.version
  lookup_eq : t.reported.lookup s.session = some f.version
  provider_eq : s.provider = f.provider config
  faithful : (Intake.mk f.octets (linesOf f.octets) s.buffer).Faithful

lemma Reads.knows {earlier : List Feed} {f : Feed} {s : Stream}
    (h : Reads config t version earlier f s) : Knows t s.session version :=
  ⟨f.version, h.version_eq, h.lookup_eq⟩

/-- What a task takes for granted. -/
def Agrees (config : ConnectionConfig) (t : Transcript) (sessions : Nat)
    (version : Option String) : Task → Prop
  | .querying session =>
    t.asked = some session ∧ session < sessions ∧ session ∉ t.reported.map Prod.fst
  | .opening session => t.requested = some session ∧ Knows t session version
  | .reading s | .pausing s => ∃ earlier f, Reads config t version earlier f s
  | .backingOff reusable => ∀ session ∈ reusable, Knows t session version
  | _ => True

/-- The connection is where its transcript says. -/
structure Follows (config : ConnectionConfig) (t : Transcript) (c : Connection) : Prop where
  configured : Configured config t c
  agrees : Agrees config t c.sessions c.version c.task

/-! ## Quiet turns -/

/-- A turn that posts nothing and does what the transcript says. -/
structure Quiet (config : ConnectionConfig) (t : Transcript) (turn : Turn) : Prop where
  follows : Follows config (turn.2.foldl Transcript.send t) turn.1
  posted_eq : posted turn.2 = []

/-- A turn without a word to the server. -/
lemma quiet_of_silent (h : Follows config t c) (hsilent : ∀ d ∈ deeds, d.isSilent = true) :
    Quiet config t (c, deeds) where
  follows := by
    rw [t.foldl_send_of_silent hsilent]
    exact h
  posted_eq := posted_of_silent hsilent

/-- Other things may be done before a turn. -/
lemma Quiet.after (h : Quiet config t turn) (hsilent : ∀ d ∈ deeds, d.isSilent = true) :
    Quiet config t (turn.after deeds) where
  follows := by
    rw [Turn.after, List.foldl_append, t.foldl_send_of_silent hsilent]
    exact h.follows
  posted_eq := by rw [Turn.after, posted_append, posted_of_silent hsilent, h.posted_eq]; rfl

lemma isSilent_of_mem_tellAll {e : ConnectionEvent} : ∀ d ∈ c.tellAll e, d.isSilent = true := by
  intro d hd
  obtain ⟨x, -, rfl⟩ := List.mem_map.mp hd
  rfl

lemma isSilent_of_mem_stopWatchdog : ∀ d ∈ c.stopWatchdog.2, d.isSilent = true := by
  intro d hd
  simp only [stopWatchdog] at hd
  split_ifs at hd
  · rw [List.mem_singleton.mp hd]
    rfl
  · exact absurd hd List.not_mem_nil

lemma isSilent_of_mem_refresh : ∀ d ∈ c.refresh.2, d.isSilent = true := by
  intro d hd
  simp only [refresh] at hd
  split at hd
  · exact absurd hd List.not_mem_nil
  · rw [List.mem_singleton.mp hd]
    rfl

/-! ## Stretches between two waits -/

lemma quiet_finish (hc : Configured config t c) (reusable : Option Nat) :
    Quiet config t (c.finish reusable) := by
  cases reusable with
  | none => exact quiet_of_silent ⟨hc, trivial⟩ (by simp)
  | some session => exact quiet_of_silent ⟨hc, trivial⟩ (by simp [Deed.isSilent])

/-- A refreshed credential leaves the rest of the settings alone. -/
lemma configured_refresh (hc : Configured config t c) : Configured config t c.refresh.1 := by
  rw [refresh]
  split
  · exact hc
  next answer _ =>
    dsimp only
    cases answer c.refreshes c.config.credential with
    | none => exact hc
    | some credential =>
        obtain ⟨⟨hdispatcher, hname, hhost, hport, hurl⟩, hdistinct⟩ := hc
        exact ⟨⟨hdispatcher, hname, hhost, hport, hurl⟩, hdistinct⟩

lemma quiet_connect (hc : Configured config t c) : Quiet config t c.connect := by
  rw [connect]
  split_ifs
  · exact quiet_finish hc none
  · set trying : Connection := { c with state := c.state.enter .connecting }
    have htried : Configured config t trying.refresh.1 := configured_refresh hc
    refine quiet_of_silent ⟨htried, trivial⟩ fun d hd => ?_
    rcases List.mem_append.mp hd with hd | hd
    · exact isSilent_of_mem_refresh d hd
    · rw [List.mem_singleton.mp hd]
      rfl

lemma quiet_openStream (hc : Configured config t c) (hknows : Knows t session c.version) :
    Quiet config t (c.openStream session) := by
  have hwatch : ∀ d ∈ (c.config.watchdogTimeout?.map Deed.watch).toList, d.isSilent = true := by
    cases c.config.watchdogTimeout? <;> simp [Deed.isSilent]
  rw [openStream]
  have hasked : Quiet config t
      ({ c with
          task := .opening session
          cancelled := some false
          watched := c.config.watchdogTimeout?.isSome },
        [.call (.openStream session streamCommand)]) := ⟨⟨hc, rfl, hknows⟩, rfl⟩
  exact hasked.after hwatch

/-- A session that is kept has reported the version that the connection knows. -/
lemma quiet_proceed {reusable : Option Nat} (hc : Configured config t c)
    (hknows : ∀ session ∈ reusable, Knows t session c.version) :
    Quiet config t (c.proceed reusable) := by
  cases reusable with
  | none =>
      simp only [proceed]
      split_ifs
      · exact quiet_finish hc none
      · exact quiet_connect hc
  | some session =>
      simp only [proceed]
      split_ifs
      · exact quiet_finish hc (some session)
      · exact quiet_openStream hc (hknows session rfl)
      · exact quiet_finish hc (some session)
      · exact quiet_of_silent ⟨hc, trivial⟩ (by simp [Deed.isSilent])

lemma quiet_afterStream {reusable : Option Nat} (hc : Configured config t c)
    (hknows : ∀ session ∈ reusable, Knows t session c.version) (backOff : Bool) :
    Quiet config t (c.afterStream reusable backOff) := by
  have htold : ∀ d ∈ if c.established then c.tellAll .down else [], d.isSilent = true := by
    intro d hd
    split_ifs at hd
    · exact isSilent_of_mem_tellAll d hd
    · exact absurd hd List.not_mem_nil
  simp only [afterStream]
  generalize (if c.established then c.tellAll .down else []) = deeds at htold ⊢
  split_ifs
  · exact quiet_of_silent ⟨hc, hknows⟩ htold
  · refine Quiet.after ?_ htold
    exact quiet_proceed hc hknows

lemma quiet_endStream (hc : Configured config t c) (hknows : Knows t session c.version)
    (e : StreamEnd) : Quiet config t (c.endStream session e) := by
  have hkept : ∀ kept ∈ some session, Knows t kept c.version := by
    rintro kept hkept
    rwa [← Option.mem_some.mp hkept]
  simp only [endStream]
  refine Quiet.after ?_ isSilent_of_mem_stopWatchdog
  split_ifs
  · refine quiet_afterStream ?_ ?_ _
    · exact hc
    · exact hkept
  · exact quiet_of_silent ⟨hc, trivial⟩ (by simp [Deed.isSilent])

/-- What is said about the origin of lines. -/
lemma provider_eq {f : Feed} (hc : Configured config t c) (hv : c.version = some f.version) :
    c.provider = f.provider config := by
  obtain ⟨-, hname, hhost, hport, hurl⟩ := hc.1
  rw [provider, Feed.provider, hname, hhost, hport, hurl, hv, Option.getD_some]

/-- A stream that is opened comes last in the transcript. -/
lemma hear_opened {v : String} (hrequested : t.requested = some session)
    (hlookup : t.reported.lookup session = some v) :
    t.hear .opened = { t with feeds := t.feeds ++ [⟨session, v, []⟩] } := by
  have hversion : t.requestedVersion? = some (session, v) := by
    rw [Transcript.requestedVersion?, hrequested, Option.bind_some, hlookup, Option.map_some]
  rw [Transcript.hear, hversion]

/-- Reading begins with an empty buffer. -/
lemma quiet_beginStream (hc : Configured config t c) (hrequested : t.requested = some session)
    (hknows : Knows t session c.version) :
    Quiet config (t.hear .opened) (c.beginStream session) := by
  obtain ⟨v, hv, hlookup⟩ := hknows
  rw [hear_opened hrequested hlookup]
  simp only [beginStream]
  split_ifs
  · refine quiet_of_silent ⟨hc, t.feeds, ⟨session, v, []⟩, ?_⟩ isSilent_of_mem_tellAll
    exact {
      feeds_eq := rfl
      version_eq := hv
      lookup_eq := hlookup
      provider_eq := provider_eq hc hv
      faithful := Intake.faithful_ofCapacity _ }
  · refine quiet_endStream ?_ ?_ _
    · exact hc
    · exact ⟨v, hv, hlookup⟩

/-! ## Reading -/

/-- Octets that are read belong to the stream that was opened last. -/
lemma hear_received {earlier : List Feed} {f : Feed} {octets : List Octet}
    (h : t.feeds = earlier ++ [f]) :
    t.hear (.received octets)
      = { t with feeds := earlier ++ [{ f with octets := f.octets ++ octets }] } := by
  rw [Transcript.hear, h, List.modifyLast_concat]

/-- What is posted are the lines that the new octets complete. -/
lemma take_spec {earlier : List Feed} {f : Feed} {s : Stream} {octets : List Octet}
    (hc : Configured config t c) (hs : Reads config t c.version earlier f s)
    (hfits : octets.length ≤ s.buffer.room) :
    Follows config ((c.take s octets).2.foldl Transcript.send (t.hear (.received octets)))
        (c.take s octets).1
      ∧ (t.hear (.received octets)).lines config
        = t.lines config ++ posted (c.take s octets).2 := by
  obtain ⟨hfeeds, hversion, hlookup, hprovider, hbuffer⟩ := hs
  -- The buffer takes the octets and is drained at once, so no line stays in it between two reads.
  set buffer := s.buffer.receive octets with hreceived
  have htaken : s.buffer.Takes octets buffer := LineBuffer.receive_takes_of_fits hbuffer.sound hfits
  have hdrained : (Intake.mk (f.octets ++ octets) (linesOf f.octets ++ buffer.lines)
      buffer.drain.2).Faithful := (hbuffer.deliver htaken).use .drain
  have hlines : linesOf f.octets ++ buffer.lines = linesOf (f.octets ++ octets) := by
    have hall := hdrained.lines_eq
    rwa [LineBuffer.lines_drain, List.append_nil] at hall
  have hdeeds : (c.take s octets).2
      = buffer.lines.map (Deed.post · s.provider) ++ if c.watched then [.signal] else [] := by
    simp only [take, hc.1.hasDispatcher_eq, if_true]
    rfl
  have hsignal : ∀ d ∈ if c.watched then [Deed.signal] else [], d.isSilent = true := by
    split_ifs <;> simp [Deed.isSilent]
  have hposted : posted (c.take s octets).2
      = buffer.lines.map (·, f.provider config) := by
    rw [hdeeds, posted_append, posted_of_silent hsignal, List.append_nil, posted_map_post,
      hprovider]
  have hsent : (c.take s octets).2.foldl Transcript.send (t.hear (.received octets))
      = t.hear (.received octets) := by
    rw [hdeeds, List.foldl_append, Transcript.foldl_send_map_post,
      Transcript.foldl_send_of_silent _ hsignal]
  rw [hsent, hposted, hear_received hfeeds]
  refine ⟨⟨hc, earlier, { f with octets := f.octets ++ octets }, ?_⟩, ?_⟩
  · exact {
      feeds_eq := rfl
      version_eq := hversion
      lookup_eq := hlookup
      provider_eq := hprovider
      faithful := by
        rw [← hlines]
        exact hdrained }
  · simp only [Transcript.lines, hfeeds, List.flatMap_append, List.flatMap_cons, List.flatMap_nil,
      List.append_nil, List.append_assoc, Feed.lines, ← hlines, List.map_append]
    rfl

/-! ## Any move -/

/-- A move that adds to the transcript what it posts. -/
structure Advance (config : ConnectionConfig) (t : Transcript) (move : Move) (turn : Turn) :
    Prop where
  follows : Follows config (t.note ⟨move, turn.2⟩) turn.1
  lines_eq : (t.note ⟨move, turn.2⟩).lines config = t.lines config ++ posted turn.2
  octets_eq :
    (t.note ⟨move, turn.2⟩).feeds.flatMap (·.octets) = t.feeds.flatMap (·.octets) ++ move.octets
  length_eq :
    (t.note ⟨move, turn.2⟩).feeds.length = t.feeds.length + move.opensStream.toNat

variable {move : Move}

lemma Quiet.advance (h : Quiet config (t.hear move) turn) (hfeeds : (t.hear move).feeds = t.feeds)
    (hoctets : move.octets = []) (hopens : move.opensStream = false) :
    Advance config t move turn where
  follows := h.follows
  lines_eq := by
    rw [Transcript.lines, Transcript.note, Transcript.feeds_foldl_send, hfeeds, h.posted_eq,
      List.append_nil]
    rfl
  octets_eq := by
    rw [Transcript.note, Transcript.feeds_foldl_send, hfeeds, hoctets, List.append_nil]
  length_eq := by
    rw [Transcript.note, Transcript.feeds_foldl_send, hfeeds, hopens]
    rfl

/-- A stream that has just been opened has no lines yet. -/
lemma advance_opened (hc : Configured config t c) (hrequested : t.requested = some session)
    (hknows : Knows t session c.version) :
    Advance config t .opened (c.beginStream session) := by
  have hquiet := quiet_beginStream hc hrequested hknows
  obtain ⟨v, -, hlookup⟩ := hknows
  have hfeeds : (t.note ⟨.opened, (c.beginStream session).2⟩).feeds
      = t.feeds ++ [⟨session, v, []⟩] := by
    rw [Transcript.note, Transcript.feeds_foldl_send, hear_opened hrequested hlookup]
  exact {
    follows := hquiet.follows
    lines_eq := by
      rw [Transcript.lines, hfeeds, List.flatMap_append, hquiet.posted_eq]
      rfl
    octets_eq := by
      rw [hfeeds, List.flatMap_append]
      rfl
    length_eq := by
      rw [hfeeds, List.length_append]
      rfl }

lemma advance_received {earlier : List Feed} {f : Feed} {s : Stream} {octets : List Octet}
    (hc : Configured config t c) (hs : Reads config t c.version earlier f s)
    (hfits : octets.length ≤ s.buffer.room) :
    Advance config t (.received octets) (c.take s octets) := by
  obtain ⟨hfollows, hlines⟩ := take_spec hc hs hfits
  have hfeeds : (t.note ⟨.received octets, (c.take s octets).2⟩).feeds
      = earlier ++ [{ f with octets := f.octets ++ octets }] := by
    rw [Transcript.note, Transcript.feeds_foldl_send, hear_received hs.feeds_eq]
  exact {
    follows := hfollows
    lines_eq := by
      rw [← hlines, Transcript.lines, Transcript.note, Transcript.feeds_foldl_send]
      rfl
    octets_eq := by
      rw [hfeeds, hs.feeds_eq]
      simp [Move.octets]
    length_eq := by
      rw [hfeeds, hs.feeds_eq]
      simp [Move.opensStream] }

lemma quiet_start {next : Connection} (h : Follows config t c) (hstart : c.start? = .ok next) :
    Quiet config t (next, []) := by
  simp only [start?] at hstart
  split_ifs at hstart
  cases hstart
  exact quiet_of_silent ⟨h.configured, trivial⟩ (by simp)

lemma quiet_requestShutdown (h : Follows config t c) : Quiet config t c.requestShutdown :=
  quiet_of_silent ⟨h.configured, h.agrees⟩ isSilent_of_mem_stopWatchdog

lemma quiet_reconnect (h : Follows config t c) : Quiet config t c.reconnect := by
  refine quiet_of_silent ⟨h.configured, h.agrees⟩ ?_
  exact isSilent_of_mem_stopWatchdog (c := { c with reconnects := c.reconnects + 1 })

/-- A new session is asked for its version. -/
lemma quiet_connected (hc : Configured config t c) :
    Quiet config t ({ c with sessions := c.sessions + 1, task := .querying c.sessions },
      [.call (.execute c.sessions versionCommand)]) where
  follows := by
    obtain ⟨hserves, hnodup, hlt⟩ := hc
    have hnew : c.sessions ∉ t.reported.map Prod.fst := fun h => Nat.lt_irrefl _ (hlt _ h)
    show Follows config (t.send (.call (.execute c.sessions versionCommand))) _
    rw [Transcript.send, if_pos rfl]
    refine ⟨⟨hserves, hnodup, ?_⟩, rfl, Nat.lt_succ_self _, hnew⟩
    exact fun session h => Nat.lt_succ_of_lt (hlt session h)
  posted_eq := rfl

/-- The answer is the version of the session that was asked. -/
lemma hear_answered (output : String) (hasked : t.asked = some session) :
    t.hear (.answered output)
      = { t with reported := (session, versionOf output) :: t.reported } := by
  rw [Transcript.hear, hasked]

lemma quiet_answered (output : String) (hc : Configured config t c)
    (hasked : t.asked = some session) (hopened : session < c.sessions)
    (hnew : session ∉ t.reported.map Prod.fst) :
    Quiet config (t.hear (.answered output))
      ({ c with version := some (versionOf output) }.openStream session) := by
  obtain ⟨hserves, hnodup, hlt⟩ := hc
  rw [hear_answered output hasked]
  refine quiet_openStream ⟨hserves, ?_, ?_⟩ ?_
  · exact List.nodup_cons.mpr ⟨hnew, hnodup⟩
  · rintro opened hmem
    rcases List.mem_cons.mp hmem with rfl | hmem
    · exact hopened
    · exact hlt opened hmem
  · exact ⟨versionOf output, rfl, List.lookup_cons_self⟩

/-- **Every move adds to the transcript what it posts.** -/
theorem Follows.advance (h : Follows config t c) (hstep : c.Step move turn) :
    Advance config t move turn := by
  have hc := h.configured
  have hagrees := h.agrees
  cases hstep with
  | start hstart => exact (quiet_start h hstart).advance rfl rfl rfl
  | shutdown => exact (quiet_requestShutdown h).advance rfl rfl rfl
  | reconnect => exact (quiet_reconnect h).advance rfl rfl rfl
  | alarm _ => exact (quiet_reconnect h).advance rfl rfl rfl
  | begin _ => exact (quiet_proceed hc (by simp)).advance rfl rfl rfl
  | stopConnecting _ _ | stopQuerying _ _ | stopRejecting _ _ | stopRetrying _ _ | closed _ =>
      exact (quiet_finish hc none).advance rfl rfl rfl
  | stopBackingOff _ _ => exact (quiet_finish hc _).advance rfl rfl rfl
  | connected _ _ => exact (quiet_connected hc).advance rfl rfl rfl
  | released _ => exact (quiet_afterStream hc (by simp) _).advance rfl rfl rfl
  | discarded _ | retried _ _ => exact (quiet_connect hc).advance rfl rfl rfl
  | startRefused _ | lose _ =>
      refine Quiet.advance ?_ rfl rfl rfl
      exact quiet_of_silent ⟨hc, hagrees⟩ (by simp)
  | refused _ _ | rejected _ _ =>
      refine Quiet.advance ?_ rfl rfl rfl
      exact quiet_of_silent ⟨hc, trivial⟩ (by simp)
  | unanswered _ _ =>
      refine Quiet.advance ?_ rfl rfl rfl
      exact quiet_of_silent ⟨hc, trivial⟩ (by simp [Deed.isSilent])
  | answered htask _ =>
      rw [htask] at hagrees
      obtain ⟨hasked, hopened, hnew⟩ := hagrees
      refine (quiet_answered _ hc hasked hopened hnew).advance ?_ rfl rfl
      rw [hear_answered _ hasked]
  | opened htask _ =>
      rw [htask] at hagrees
      exact advance_opened hc hagrees.1 hagrees.2
  | stopOpening htask _ | unopened htask _ =>
      rw [htask] at hagrees
      exact (quiet_endStream hc hagrees.2 _).advance rfl rfl rfl
  | received htask _ _ hfits =>
      rw [htask] at hagrees
      obtain ⟨earlier, f, hs⟩ := hagrees
      exact advance_received hc hs hfits
  | stopReading htask _ | stopPausing htask _ | finished htask _ | broken htask _ =>
      rw [htask] at hagrees
      obtain ⟨earlier, f, hs⟩ := hagrees
      exact (quiet_endStream hc hs.knows _).advance rfl rfl rfl
  | backedOff htask _ =>
      rw [htask] at hagrees
      exact (quiet_proceed hc hagrees).advance rfl rfl rfl
  | paused htask _ =>
      rw [htask] at hagrees
      refine Quiet.advance ?_ rfl rfl rfl
      exact quiet_of_silent ⟨hc, hagrees⟩ (by simp)

/-! ## Any run -/

/-- What has been posted and read so far is what the transcript says. -/
structure Told (config : ConnectionConfig) (c : Connection) (past : List Entry) : Prop where
  follows : Follows config (.ofHistory past) c
  posted_eq : posted (past.flatMap (·.deeds)) = (Transcript.ofHistory past).lines config
  octets_eq :
    (Transcript.ofHistory past).feeds.flatMap (·.octets) = (past.map (·.move)).flatMap (·.octets)
  length_eq :
    (Transcript.ofHistory past).feeds.length = (past.map (·.move)).countP (·.opensStream)

lemma told_ofConfig (config : ConnectionConfig) (updater : Option CredentialUpdater)
    (listeners : ListenerSet Observer) :
    Told config { ofConfig config true updater with listeners } [] where
  follows := by
    have hserves : Serves config true config.name config := ⟨rfl, rfl, rfl, rfl, rfl⟩
    refine ⟨⟨hserves, List.nodup_nil, ?_⟩, trivial⟩
    exact fun session h => absurd h List.not_mem_nil
  posted_eq := rfl
  octets_eq := rfl
  length_eq := rfl

lemma Told.step {past : List Entry} (h : Told config c past) (hstep : c.step move = some turn) :
    Told config turn.1 (past ++ [⟨move, turn.2⟩]) := by
  obtain ⟨hfollows, hlines, hoctets, hlength⟩ := h.follows.advance (step_spec hstep)
  rw [← Transcript.ofHistory_append_singleton] at hfollows hlines hoctets hlength
  refine ⟨hfollows, ?_, ?_, ?_⟩
  · rw [hlines, ← h.posted_eq, List.flatMap_append, posted_append, List.flatMap_singleton]
  · rw [hoctets, h.octets_eq, List.map_append, List.flatMap_append, List.map_singleton,
      List.flatMap_singleton]
  · rw [hlength, h.length_eq, List.map_append, List.countP_append, List.map_singleton,
      List.countP_singleton]
    cases move.opensStream <;> rfl

/-- **What is posted are the lines of the streams.**  After any run the posted lines are those that
line feeds have ended, stream by stream in the order in which the streams were opened.  Each line
comes with the settings of the connection and the version that was reported, once, on the session
of its stream.  What no line feed has ended is not posted, and it is not joined with what a later
stream brings, even on the same session; and every octet that has been read belongs to one of the
streams. -/
theorem posted_eq_lines {config : ConnectionConfig} {updater : Option CredentialUpdater}
    {listeners : ListenerSet Observer} {moves : List Move} {last : Connection}
    {entries : List Entry}
    (h : history { ofConfig config true updater with listeners } moves = some (last, entries)) :
    run { ofConfig config true updater with listeners } moves
        = some (last, entries.flatMap (·.deeds))
      ∧ posted (entries.flatMap (·.deeds)) = (Transcript.ofHistory entries).lines config
      ∧ (Transcript.ofHistory entries).feeds.flatMap (·.octets) = moves.flatMap (·.octets)
      ∧ (Transcript.ofHistory entries).feeds.length = moves.countP (·.opensStream)
      ∧ ((Transcript.ofHistory entries).reported.map Prod.fst).Nodup := by
  have htold : Told config last entries :=
    history_induction (fun c past move turn hpast hstep => hpast.step hstep) moves _ []
      (told_ofConfig config updater listeners) h
  refine ⟨?_, htold.posted_eq, ?_, ?_, htold.follows.configured.2.nodup⟩
  · rw [run_eq_history, h]
    rfl
  · rw [htold.octets_eq, map_move_of_history h]
  · rw [htold.length_eq, map_move_of_history h]

/-- Three streams, the second one on the session of the first: what the first and the second one
leave open is lost, and the third one comes from a server with another version. -/
theorem posted_eq_lines_of_three_streams :
    let config : ConnectionConfig := .ofTarget "main" "review.example.com" "jenkins"
    let c : Connection := { ofConfig config true none with listeners := .empty }
    let old : Provider := .ofSession "main" "review.example.com" 29418 "" "3.4"
    let new : Provider := .ofSession "main" "review.example.com" 29418 "" "3.5"
    let entries : List Entry :=
      [⟨.start, []⟩, ⟨.run, [.call (.connect config)]⟩,
        ⟨.connected, [.call (.execute 0 versionCommand)]⟩,
        ⟨.answered "gerrit version 3.4", [.call (.openStream 0 streamCommand)]⟩,
        ⟨.opened, []⟩, ⟨.received [97, 10, 98], [.post "a" old]⟩, ⟨.slept, []⟩,
        ⟨.finished, [.call (.openStream 0 streamCommand)]⟩,
        ⟨.opened, []⟩, ⟨.received [99, 10, 100], [.post "c" old]⟩,
        ⟨.reconnect, []⟩, ⟨.run, [.call (.disconnect 0)]⟩, ⟨.released, [.call (.connect config)]⟩,
        ⟨.connected, [.call (.execute 1 versionCommand)]⟩,
        ⟨.answered "gerrit version 3.5", [.call (.openStream 1 streamCommand)]⟩,
        ⟨.opened, []⟩, ⟨.received [101, 10], [.post "e" new]⟩]
    ∃ last, c.history (entries.map (·.move)) = some (last, entries)
      ∧ posted (entries.flatMap (·.deeds)) = (Transcript.ofHistory entries).lines config
      ∧ (Transcript.ofHistory entries).feeds
        = [⟨0, "3.4", [97, 10, 98]⟩, ⟨0, "3.4", [99, 10, 100]⟩, ⟨1, "3.5", [101, 10]⟩] := by
  intro config c old new entries
  obtain ⟨last, h⟩ : ∃ last, c.history (entries.map (·.move)) = some (last, entries) := ⟨_, rfl⟩
  exact ⟨last, h, (posted_eq_lines h).2.1, rfl⟩

end Connection

end ReviewStream
