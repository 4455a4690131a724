import Mathlib.Tactic.Lemma
import Mathlib.Tactic.SplitIfs
import ReviewStream.Proofs.Ssh.Paths
import ReviewStream.Ssh.Process

/-!
# What a step of a process does

The client knows a session by the socket that its arguments name, and a helper is known by its path.
Here is said what each step does to them, so that nothing has to be said again for the invariants.

* `socketArgument?`: the socket that the client is told.
* `Attempt.Turns`: what one step of a connect does to the world.
* `World.Speaks`: what a session does to the world.
* `Process.Steps`: what a step does to a process.
* **`Process.connect_eq_run`**: a connect that is left alone is the connect of the transport.
-/

namespace ReviewStream.Ssh

open AskPass (pathFor)

/-! ## Sockets of calls -/

/-- The socket that the client is told by its arguments; every option before it comes with a
value. -/
def socketArgument? : List String → Option String
  | option :: value :: rest => if option = "-S" then some value else socketArgument? rest
  | _ => none

/-- The socket that a call is told. -/
def Invocation.socket? (call : Invocation) : Option String := socketArgument? call.args

/-- The socket at which the master of a session is told to listen. -/
def Session.socket? (s : Session) : Option String := (s.master []).socket?

/-- Whether the calls of a session are told a socket, whatever they ask for. -/
def Session.Names (s : Session) (control : String) : Prop :=
  ∀ rest, socketArgument? (s.args ++ rest) = some control

/-- The calls that started a master. -/
def World.masters (w : World) : List Invocation := w.calls.filter (·.purpose = .master)

/-- The sessions whose master is up and was told to listen at a socket. -/
def World.mastersAt (w : World) (socket : String) : List Nat :=
  w.up.filter fun n => w.sessions[n]?.any fun s => s.socket? = some socket

lemma eq_invalidProxy_of_read? {proxy : String} {e : TransportError}
    (h : Proxy.read? proxy = .error e) : e = .invalidProxy proxy := by
  unfold Proxy.read? at h
  split at h
  · cases h
  · cases h
  · exact (Except.error.inj h).symm

/-- The arguments of a session name its socket, unless the proxy is not valid. -/
lemma sessionArguments?_cases (c : ConnectionConfig) (control : String) :
    (∃ proxy, sessionArguments? c control = .error (.invalidProxy proxy)) ∨
      ∃ args, sessionArguments? c control = .ok args ∧ Session.Names ⟨args, c.host⟩ control := by
  unfold sessionArguments?
  cases c.proxy.filter (· ≠ "") with
  | none => exact .inr ⟨_, rfl, fun rest => by simp [socketArgument?]⟩
  | some proxy =>
      cases hread : Proxy.read? proxy with
      | error e =>
          left
          refine ⟨proxy, ?_⟩
          cases eq_invalidProxy_of_read? hread
          simp [hread, bind, Except.bind, Except.map]
      | ok p =>
          right
          simp only [hread]
          exact ⟨_, rfl, fun rest => by simp [socketArgument?]⟩

/-! ## One step of a connect -/

/-- The error of a helper in whose place there is something already. -/
def AskPass.occupied (control : String) : TransportError :=
  .clientUnavailable
    ("Failed to create askpass helper " ++ pathFor control ++ ": " ++ "File exists (os error 17)")

/-- A helper is created unless there is something in its place or no folder for it. -/
lemma install?_cases (p : Places) (control : String) :
    (∃ e, AskPass.install? p control = .error e) ∨
      AskPass.install? p control
        = .ok (⟨pathFor control⟩, { p with files := pathFor control :: p.files }) := by
  unfold AskPass.install? Places.create?
  dsimp only
  split_ifs
  · exact .inl ⟨_, rfl⟩
  · exact .inr rfl
  · exact .inl ⟨_, rfl⟩

/-- The error tells whether there is something in the place of a helper. -/
lemma install?_eq_occupied_iff (p : Places) (control : String) :
    AskPass.install? p control = .error (AskPass.occupied control)
      ↔ pathFor control ∈ p.files ∨ pathFor control ∈ p.folders := by
  unfold AskPass.install? Places.create?
  dsimp only
  split_ifs with hthere hfolder
  · exact iff_of_true rfl (by simpa using hthere)
  · exact iff_of_false nofun (by simpa using hthere)
  · refine iff_of_false (fun heq => ?_) (by simpa using hthere)
    have hreason := (String.append_right_inj _).mp
      (TransportError.clientUnavailable.inj (Except.error.inj heq))
    exact absurd hreason (by decide)

namespace Attempt

/-- What one step of a connect comes to, and what it does to the world. -/
inductive Turns (a : Attempt) (w : World) : Phase × World → Prop
  | rests {phase : Phase} (hphase : a.phase = phase) : Turns a w (phase, w)
  /-- The settings are not valid, or the helper cannot be installed. -/
  | refused {e : TransportError} (hphase : a.phase = .numbered)
      (hplace : e = AskPass.occupied a.control →
        pathFor a.control ∈ w.places.files ∨ pathFor a.control ∈ w.places.folders) :
      Turns a w (.ended (.error e), w)
  | equipped {s : Session} (hphase : a.phase = .numbered) (hs : s.Names a.control) :
      Turns a w (.equipped s none, w)
  | helped {s : Session} (hphase : a.phase = .numbered) (hs : s.Names a.control) :
      Turns a w (.equipped s (some ⟨pathFor a.control⟩),
        { w with places := { w.places with files := pathFor a.control :: w.places.files } })
  /-- There is no client. -/
  | unstarted {s : Session} {askpass : Option AskPass} {result : Except TransportError Nat}
      (hphase : a.phase = .equipped s askpass)
      (hresult : result ≠ .error (AskPass.occupied a.control)) :
      Turns a w (.started askpass result, w)
  /-- A master that is refused opens no session. -/
  | started {s : Session} {askpass : Option AskPass} {result : Except TransportError Nat}
      {environment : Environment} {sessions : List Session} {up : List Nat}
      (hphase : a.phase = .equipped s askpass)
      (hresult : result ≠ .error (AskPass.occupied a.control))
      (hsessions : sessions = w.sessions ∨ sessions = w.sessions ++ [s]) :
      Turns a w (.started askpass result,
        { w with calls := w.calls ++ [s.master environment], sessions, up })
  | released {askpass : Option AskPass} {result last : Except TransportError Nat} {up : List Nat}
      (hphase : a.phase = .started askpass result)
      (hlast : last = .error (AskPass.occupied a.control) → last = result) :
      Turns a w (.ended last, { w.release askpass with up })

variable {a : Attempt} {w : World}

lemma turns_equip (hphase : a.phase = .numbered) : a.Turns w (a.equip w) := by
  unfold equip
  obtain ⟨proxy, hargs⟩ | ⟨args, hargs, hs⟩ := sessionArguments?_cases a.config a.control
  · rw [hargs]
    exact .refused hphase nofun
  · rw [hargs]
    dsimp only
    split_ifs
    · exact .equipped hphase hs
    · obtain ⟨e, hinstall⟩ | hinstall := install?_cases w.places a.control
      · rw [hinstall]
        refine .refused hphase fun heq => ?_
        exact (install?_eq_occupied_iff w.places a.control).mp (heq ▸ hinstall)
      · rw [hinstall]
        exact .helped hphase hs

lemma classify_ne_occupied (c : ConnectionConfig) (stderr : List Text.Octet) (control : String) :
    World.classify c stderr ≠ AskPass.occupied control := by
  unfold World.classify
  dsimp only
  split_ifs
  · exact nofun
  · exact nofun

/-- A master is started once the client is there; it opens a session unless it is refused. -/
lemma turns_start {s : Session} {askpass : Option AskPass} (hphase : a.phase = .equipped s askpass)
    (environment : Environment) :
    a.Turns w (.started askpass (w.startMaster a.config s environment).1,
      (w.startMaster a.config s environment).2) := by
  unfold World.startMaster
  cases w.client with
  | none => exact .unstarted hphase nofun
  | some client =>
      dsimp only
      cases client.refusal with
      | none => exact .started hphase nofun (.inr rfl)
      | some stderr =>
          refine .started hphase (fun h => ?_) (.inl rfl)
          exact classify_ne_occupied a.config stderr a.control (Except.error.inj h)

lemma turns_advance (a : Attempt) (w : World) : a.Turns w (a.advance w) := by
  unfold advance
  cases hphase : a.phase with
  | numbered => exact turns_equip hphase
  | equipped s askpass => exact turns_start hphase _
  | started askpass result =>
      cases askpass with
      | none | some askpass => exact .released hphase fun _ => rfl
  | ended result => exact .rests hphase

lemma turns_giveUp (a : Attempt) (w : World) : a.Turns w (a.giveUp w) := by
  unfold giveUp
  cases hphase : a.phase with
  | started askpass result =>
      cases askpass <;> cases result <;> exact .released hphase nofun
  | numbered | equipped | ended => exact .rests hphase

end Attempt

/-! ## One step of a process -/

/-- What a session does to the world: it may make a call, and be up no longer. -/
inductive World.Speaks (w : World) : World → Prop
  | silent : Speaks w w
  | spoken {s : Session} {call : Invocation} {up : List Nat} (hs : s ∈ w.sessions)
      (hargs : ∃ rest, call.args = s.args ++ rest) (hpurpose : call.purpose ≠ .master) :
      Speaks w { w with calls := w.calls ++ [call], up }

lemma World.speaks_execute (w : World) (session : Nat) (command : String) :
    w.Speaks (w.execute session command).2 := by
  have hrun : w.Speaks (w.run session command).2 := by
    unfold World.run
    split
    · next s _ hs =>
      split_ifs
      · exact .spoken (List.mem_of_getElem? hs) ⟨_, rfl⟩ nofun
      · exact .silent
    · exact .silent
  unfold World.execute
  split
  · next h => rwa [h] at hrun
  · next h =>
    rw [h] at hrun
    split_ifs <;> exact hrun

lemma World.speaks_disconnect (w : World) (session : Nat) : w.Speaks (w.disconnect session) := by
  unfold World.disconnect
  split
  · next s hs =>
    split_ifs
    · exact .spoken (List.mem_of_getElem? hs) ⟨_, rfl⟩ nofun
    · exact .silent
  · exact .silent

namespace Process

/-- What a step does to a process. -/
inductive Steps (p : Process) : Step → Process → Prop
  | numbered {c : ConnectionConfig} : Steps p (.connect c) (p.number c)
  | turned {x : Step} {k : Nat} {a : Attempt} {phase : Phase} {world : World}
      (ha : p.attempts[k]? = some a) (hturn : a.Turns p.world (phase, world))
      (hx : x.connect? = none) : Steps p x ⟨world, p.attempts.set k { a with phase }⟩
  | spoke {x : Step} {world : World} (hspeaks : p.world.Speaks world) (hx : x.connect? = none) :
      Steps p x ⟨world, p.attempts⟩
  | disturbed {change : Places.Change} :
      Steps p (.files change)
        ⟨{ p.world with places := p.world.places.change change }, p.attempts⟩
  | answered {client : Option Client} :
      Steps p (.client client) ⟨{ p.world with client }, p.attempts⟩

lemma steps_move {p : Process} {x : Step} {act : Attempt → World → Phase × World}
    (hact : ∀ (a : Attempt) (w : World), a.Turns w (act a w)) (hx : x.connect? = none) (k : Nat) :
    p.Steps x (p.move k act) := by
  unfold move
  split
  · next a ha => exact .turned ha (hact a p.world) hx
  · exact .spoke .silent hx

lemma steps_step (p : Process) (x : Step) : p.Steps x (p.step x) := by
  cases x with
  | connect c => exact .numbered
  | advance k => exact steps_move Attempt.turns_advance rfl k
  | giveUp k => exact steps_move Attempt.turns_giveUp rfl k
  | execute session command => exact .spoke (p.world.speaks_execute session command) rfl
  | disconnect session => exact .spoke (p.world.speaks_disconnect session) rfl
  | files change => exact .disturbed
  | client client => exact .answered

/-- The last connect is the one that does something. -/
lemma move_concat (w : World) (as : List Attempt) (a : Attempt)
    (act : Attempt → World → Phase × World) :
    move ⟨w, as ++ [a]⟩ as.length act
      = ⟨(act a w).2, as ++ [{ a with phase := (act a w).1 }]⟩ := by
  simp [move]

/-- **A connect that is left alone** is the connect of the transport. -/
theorem connect_eq_run (p : Process) (c : ConnectionConfig) :
    p.run [.connect c, .advance p.attempts.length, .advance p.attempts.length,
        .advance p.attempts.length]
      = ⟨(p.world.connect c).2, p.attempts ++
          [⟨c, p.world.controlPath c.name p.world.connects.toNat,
            .ended (p.world.connect c).1⟩]⟩ := by
  have hrun : p.run [.connect c, .advance p.attempts.length, .advance p.attempts.length,
      .advance p.attempts.length]
    = (((p.number c).move p.attempts.length Attempt.advance).move p.attempts.length
      Attempt.advance).move p.attempts.length Attempt.advance := rfl
  rw [hrun, number, move_concat, move_concat, move_concat]
  simp only [World.connect, Attempt.advance, Attempt.equip]
  obtain ⟨proxy, hargs⟩ | ⟨args, hargs, -⟩ := sessionArguments?_cases c
    (p.world.controlPath c.name p.world.connects.toNat)
  · simp only [hargs]
  · simp only [hargs]
    cases hpassphrase : c.passphrase with
    | none => simp [World.release, Attempt.environment]
    | some passphrase =>
        obtain ⟨e, hinstall⟩ | hinstall := install?_cases p.world.places
          (p.world.controlPath c.name p.world.connects.toNat)
        · simp [hinstall]
        · simp [hinstall, World.release, Attempt.environment, hpassphrase]

end Process

end ReviewStream.Ssh
