import ReviewStream.Command.Runner
import ReviewStream.Transport.Logbook

/-!
# Calls of a runner by several tasks

Tasks that share a runner of queries wait for each other: a call begins when the one before has come
to its end.  Between two calls, and while a call waits for the transport, the world goes on, and the
server may drop a session.

* `QueryRunner.Move`: a call, or what happens between two calls.
* `QueryRunner.after`: the runner and the logbook of its transport after some moves.
-/

namespace ReviewStream.QueryRunner

variable {σ : Type}

/-- What can happen to a runner, one after the other. -/
inductive Move (σ : Type) where
  | execute (command : String)
  | query (options : QueryOptions) (query : String)
  | disconnect
  /-- Nobody calls, and the world comes into any other state. -/
  | pass (world : σ)

/-- Makes a move. -/
def move (t : Transport σ) (state : QueryRunner × Logbook σ) : Move σ → QueryRunner × Logbook σ
  | .execute command => (state.1.execute t.recorded command state.2).2
  | .query options query => (state.1.query t.recorded options query state.2).2
  | .disconnect => state.1.disconnect t.recorded state.2
  | .pass world => (state.1, { state.2 with world })

/-- A new runner after some moves, the earliest first. -/
def after (t : Transport σ) (config : ConnectionConfig) (world : σ) (moves : List (Move σ)) :
    QueryRunner × Logbook σ :=
  moves.foldl (move t) (ofConfig config, Logbook.ofWorld world)

/-- The runner with its session under the transport's own number. -/
def bare (r : QueryRunner) (s : Logbook σ) : QueryRunner :=
  { r with session := r.session.map s.handle }

end ReviewStream.QueryRunner
