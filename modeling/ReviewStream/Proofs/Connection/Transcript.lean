import Mathlib.Data.List.ModifyLast
import ReviewStream.Proofs.Connection.Steps
import ReviewStream.Proofs.LineBuffer.Delivery

/-!
# What the server sees of a connection

A run is retold from the other side: which sessions have been asked for what, which versions they
have reported, and what has been sent on each stream.  The transcript knows nothing of tasks and
buffers, so it can say what ought to be posted.

* `Transcript.ofHistory`: the transcript of a run.
* `Transcript.lines`: the lines of all streams, each with the server session that it comes from.
* `posted`: the lines that a connection hands on.
-/

namespace ReviewStream

open Connection (Entry Move)
open Text (Octet)

/-! ## Transcripts -/

/-- A stream, as the server sees it. -/
structure Feed where
  session : Nat
  /-- The version that was reported when the session was opened. -/
  version : String
  /-- The octets that have been read. -/
  octets : List Octet
deriving DecidableEq

/-- The server session that a stream belongs to. -/
def Feed.provider (config : ConnectionConfig) (f : Feed) : Provider :=
  .ofSession config.name config.host config.port config.frontendUrl f.version

/-- The lines of a stream, with the server session that they come from. -/
def Feed.lines (config : ConnectionConfig) (f : Feed) : List (String × Provider) :=
  (linesOf f.octets).map (·, f.provider config)

/-- A run, as the server sees it. -/
structure Transcript where
  /-- The session that was asked for its version last. -/
  asked : Option Nat
  /-- The versions that have been reported, with their sessions. -/
  reported : List (Nat × String)
  /-- The session on which a stream was asked for last. -/
  requested : Option Nat
  /-- The streams that have been opened, in this order. -/
  feeds : List Feed

namespace Transcript

/-- The version that was reported on the session on which a stream was asked for last. -/
def requestedVersion? (t : Transcript) : Option (Nat × String) :=
  t.requested.bind fun session => (t.reported.lookup session).map (session, ·)

/-- Something comes from the server. -/
def hear (t : Transcript) : Move → Transcript
  | .answered output =>
    match t.asked with
    | some session => { t with reported := (session, versionOf output) :: t.reported }
    | none => t
  | .opened =>
    match t.requestedVersion? with
    | some (session, version) => { t with feeds := t.feeds ++ [⟨session, version, []⟩] }
    | none => t
  | .received octets =>
    { t with feeds := t.feeds.modifyLast fun f => { f with octets := f.octets ++ octets } }
  | _ => t

/-- Something goes to the server. -/
def send (t : Transcript) : Deed → Transcript
  | .call (.execute session command) =>
    if command = versionCommand then { t with asked := some session } else t
  | .call (.openStream session _) => { t with requested := some session }
  | _ => t

/-- A move, and then what the connection does in it. -/
def note (t : Transcript) (e : Entry) : Transcript := e.deeds.foldl send (t.hear e.move)

/-- The transcript of a history. -/
def ofHistory (entries : List Entry) : Transcript := entries.foldl note ⟨none, [], none, []⟩

/-- The lines of all streams. -/
def lines (config : ConnectionConfig) (t : Transcript) : List (String × Provider) :=
  t.feeds.flatMap (·.lines config)

variable {t : Transcript} {deeds : List Deed}

/-- A history that goes on. -/
lemma ofHistory_append_singleton (entries : List Entry) (e : Entry) :
    ofHistory (entries ++ [e]) = (ofHistory entries).note e :=
  List.foldl_concat ..

/-- What goes to the server brings no octets. -/
@[simp] lemma feeds_foldl_send : (deeds.foldl send t).feeds = t.feeds := by
  induction deeds generalizing t with
  | nil => rfl
  | cons d deeds ih =>
      rw [List.foldl_cons, ih]
      rcases d with call | _ <;> try rfl
      rcases call with _ | ⟨session, command⟩ | _ <;> try rfl
      simp only [send]
      split_ifs <;> rfl

end Transcript

/-! ## Lines that are posted -/

/-- The lines that are posted, with the server session that they are said to come from. -/
def posted (deeds : List Deed) : List (String × Provider) :=
  deeds.filterMap fun
    | .post line provider => some (line, provider)
    | _ => none

@[simp] lemma posted_append (deeds later : List Deed) :
    posted (deeds ++ later) = posted deeds ++ posted later :=
  List.filterMap_append

/-- Posting lines posts these lines. -/
lemma posted_map_post (lines : List String) (provider : Provider) :
    posted (lines.map (Deed.post · provider)) = lines.map (·, provider) := by
  simp [posted, List.filterMap_map]

/-- Posting says nothing to the server. -/
lemma Transcript.foldl_send_map_post (t : Transcript) (provider : Provider) :
    ∀ lines : List String, (lines.map (Deed.post · provider)).foldl send t = t
  | [] => rfl
  | _ :: lines => foldl_send_map_post t provider lines

/-! ## Deeds of no account -/

/-- Whether a deed posts nothing and asks the server for nothing. -/
def Deed.isSilent : Deed → Bool
  | .post .. | .call (.execute ..) | .call (.openStream ..) => false
  | _ => true

/-- Silent deeds leave the transcript alone. -/
lemma Transcript.foldl_send_of_silent {deeds : List Deed} (t : Transcript)
    (h : ∀ d ∈ deeds, d.isSilent = true) : deeds.foldl send t = t := by
  induction deeds with
  | nil => rfl
  | cons d deeds ih =>
      rw [List.foldl_cons]
      have hsend : t.send d = t := by
        have hd := h d (List.mem_cons_self ..)
        rcases d with call | _ <;> try rfl
        rcases call with _ | _ | _ | _ <;> first | rfl | cases hd
      rw [hsend]
      exact ih fun x hx => h x (List.mem_cons_of_mem _ hx)

/-- Silent deeds post nothing. -/
lemma posted_of_silent {deeds : List Deed} (h : ∀ d ∈ deeds, d.isSilent = true) :
    posted deeds = [] := by
  refine List.filterMap_eq_nil_iff.mpr fun d hd => ?_
  have hsilent := h d hd
  cases d with
  | post line provider => cases hsilent
  | _ => rfl

/-! ## What has been read -/

/-- The octets that a move brings. -/
def Connection.Move.octets : Move → List Octet
  | .received octets => octets
  | _ => []

/-- Whether a move opens a stream. -/
def Connection.Move.opensStream : Move → Bool
  | .opened => true
  | _ => false

end ReviewStream
