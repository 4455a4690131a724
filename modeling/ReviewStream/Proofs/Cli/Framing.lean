import ReviewStream.Cli.Stream
import ReviewStream.Proofs.Json.Written
import ReviewStream.Proofs.LineBuffer.Delivery
import ReviewStream.Proofs.Text.Utf8

/-!
# Printed events stand on lines of their own

The stream command prints the record of every event on a line.  Whatever strings and payloads there
are in an event, its record has no line feed and no blank at its ends, so whoever cuts the output
into trimmed lines gets the records back.

* `Cli.printed`: the octets that are printed for some events.
* `Cli.endedPieces_printed`, `Cli.openPiece_printed`: the pieces between their line feeds.
* `Cli.Streaming.Prints`: a stream command has printed the records of the events that its printer
  was called with, and nothing else.
* **`Cli.framed`**: the output of the stream command, cut by a line buffer.
-/

namespace ReviewStream

open Text (Octet endedPieces openPiece)

/-! ## Records of events -/

/-- The record of an event is a row of itself. -/
lemma Event.isRow_toText (e : Event) : Text.IsRow e.toText.toList e.toText.toList := by
  have hrow := Json.isRow_write (rfl : e.toRecord.isObject = true)
  rwa [toText, Json.toText, String.toList_ofList]

lemma lineFeed_notMem_encode {cs : List Char} (h : '\n' ∉ cs) : lineFeed ∉ Text.encode cs := by
  intro hmem
  obtain ⟨c, hc, hcode⟩ := Text.mem_of_mem_encode hmem (by decide)
  obtain rfl : c = '\n' := Char.toNat_inj.mp hcode
  exact h hc

/-- A text that is trimmed is the text of its line. -/
lemma lineText_encode {s : String} (h : Text.IsTrimmed s.toList) :
    lineText (Text.encode s.toList) = s := by
  rw [lineText, Text.decodeLossy_encode, Text.trim_eq_iff.mpr ⟨h, [], [], by simp⟩,
    String.ofList_toList]

namespace Cli

variable {events : List Event}

/-! ## Lines of octets -/

/-- The octets that are printed for some events. -/
def printed (events : List Event) : List Octet :=
  Text.encode (unlines (events.map Event.toText)).toList

/-- The octets of the record of an event. -/
def record (e : Event) : List Octet := Text.encode e.toText.toList

lemma printed_cons (e : Event) (events : List Event) :
    printed (e :: events) = record e ++ lineFeed :: printed events := by
  have htext : (unlines ((e :: events).map Event.toText)).toList
      = e.toText.toList ++ '\n' :: (unlines (events.map Event.toText)).toList := by
    simp [unlines]
  rw [printed, htext, Text.encode_append]
  rfl

lemma lineFeed_notMem_record (e : Event) : lineFeed ∉ record e :=
  lineFeed_notMem_encode e.isRow_toText.feed_notMem

lemma lineText_record (e : Event) : lineText (record e) = e.toText :=
  lineText_encode e.isRow_toText.isTrimmed

/-- Between the line feeds there are the records of the events. -/
lemma endedPieces_printed (events : List Event) :
    endedPieces lineFeed (printed events) = events.map record := by
  induction events with
  | nil => rfl
  | cons e events ih =>
      rw [printed_cons, Text.endedPieces_append_cons (lineFeed_notMem_record e), ih, List.map_cons]

/-- After the last line feed there is nothing. -/
lemma openPiece_printed (events : List Event) : openPiece lineFeed (printed events) = [] := by
  induction events with
  | nil => rfl
  | cons e events ih => rw [printed_cons, Text.openPiece_append_cons, ih]

/-! ## The command -/

namespace Streaming

/-- A stream command has printed the records of the events that its printer was called with, in the
order of the calls, and nothing else. -/
def Prints (s : Streaming) : Prop := s.stdout = s.calls.map (·.event.toText)

variable {s : Streaming}

lemma Prints.follow (h : s.Prints) (d : Deed) : (s.follow d).Prints := by
  cases d with
  | post line provider =>
      simp only [Prints, Streaming.follow, List.map_append]
      exact congrArg (· ++ _) h
  | _ => exact h

lemma Prints.foldl_follow (h : s.Prints) (deeds : List Deed) :
    (deeds.foldl Streaming.follow s).Prints := by
  induction deeds generalizing s with
  | nil => exact h
  | cons d deeds ih => exact ih (h.follow d)

lemma Prints.catchUp (h : s.Prints) : s.catchUp.Prints :=
  Prints.foldl_follow (s := { s with rehearsal := s.rehearsal.takeDeeds.2 }) h _

lemma prints_begin (surroundings : Surroundings) (c : Config) (client : Ssh.Client)
    (files : Files) : (begin surroundings c client files).Prints := rfl

lemma Prints.runWithin (h : s.Prints) (localTime : Nat → LocalTime) (lines fuel : Nat) :
    (s.runWithin localTime lines fuel).Prints := by
  induction fuel generalizing s with
  | zero => exact h
  | succ fuel ih =>
      rw [Streaming.runWithin]
      split_ifs
      · exact h
      · split
        · next rehearsal _ => exact ih (Prints.catchUp (s := { s with rehearsal }) h)
        · exact h

lemma Prints.interrupt (h : s.Prints) (localTime : Nat → LocalTime) :
    (s.interrupt localTime).Prints :=
  Prints.catchUp (s := { s with
    stderr := s.stderr ++ ["● Shutting down"]
    rehearsal := s.rehearsal.shutdown localTime true }) h

lemma prints_ended (localTime : Nat → LocalTime) (lines : Nat) (surroundings : Surroundings)
    (c : Config) (client : Ssh.Client) :
    (ended localTime lines surroundings c client).Prints :=
  ((prints_begin surroundings c client _).runWithin localTime lines _).interrupt localTime

end Streaming

/-- The calls of the printer in a stream command, none if it does not come to stream. -/
def printerCalls (localTime : Nat → LocalTime) (lines : Nat) (s : Surroundings)
    (path : Option String) : List Call :=
  match load s path, s.client with
  | .ok c, some client => (Streaming.ended localTime lines s c client).calls
  | _, _ => []

/-- Whatever the stream command meets, it prints the records of the events that its printer is
called with, and nothing else. -/
lemma stdout_stream (localTime : Nat → LocalTime) (lines : Nat) (s : Surroundings)
    (path : Option String) : (stream localTime lines s path).stdout =
      unlines ((printerCalls localTime lines s path).map (·.event.toText)) := by
  rw [stream, printerCalls]
  cases load s path with
  | error e => rfl
  | ok c =>
      cases s.client with
      | none => rfl
      | some client =>
          have hprints := Streaming.prints_ended localTime lines s c client
          rw [Streaming.Prints] at hprints
          dsimp only
          rw [hprints]

/-! ## Framing -/

variable {capacity : Nat} {uses : List Intake.Use}

/-- Printed octets that have come in are cut into the records of their events. -/
lemma drained_of_printed (h : (Intake.ofUses capacity uses).delivered = printed events) :
    let i := Intake.ofUses capacity uses
    i.drained ++ i.buffer.drain.1 = events.map Event.toText ∧ i.buffer.hasPartial = false := by
  intro i
  have hi : i.Faithful := Intake.faithful_ofUses capacity uses
  have hlines : i.drained ++ i.buffer.lines = events.map Event.toText := by
    rw [hi.lines_eq, h, endedPieces_printed, List.map_map]
    exact List.map_congr_left fun e _ => lineText_record e
  have hheld : i.buffer.held = [] := by rw [hi.held_eq, h, openPiece_printed]
  refine ⟨hlines, ?_⟩
  rw [Bool.eq_false_iff, ne_eq, hi.sound.hasPartial_iff, not_not]
  exact hheld

/-- Chunks that are fed one after the other. -/
lemma ofUses_feeds (capacity : Nat) (chunks : List (List Octet)) :
    Intake.ofUses capacity (chunks.map .feed)
      = ⟨chunks.flatten, [], chunks.foldl LineBuffer.feed (.ofCapacity capacity)⟩ := by
  induction chunks using List.reverseRecOn with
  | nil => rfl
  | append_singleton chunks chunk ih =>
      rw [List.map_append, Intake.ofUses, List.foldl_append, ← Intake.ofUses, ih, List.foldl_append,
        List.flatten_append]
      simp [Intake.use]

/-- **The output of the stream command is framed by lines.**  Whatever events are printed, however
their octets are cut into chunks, and whatever the capacity of the buffer that is fed with them, it
drains as the records of the events, in order, and no open line is left.  The same holds if some of
the octets are brought by reads, or if there are drains in between.  A stream command prints just
such octets, for the events that its printer is called with. -/
theorem framed (capacity : Nat) (events : List Event) :
    (∀ chunks : List (List Octet), chunks.flatten = printed events →
      let b := chunks.foldl LineBuffer.feed (.ofCapacity capacity)
      b.drain.1 = events.map Event.toText ∧ b.hasPartial = false)
      ∧ (∀ uses : List Intake.Use,
        let i := Intake.ofUses capacity uses
        i.delivered = printed events →
          i.drained ++ i.buffer.drain.1 = events.map Event.toText ∧ i.buffer.hasPartial = false)
      ∧ ∀ localTime lines s path, Text.encode (stream localTime lines s path).stdout.toList
        = printed ((printerCalls localTime lines s path).map (·.event)) := by
  refine ⟨fun chunks hchunks => ?_, fun uses h => drained_of_printed h,
    fun localTime lines s path => ?_⟩
  · have hfeeds := ofUses_feeds capacity chunks
    have hdelivered : (Intake.ofUses capacity (chunks.map .feed)).delivered = printed events := by
      rw [hfeeds, hchunks]
    have hdrained := drained_of_printed hdelivered
    rw [hfeeds] at hdrained
    exact hdrained
  · rw [stdout_stream, printed, List.map_map]
    rfl

/-- Events with line feeds, returns and blanks in their strings, one octet after the other, through
the smallest buffer. -/
theorem framed_of_single_octets :
    let events : List Event :=
      [⟨none, some 7, .other "a\nb" (.object [("\n", .text "\r\n \u2028"), ("", .list [])])⟩,
        ⟨none, none, .projectCreated ⟨" tools\n", none⟩⟩]
    let b := ((printed events).map ([·])).foldl LineBuffer.feed (.ofCapacity 0)
    ((printed events).map ([·])).flatten = printed events
      ∧ b.drain.1 = ["\x7b\"provider\":null,\"event_created_on\":7,\"kind\":\x7b\"type\":\"other\","
          ++ "\"event_type\":\"a\\nb\",\"payload\":\x7b"
          ++ "\"\\n\":\"\\r\\n \u2028\",\"\":[]\x7d\x7d\x7d",
        "\x7b\"provider\":null,\"event_created_on\":null,\"kind\":\x7b\"type\":\"project-created\","
          ++ "\"project_name\":\" tools\\n\",\"head_name\":null\x7d\x7d"]
      ∧ b.hasPartial = false := by
  intro events b
  have hsingle : ((printed events).map ([·])).flatten = printed events := by
    rw [← List.flatMap_def, List.flatMap_singleton']
  obtain ⟨hdrained, hopen⟩ := (framed 0 events).1 _ hsingle
  exact ⟨hsingle, hdrained.trans (by decide +kernel), hopen⟩

end Cli

end ReviewStream
