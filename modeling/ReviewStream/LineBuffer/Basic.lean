import ReviewStream.Text.Pieces
import ReviewStream.Text.Utf8

/-!
# Lines out of chunks of octets

Octets arrive in chunks of any size and are cut into trimmed lines.  They pass through a buffer of
fixed capacity: complete lines are cut out of it, the unterminated tail stays at its front, and a
tail that fills the whole buffer is moved to a list of fragments, to be joined with the rest of its
line once the terminator has arrived.

* `LineBuffer`: the state; there is always room for one more octet.
* `LineBuffer.feed`: takes a chunk.
* `LineBuffer.receive`: takes as much of what a reader offers as fits.
* `LineBuffer.drain`: hands out the lines that are complete.
* `LineBuffer.hasPartial`: whether octets of an unterminated line are held.
-/

namespace ReviewStream

open Text (Octet)

/-- The octet that ends a line. -/
def lineFeed : Octet := 10

/-- The text of a line: its octets read as UTF-8, ill-formed parts replaced, without the blanks at
both ends. -/
def lineText (raw : List Octet) : String :=
  String.ofList (Text.trim (Text.decodeLossy raw))

/-- A buffer that cuts lines out of chunks. -/
structure LineBuffer where
  capacity : Nat
  /-- The octets in the buffer. -/
  filled : List Octet
  /-- How many octets of the buffer have been searched for a line feed. -/
  scanned : Nat
  /-- Whole buffers that the unterminated line has filled so far. -/
  fragments : List (List Octet)
  /-- The complete lines that have not been handed out. -/
  lines : List String
  room_pos : filled.length < capacity

namespace LineBuffer

/-- The capacity used unless another is asked for. -/
def defaultCapacity : Nat := 16384

/-- An empty buffer; a capacity of zero counts as one. -/
def ofCapacity (capacity : Nat) : LineBuffer where
  capacity := max capacity 1
  filled := []
  scanned := 0
  fragments := []
  lines := []
  room_pos := Nat.lt_of_lt_of_le Nat.zero_lt_one (Nat.le_max_right capacity 1)

/-- How many octets still fit. -/
def room (b : LineBuffer) : Nat :=
  b.capacity - b.filled.length

theorem room_ne_zero (b : LineBuffer) : b.room ≠ 0 := by
  have := b.room_pos
  unfold room
  omega

/-- Whether octets of an unterminated line are held. -/
def hasPartial (b : LineBuffer) : Bool :=
  !b.filled.isEmpty || !b.fragments.isEmpty

/-- Keeps an unterminated tail in the buffer, or as a fragment if it fills the buffer. -/
def keep (b : LineBuffer) (fragments : List (List Octet)) (tail : List Octet)
    (lines : List String) : LineBuffer :=
  if h : tail.length < b.capacity then
    { capacity := b.capacity, filled := tail, scanned := tail.length, fragments, lines,
      room_pos := h }
  else
    { capacity := b.capacity, filled := [], scanned := 0, fragments := fragments ++ [tail], lines,
      room_pos := Nat.lt_of_le_of_lt (Nat.zero_le _) b.room_pos }

/-- Cuts the lines out of the buffer's new content: what has been searched before stands in front of
the first of them, and the fragments in front of that. -/
def commit (b : LineBuffer) (content : List Octet) : LineBuffer :=
  match Text.splitAll lineFeed (content.drop b.scanned) with
  | first :: second :: rest =>
    let raw := b.fragments.flatten ++ content.take b.scanned ++ first
    let whole := raw :: (second :: rest).dropLast
    b.keep [] ((second :: rest).getLastD []) (b.lines ++ whole.map lineText)
  | _ => b.keep b.fragments content b.lines

/-- Takes the part of an offer that fits; what is left of the offer is for the next time. -/
def receive (b : LineBuffer) (offer : List Octet) : LineBuffer :=
  b.commit (b.filled ++ offer.take b.room)

/-- Takes a chunk, as many times as its octets need to pass through the buffer. -/
def feed (b : LineBuffer) (chunk : List Octet) : LineBuffer :=
  if chunk = [] then b else (b.receive chunk).feed (chunk.drop b.room)
termination_by chunk.length
decreasing_by
  have := b.room_ne_zero
  have : chunk.length ≠ 0 := by simpa using ‹¬chunk = []›
  simp only [List.length_drop]
  omega

/-- Hands out the complete lines, each of them once. -/
def drain (b : LineBuffer) : List String × LineBuffer :=
  (b.lines, { b with lines := [] })

end LineBuffer

end ReviewStream
