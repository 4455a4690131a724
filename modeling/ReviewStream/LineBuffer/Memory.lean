import ReviewStream.LineBuffer.Basic

/-!
# A line buffer in memory

The octets of a line buffer lie in the front of a box of fixed size, and everything is done by
positions in it.  A position out of range is a crash, and so is a loop that does not come to its end
in the turns that it is given; nothing here rules out either.

* `LineMemory`: the box, the positions and what has been cut out of it.
* `LineMemory.commit?`: the search for line feeds in what has come in.
* `LineMemory.feedTurn?`, `LineMemory.feed?`: one turn of the loop that takes a chunk, and the loop.
* `Reader`, `LineMemory.readFrom?`: a read straight into the free part of the box.
-/

namespace ReviewStream

open Text (Octet)

/-! ## Positions -/

namespace Cells

/-- The octets from one position up to another one. -/
def slice? (cells : List Octet) (start stop : Nat) : Option (List Octet) :=
  if start ≤ stop ∧ stop ≤ cells.length then some ((cells.take stop).drop start) else none

/-- Puts octets into the place of those that are at a position and behind it. -/
def write? (cells : List Octet) (start : Nat) (octets : List Octet) : Option (List Octet) :=
  if start + octets.length ≤ cells.length then
    some (cells.take start ++ octets ++ cells.drop (start + octets.length))
  else none

/-- A difference of positions, which has no sign. -/
def sub? (stop start : Nat) : Option Nat := if start ≤ stop then some (stop - start) else none

end Cells

/-! ## The box -/

/-- A line buffer in memory. -/
structure LineMemory where
  cells : List Octet
  /-- How many cells hold octets that have come in. -/
  filled : Nat
  /-- How many of them have been searched for a line feed. -/
  scanned : Nat
  /-- Whole boxes that the unterminated line has filled so far. -/
  fragments : List (List Octet)
  /-- The complete lines that have not been handed out. -/
  lines : List String

namespace LineMemory

/-- An empty box; a capacity of zero counts as one. -/
def ofCapacity (capacity : Nat) : LineMemory where
  cells := List.replicate (max capacity 1) 0
  filled := 0
  scanned := 0
  fragments := []
  lines := []

/-- Makes a line of the fragments and of the octets between two positions. -/
def assemble? (m : LineMemory) (start stop : Nat) : Option LineMemory := do
  let tail ← Cells.slice? m.cells start stop
  if m.fragments.isEmpty then return { m with lines := m.lines ++ [lineText tail] }
  else
    let line := m.fragments.flatten ++ tail
    return { m with fragments := [], lines := m.lines ++ [lineText line] }

/-- Cuts lines out of the box in at most so many turns.  The next line begins at `start`, and is
searched from `pos` on.  Gives where the line begins that has no end. -/
def cut? : (turns : Nat) → (start pos : Nat) → LineMemory → Option (LineMemory × Nat)
  | 0, _, _, _ => none
  | turns + 1, start, pos, m => do
    let octets ← Cells.slice? m.cells pos m.filled
    match octets.idxOf? lineFeed with
    | none => return (m, start)
    | some offset =>
      let m ← m.assemble? start (pos + offset)
      m.cut? turns (pos + offset + 1) (pos + offset + 1)

/-- Moves what is behind a position to the front of the box. -/
def compact? (m : LineMemory) (start : Nat) : Option LineMemory :=
  if 0 < start then do
    let octets ← Cells.slice? m.cells start m.filled
    let cells ← Cells.write? m.cells 0 octets
    let filled ← Cells.sub? m.filled start
    return { m with cells, filled }
  else some m

/-- Notes that everything has been searched; a full box becomes a fragment. -/
def settle (m : LineMemory) : LineMemory :=
  if m.filled = m.cells.length then
    { m with filled := 0, scanned := 0, fragments := m.fragments ++ [m.cells] }
  else { m with scanned := m.filled }

/-- Cuts the lines out of what has come in. -/
def commit? (m : LineMemory) : Option LineMemory := do
  let (m, start) ← m.cut? (m.filled + 1) 0 m.scanned
  let m ← m.compact? start
  return m.settle

/-! ## Chunks -/

/-- One turn of the loop that takes a chunk, with what is left of the chunk. -/
def feedTurn? (m : LineMemory) (chunk : List Octet) : Option (LineMemory × List Octet) := do
  let room ← Cells.sub? m.cells.length m.filled
  let taken := min room chunk.length
  let cells ← Cells.write? m.cells m.filled (chunk.take taken)
  let m ← { m with cells, filled := m.filled + taken }.commit?
  return (m, chunk.drop taken)

/-- Takes a chunk in at most so many turns. -/
def feedWithin? : (turns : Nat) → LineMemory → List Octet → Option LineMemory
  | _, m, [] => some m
  | 0, _, _ :: _ => none
  | turns + 1, m, b :: bs => do
    let (m, chunk) ← m.feedTurn? (b :: bs)
    m.feedWithin? turns chunk

/-- Takes a chunk, in no more turns than it has octets. -/
def feed? (m : LineMemory) (chunk : List Octet) : Option LineMemory :=
  m.feedWithin? chunk.length chunk

/-! ## Reads -/

/-- One read into a part of memory, which may bring octets, come to the end or fail. -/
structure Reader where
  /-- What the part of memory holds after the read. -/
  left : List Octet → List Octet
  /-- How many octets in front of it have been read; none if the read fails. -/
  count? : List Octet → Option Nat
  /-- Whether there is nothing more to read. -/
  atEnd : Bool
  length_left : ∀ part, (left part).length = part.length
  count_le : ∀ part n, count? part = some n → n ≤ part.length
  atEnd_of_zero : ∀ part, part ≠ [] → count? part = some 0 → atEnd = true

/-- One read straight into the free part of the box, with how many octets have been read; none if
the read fails. -/
def readFrom? (m : LineMemory) (r : Reader) : Option (Option Nat × LineMemory) := do
  let free ← Cells.slice? m.cells m.filled m.cells.length
  let cells ← Cells.write? m.cells m.filled (r.left free)
  match r.count? free with
  | none => some (none, { m with cells })
  | some n => ({ m with cells, filled := m.filled + n }.commit?).map fun m => (some n, m)

/-- Hands out the complete lines, each of them once. -/
def drain (m : LineMemory) : List String × LineMemory := (m.lines, { m with lines := [] })

/-! ## Runs -/

/-- What may be done with a box, at any time and in any order. -/
inductive Use where
  | feed (chunk : List Octet)
  | read (r : Reader)
  | drain

/-- One use, with the lines that are handed out. -/
def use? (m : LineMemory) : Use → Option (LineMemory × List String)
  | .feed chunk => (m.feed? chunk).map fun m => (m, [])
  | .read r => (m.readFrom? r).map fun (_, m) => (m, [])
  | .drain => some (m.drain.2, m.drain.1)

/-- Some uses, one after the other, with the lines that are handed out in them. -/
def run? (m : LineMemory) : List Use → Option (LineMemory × List String)
  | [] => some (m, [])
  | u :: uses => do
    let (m, lines) ← m.use? u
    let (m, later) ← m.run? uses
    return (m, lines ++ later)

end LineMemory

end ReviewStream
