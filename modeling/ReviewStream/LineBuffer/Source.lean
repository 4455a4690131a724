import ReviewStream.LineBuffer.Basic

/-!
# Reading from a source of octets

A source hands out its chunks one after the other, each read getting at most the next chunk and no
more of it than there is room for.  After the last chunk a read reports the end or a failure.

* `Source.read`: one read.
* `LineBuffer.readFrom`: one read into a buffer; a read that fails leaves the buffer as it is.
* `LineBuffer.readAll`: reads until the end.
-/

namespace ReviewStream

open Text (Octet)

/-- Chunks to come and what follows them. -/
structure Source where
  chunks : List (List Octet)
  /-- Whether the read after the last chunk fails. -/
  failing : Bool

/-- What a read brings. -/
inductive ReadResult where
  | octets (bs : List Octet)
  | finished
  | failed
deriving DecidableEq

namespace Source

/-- How many octets are still to come. -/
def size (s : Source) : Nat := s.chunks.flatten.length

/-- One read into the given room; empty chunks are passed over. -/
def read (room : Nat) (s : Source) : ReadResult × Source :=
  match s.chunks.dropWhile List.isEmpty with
  | [] => (if s.failing then .failed else .finished, { s with chunks := [] })
  | chunk :: rest =>
    let left := chunk.drop room
    (.octets (chunk.take room),
      { s with chunks := if left.isEmpty then rest else left :: rest })

end Source

namespace LineBuffer

/-- One read into the buffer. -/
def readFrom (b : LineBuffer) (s : Source) : ReadResult × LineBuffer × Source :=
  match s.read b.room with
  | (.octets bs, s) => (.octets bs, b.receive bs, s)
  | (result, s) => (result, b, s)

/-- Reads until the end or a failure, at most `fuel` times; gives the results of the reads. -/
def readUpTo : (fuel : Nat) → LineBuffer → Source → List ReadResult × LineBuffer
  | 0, b, _ => ([], b)
  | fuel + 1, b, s =>
    match b.readFrom s with
    | (.octets bs, b, s) =>
      let (results, b) := readUpTo fuel b s
      (.octets bs :: results, b)
    | (result, b, _) => ([result], b)

/-- Reads until the end or a failure.  Every read before that takes an octet at least. -/
def readAll (b : LineBuffer) (s : Source) : List ReadResult × LineBuffer :=
  readUpTo (s.size + 1) b s

end LineBuffer

end ReviewStream
