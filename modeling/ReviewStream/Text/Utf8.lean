/-!
# Octets as text

UTF-8 read by a machine that looks at one octet at a time.  A piece that cannot be continued to a
character is one *ill-formed subpart*: the longest prefix that some character's encoding starts
with, or else a single octet.

* `units`: the characters of a sequence of octets, with `none` for each ill-formed subpart.
* `decodeLossy`: the reading that puts U+FFFD in the place of each ill-formed subpart.
* `decode?`: the reading that accepts well-formed sequences only.
* `encode`: the octets of a text.
-/

namespace ReviewStream.Text

/-- An octet. -/
abbrev Octet := UInt8

namespace Utf8

/-- What has been read of the current character: nothing, or a lead octet and perhaps more. -/
inductive Pending where
  /-- Between two characters. -/
  | idle
  /-- Inside a character: `need` further octets, the bits so far, and the range that the next
  octet has to lie in. -/
  | inside (need : Nat) (bits : Nat) (low high : Octet)
deriving DecidableEq

/-- Reads an octet between two characters. -/
def start (b : Octet) : List (Option Char) × Pending :=
  if b < 0x80 then ([some (Char.ofNat b.toNat)], .idle)
  else if b < 0xC2 then ([none], .idle)
  else if b < 0xE0 then ([], .inside 1 (b.toNat - 0xC0) 0x80 0xBF)
  else if b == 0xE0 then ([], .inside 2 0 0xA0 0xBF)
  else if b == 0xED then ([], .inside 2 0xD 0x80 0x9F)
  else if b < 0xF0 then ([], .inside 2 (b.toNat - 0xE0) 0x80 0xBF)
  else if b == 0xF0 then ([], .inside 3 0 0x90 0xBF)
  else if b < 0xF4 then ([], .inside 3 (b.toNat - 0xF0) 0x80 0xBF)
  else if b == 0xF4 then ([], .inside 3 4 0x80 0x8F)
  else ([none], .idle)

/-- Reads an octet in any state.  An octet outside the expected range ends the ill-formed subpart
before it and is then read afresh. -/
def step : Pending → Octet → List (Option Char) × Pending
  | .idle, b => start b
  | .inside need bits low high, b =>
    if low ≤ b && b ≤ high then
      let bits := bits * 64 + (b.toNat - 0x80)
      if need ≤ 1 then ([some (Char.ofNat bits)], .idle)
      else ([], .inside (need - 1) bits 0x80 0xBF)
    else
      let (out, next) := start b
      (none :: out, next)

/-- The characters and ill-formed subparts from a given state on. -/
def unitsFrom : Pending → List Octet → List (Option Char)
  | .idle, [] => []
  | .inside .., [] => [none]
  | p, b :: bs =>
    let (out, next) := step p b
    out ++ unitsFrom next bs

/-- The characters of a sequence of octets, `none` standing for an ill-formed subpart. -/
def units (bs : List Octet) : List (Option Char) :=
  unitsFrom .idle bs

end Utf8

/-- Reads octets as text, with U+FFFD in the place of each ill-formed subpart. -/
def decodeLossy (bs : List Octet) : List Char :=
  (Utf8.units bs).map (·.getD '\uFFFD')

/-- Reads octets as text, if they are well-formed throughout. -/
def decode? (bs : List Octet) : Option (List Char) :=
  (Utf8.units bs).mapM id

/-- The octets of a text. -/
def encode (cs : List Char) : List Octet :=
  cs.flatMap String.utf8EncodeChar

end ReviewStream.Text
