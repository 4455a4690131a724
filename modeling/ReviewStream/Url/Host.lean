import ReviewStream.Json.Reader
import ReviewStream.Text.Integer
import ReviewStream.Text.Pieces
import ReviewStream.Text.Utf8
import ReviewStream.Url.Punycode

/-!
# Hosts of URLs

The host of a URL in its canonical spelling.  In a URL of a well-known scheme it is a domain name in
ASCII, an IPv4 address in one of many spellings, or an IPv6 address in brackets; in any other URL
all but addresses in brackets are kept as they are.

* `Host.domain?`: the canonical spelling of a domain name or an IPv4 address.
* `Host.address6?`: the canonical spelling of an IPv6 address.
* `Host.opaque?`: the spelling of a host that is not interpreted.
-/

namespace ReviewStream.Host

open Text (Octet)

/-! ## IPv4 -/

/-- A number as URLs spell it: decimal, octal after a zero, hexadecimal after `0x`. -/
def number? (cs : List Char) : Option Nat :=
  let (base, digits) : Nat × List Char := match cs with
    | '0' :: 'x' :: r | '0' :: 'X' :: r => (16, r)
    | '0' :: c :: r => (8, c :: r)
    | r => (10, r)
  if cs.isEmpty then none
  else digits.foldlM (fun n c =>
    match Json.hexValue? c with
    | some d => if d < base then some (n * base + d) else none
    | none => none) 0

/-- The parts of a name between dots, without an empty last one. -/
def dottedParts (cs : List Char) : List (List Char) :=
  let parts := Text.splitAll '.' cs
  if 1 < parts.length ∧ parts.getLast? = some [] then parts.dropLast else parts

/-- Whether the last part of a name is a number, so that the name has to be an address. -/
def endsInNumber (cs : List Char) : Bool :=
  match (dottedParts cs).getLast? with
  | none => false
  | some last => (!last.isEmpty && last.all Char.isDigit) || (number? last).isSome

/-- The text of an IPv4 address. -/
def address4Text (n : Nat) : List Char :=
  ['.'].intercalate
    ([n >>> 24 % 256, n >>> 16 % 256, n >>> 8 % 256, n % 256].map Text.natDigits)

/-- An IPv4 address of up to four numbers, the last of which fills the octets that remain. -/
def address4? (cs : List Char) : Option (List Char) := do
  let numbers ← (dottedParts cs).mapM number?
  let last ← numbers.getLast?
  let front := numbers.dropLast
  if 3 < front.length ∨ front.any (255 < ·) ∨ 1 <<< (8 * (4 - front.length)) ≤ last then none
  else
    let high := front.foldl (fun n d => n * 256 + d) 0
    some (address4Text (high <<< (8 * (4 - front.length)) + last))

/-! ## IPv6 -/

/-- One piece of an IPv6 address: up to four hexadecimal digits. -/
def piece? (cs : List Char) : Option Nat :=
  if cs.isEmpty ∨ 4 < cs.length then none
  else cs.foldlM (fun n c => (Json.hexValue? c).map (n * 16 + ·)) 0

/-- An octet in decimal, without a superfluous zero in front. -/
def octet? (cs : List Char) : Option Nat :=
  if cs.isEmpty ∨ 3 < cs.length ∨ !cs.all Char.isDigit ∨ (1 < cs.length ∧ cs.head? = some '0') then
    none
  else
    let n := cs.foldl (fun n c => n * 10 + (c.toNat - 48)) 0
    if n < 256 then some n else none

/-- The pieces of one side of an IPv6 address; the last may be an IPv4 address, which makes two. -/
def pieces? (last : Bool) (cs : List Char) : Option (List Nat) :=
  if cs.isEmpty then some []
  else
    let parts := Text.splitAll ':' cs
    let final := parts.getLastD []
    if last ∧ final.contains '.' then do
      let front ← parts.dropLast.mapM piece?
      match ← (Text.splitAll '.' final).mapM octet? with
      | [a, b, c, d] => some (front ++ [a * 256 + b, c * 256 + d])
      | _ => none
    else parts.mapM piece?

/-- The two sides of the first double colon. -/
def cutDouble : List Char → Option (List Char × List Char)
  | ':' :: ':' :: r => some ([], r)
  | c :: r => (cutDouble r).map fun (a, b) => (c :: a, b)
  | [] => none

/-- The eight pieces of an IPv6 address; a double colon stands for zeros. -/
def eightPieces? (cs : List Char) : Option (List Nat) :=
  match cutDouble cs with
  | none => (pieces? true cs).filter (·.length = 8)
  | some (left, right) => do
    let l ← pieces? false left
    let r ← pieces? true right
    if 7 < l.length + r.length then none
    else some (l ++ List.replicate (8 - l.length - r.length) 0 ++ r)

/-- How many zeros a list begins with. -/
def zerosAt (ps : List Nat) : Nat := (ps.takeWhile (· = 0)).length

/-- The first of the longest runs of zeros: position and length. -/
def longestZeros (ps : List Nat) : Nat × Nat :=
  (List.range ps.length).foldl (fun best i =>
    let n := zerosAt (ps.drop i)
    if best.2 < n then (i, n) else best) (0, 0)

/-- Pieces with colons between them. -/
def piecesText (ps : List Nat) : List Char :=
  [':'].intercalate (ps.map (Nat.toDigits 16))

/-- The canonical spelling of an IPv6 address, without the brackets. -/
def address6? (cs : List Char) : Option (List Char) :=
  (eightPieces? cs).map fun ps =>
    let (start, length) := longestZeros ps
    if length < 2 then piecesText ps
    else piecesText (ps.take start) ++ [':', ':'] ++ piecesText (ps.drop (start + length))

/-! ## Names -/

/-- Decodes percent signs followed by two hexadecimal digits. -/
def percentDecode : List Octet → List Octet
  | 0x25 :: a :: b :: r =>
    match Json.hexValue? (Char.ofNat a.toNat), Json.hexValue? (Char.ofNat b.toNat) with
    | some x, some y => UInt8.ofNat (x * 16 + y) :: percentDecode r
    | _, _ => 0x25 :: percentDecode (a :: b :: r)
  | b :: r => b :: percentDecode r
  | [] => []

/-- The lower case of a letter of the Latin, Greek and Cyrillic alphabets, and the plain form of a
full-width character. -/
def foldCase (c : Char) : Char :=
  let n := c.toNat
  if n < 0x80 then c.toLower
  else if (0xC0 ≤ n ∧ n ≤ 0xDE ∧ n ≠ 0xD7) ∨ (0x391 ≤ n ∧ n ≤ 0x3A9) ∨ (0x410 ≤ n ∧ n ≤ 0x42F) then
    Char.ofNat (n + 0x20)
  else if 0x400 ≤ n ∧ n ≤ 0x40F then Char.ofNat (n + 0x50)
  else if 0x100 ≤ n ∧ n ≤ 0x137 ∧ n % 2 = 0 then Char.ofNat (n + 1)
  else if 0x14A ≤ n ∧ n ≤ 0x177 ∧ n % 2 = 0 then Char.ofNat (n + 1)
  else if 0xFF01 ≤ n ∧ n ≤ 0xFF5E then (Char.ofNat (n - 0xFEE0)).toLower
  else if n = 0x3002 ∨ n = 0xFF0E ∨ n = 0xFF61 then '.'
  else c

/-- Whether a character has no influence on a name. -/
def isIgnored (c : Char) : Bool :=
  c == '\u00AD' || c == '\u200B' || c == '\u2060' || c == '\uFEFF'

/-- Whether a character may not stand in a domain name: controls, blanks, the replacement character
and marks with a meaning in URLs. -/
def isForbiddenInDomain (c : Char) : Bool :=
  c.toNat ≤ 0x20 || (0x7F ≤ c.toNat && c.toNat ≤ 0x9F) || Text.isBlank c || c == '\uFFFD'
    || "%#/:<>?@[\\]^|".toList.contains c

/-- The mark of an encoded label. -/
def encodedMark : List Char := "xn--".toList

/-- A label in ASCII; a label that already bears the mark has to be a proper encoding. -/
def label? (cs : List Char) : Option (List Char) :=
  if encodedMark.isPrefixOf cs then
    match Punycode.decode? (cs.drop 4) with
    | none => none
    | some label =>
      if label.any (0x80 ≤ ·.toNat) && encodedMark ++ Punycode.encode label == cs then some cs
      else none
  else if cs.all (·.toNat < 0x80) then some cs
  else some (encodedMark ++ Punycode.encode cs)

/-- The canonical spelling of a domain name or an IPv4 address. -/
def domain? (cs : List Char) : Option (List Char) := do
  let decoded ← Text.decode? (percentDecode (Text.encode cs))
  let folded := (decoded.filter (!isIgnored ·)).map foldCase
  if folded.any isForbiddenInDomain then none
  else
    let labels ← (Text.splitAll '.' folded).mapM label?
    let name := ['.'].intercalate labels
    if name.isEmpty then none
    else if endsInNumber name then address4? name
    else some name

/-! ## Uninterpreted hosts -/

/-- Whether a character may not stand in any host. -/
def isForbidden (c : Char) : Bool :=
  "\x00\t\n\r #/:<>?@[\\]^|".toList.contains c

/-- An octet of a character that is written as it is, or by its number. -/
def opaqueOctet (b : Octet) : List Char :=
  if 0x20 ≤ b ∧ b ≤ 0x7E then [Char.ofNat b.toNat]
  else
    let digits := (Nat.toDigits 16 b.toNat).map Char.toUpper
    '%' :: (List.replicate (2 - digits.length) '0' ++ digits)

/-- A host that is not interpreted. -/
def opaque? (cs : List Char) : Option (List Char) :=
  if cs.any isForbidden then none else some ((Text.encode cs).flatMap opaqueOctet)

/-- A host, which is a name in a URL of a well-known scheme. -/
def read? (wellKnown : Bool) (cs : List Char) : Option (List Char) :=
  match cs with
  | '[' :: r =>
    if r.getLast? = some ']' then (address6? r.dropLast).map fun a => '[' :: (a ++ [']']) else none
  | cs => if wellKnown then domain? cs else opaque? cs

end ReviewStream.Host
