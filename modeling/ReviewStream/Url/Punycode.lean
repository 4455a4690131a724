/-!
# Names in ASCII letters

The encoding of a label of a domain name in ASCII: the ASCII characters come first, and the others
follow as differences of their positions, in a numeral system whose thresholds adapt.

* `Punycode.encode`: the encoded form of a label, without its mark `xn--`.
* `Punycode.decode?`: the label of an encoded form.
-/

namespace ReviewStream.Punycode

/-- The digit for a value below 36. -/
def digit (n : Nat) : Char :=
  if n < 26 then Char.ofNat (97 + n) else Char.ofNat (22 + n)

/-- The value of a digit, in either case. -/
def value? (c : Char) : Option Nat :=
  if 'a' ≤ c ∧ c ≤ 'z' then some (c.toNat - 97)
  else if 'A' ≤ c ∧ c ≤ 'Z' then some (c.toNat - 65)
  else if '0' ≤ c ∧ c ≤ '9' then some (c.toNat - 22)
  else none

/-- Divides by 35 until the value is small; gives the value and the weight of the divisions. -/
def settle (delta k : Nat) : Nat × Nat :=
  if 455 < delta then settle (delta / 35) (k + 36) else (delta, k)
termination_by delta
decreasing_by omega

/-- The bias after a difference. -/
def adapt (delta points : Nat) (first : Bool) : Nat :=
  let delta := if first then delta / 700 else delta / 2
  let (delta, k) := settle (delta + delta / points) 0
  k + 36 * delta / (delta + 38)

/-- The threshold of the digit at a position. -/
def threshold (k bias : Nat) : Nat :=
  if k ≤ bias then 1 else if bias + 26 ≤ k then 26 else k - bias

theorem threshold_pos (k bias : Nat) : 1 ≤ threshold k bias := by
  unfold threshold
  split
  · omega
  · split <;> omega

/-- The digits of a difference.  What is left after a digit is smaller than the difference, because
a threshold is at least one. -/
def writeDelta (bias k q : Nat) : List Char :=
  let t := threshold k bias
  if q < t then [digit q]
  else digit (t + (q - t) % (36 - t)) :: writeDelta bias (k + 36) ((q - t) / (36 - t))
termination_by q
decreasing_by
  have := threshold_pos k bias
  exact Nat.lt_of_le_of_lt (Nat.div_le_self _ _) (by omega)

/-- The state of the encoder: the difference so far, the bias, and how many characters are
written. -/
structure Progress where
  delta : Nat
  bias : Nat
  handled : Nat
  first : Bool
  out : List Char

/-- Passes over the label once, writing the characters with number `n`. -/
def encodePass (n : Nat) (label : List Char) (p : Progress) : Progress :=
  label.foldl (fun p c =>
    if c.toNat < n then { p with delta := p.delta + 1 }
    else if c.toNat = n then
      { delta := 0, bias := adapt p.delta (p.handled + 1) p.first, handled := p.handled + 1,
        first := false, out := p.out ++ writeDelta p.bias 36 p.delta }
    else p) p

/-- Writes the characters from number `n` on, the least first. -/
def encodeFrom (label : List Char) : (fuel : Nat) → (n : Nat) → Progress → List Char
  | 0, _, p => p.out
  | fuel + 1, n, p =>
    match (label.map Char.toNat).filter (n ≤ ·) |>.min? with
    | none => p.out
    | some m =>
      let p := { p with delta := p.delta + (m - n) * (p.handled + 1) }
      let p := encodePass m label p
      encodeFrom label fuel (m + 1) { p with delta := p.delta + 1 }

/-- The encoded form of a label. -/
def encode (label : List Char) : List Char :=
  let basic := label.filter (·.toNat < 0x80)
  let start : Progress :=
    { delta := 0, bias := 72, handled := basic.length, first := true,
      out := if basic.isEmpty then [] else basic ++ ['-'] }
  encodeFrom label (label.length + 1) 0x80 start

/-- Reads a difference. -/
def readDelta? (bias : Nat) : (k weight i : Nat) → List Char → Option (Nat × List Char)
  | _, _, _, [] => none
  | k, weight, i, c :: r =>
    match value? c with
    | none => none
    | some d =>
      let i := i + d * weight
      let t := threshold k bias
      if UInt32.size ≤ i then none
      else if d < t then some (i, r)
      else readDelta? bias (k + 36) (weight * (36 - t)) i r

/-- Reads the differences into the label. -/
def decodeFrom : (fuel : Nat) → (n i bias : Nat) → (first : Bool) → List Char → List Char →
    Option (List Char)
  | _, _, _, _, _, label, [] => some label
  | 0, _, _, _, _, _, _ => none
  | fuel + 1, n, i, bias, first, label, cs =>
    match readDelta? bias 36 1 i cs with
    | none => none
    | some (j, r) =>
      let points := label.length + 1
      let n := n + j / points
      if 0x10FFFF < n ∨ (0xD800 ≤ n ∧ n ≤ 0xDFFF) then none
      else
        let at_ := j % points
        let label := label.take at_ ++ Char.ofNat n :: label.drop at_
        decodeFrom fuel n (at_ + 1) (adapt (j - i) points first) false label r

/-- The label of an encoded form. -/
def decode? (cs : List Char) : Option (List Char) :=
  let tail := (cs.reverse.takeWhile (· != '-')).reverse
  let basic := if tail.length = cs.length then [] else cs.take (cs.length - tail.length - 1)
  decodeFrom (cs.length + 1) 0x80 0 72 true basic tail

end ReviewStream.Punycode
