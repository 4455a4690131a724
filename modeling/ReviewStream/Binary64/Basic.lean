/-!
# Double precision numbers

A double is kept as its 64 bits, so that equality is equality of representations and every
operation is exact arithmetic on natural numbers.

* `ofRatio?`: the double nearest to a quotient of two naturals, a tie going to the even one.
* `ofDecimal?`: the value of `significand · 10 ^ exponent`, rounded after each of the steps by
  which a reader of decimal text scales the significand.
-/

namespace ReviewStream

/-- A double precision number by its bits: sign, eleven of exponent, fifty-two of fraction. -/
structure Binary64 where
  bits : UInt64
deriving DecidableEq

namespace Binary64

/-- Positive zero. -/
def zero : Binary64 := ⟨0⟩

/-- The sign bit. -/
def signBit : Nat := 0x8000000000000000

/-- The bit above the fraction, which a significand has unless the number is subnormal. -/
def leadingBit : Nat := 0x10000000000000

/-- Whether the sign bit is set. -/
def isNegative (x : Binary64) : Bool :=
  x.bits.toNat / signBit == 1

/-- The bits without the sign. -/
def magnitude (x : Binary64) : Nat :=
  x.bits.toNat % signBit

/-- Whether the number is a zero of either sign. -/
def isZero (x : Binary64) : Bool :=
  x.magnitude == 0

/-- The number with the sign bit set. -/
def negate (x : Binary64) : Binary64 :=
  ⟨UInt64.ofNat (signBit + x.magnitude)⟩

/-- The integer `m` in the form `m · 2 ^ q` of the magnitude. -/
def significand (x : Binary64) : Nat :=
  let field := x.magnitude / leadingBit
  let fraction := x.magnitude % leadingBit
  if field = 0 then fraction else leadingBit + fraction

/-- The number `q + 1074` in the form `m · 2 ^ q` of the magnitude. -/
def scale (x : Binary64) : Nat :=
  x.magnitude / leadingBit - 1

/-- Whether the significand is the least of its binade, so that the neighbour below is nearer
than the one above. -/
def isBinadeStart (x : Binary64) : Bool :=
  x.magnitude % leadingBit == 0 && 1 < x.magnitude / leadingBit

/-! ## Rounding -/

/-- The quotient `num / den` rounded to the nearest integer, a tie going to the even one. -/
def roundQuotient (num den : Nat) : Nat :=
  let q := num / den
  let twice := 2 * (num % den)
  if den < twice ∨ (twice = den ∧ q % 2 = 1) then q + 1 else q

/-- The number `q + 1074` for which `num / den` is at least `2 ^ 52` and below `2 ^ 53` in units
of `2 ^ q`, or zero for a quotient that is subnormal. -/
def scaleOf (num den : Nat) : Nat :=
  -- The difference of the bit lengths is off by at most one.
  let guess := num.log2 + 1074 - den.log2 - 52
  if num.log2 + 1074 < den.log2 + 52 then 0
  else if num <<< 1074 < den <<< guess * leadingBit then guess - 1 else guess

/-- The double nearest to `num / den`, unless it would be infinite. -/
def ofRatio? (num den : Nat) : Option Binary64 :=
  if num = 0 then some zero
  else
    let scale := scaleOf num den
    let m := roundQuotient (num <<< 1074) (den <<< scale)
    -- A carry out of the significand moves on to the exponent field by itself.
    let bits := if m < leadingBit then m else (scale + 1) * leadingBit + (m - leadingBit)
    if bits < 2047 * leadingBit then some ⟨UInt64.ofNat bits⟩ else none

/-- The double nearest to a natural number below `2 ^ 64`. -/
def ofNat (n : Nat) : Binary64 :=
  (ofRatio? n 1).getD zero

/-! ## Decimal scaling -/

/-- The greatest power of ten that a double holds. -/
def greatestPower : Nat := 308

/-- The product with the double nearest to `10 ^ n`, unless it is infinite. -/
def timesPower? (x : Binary64) (n : Nat) : Option Binary64 :=
  let p := ofNat (Nat.pow 10 n)
  ofRatio? (x.significand <<< x.scale * p.significand <<< p.scale) (1 <<< 2148)

/-- The quotient by the double nearest to `10 ^ n`. -/
def overPower (x : Binary64) (n : Nat) : Binary64 :=
  let p := ofNat (Nat.pow 10 n)
  (ofRatio? (x.significand <<< x.scale) (p.significand <<< p.scale)).getD zero

/-- Divides by `10 ^ (308 · steps)`, one step after the other, until nothing is left. -/
def overGreatest : (steps : Nat) → Binary64 → Binary64
  | 0, x => x
  | steps + 1, x => if x.isZero then x else overGreatest steps (x.overPower greatestPower)

/-- The double for `significand · 10 ^ exponent`: the significand is rounded, and then every
scaling by a power of ten is; a result that would be infinite is none. -/
def ofDecimal? (significand : Nat) (exponent : Int) : Option Binary64 :=
  let x := ofNat significand
  match exponent with
  | .ofNat n =>
    if x.isZero then some x else if n ≤ greatestPower then x.timesPower? n else none
  | .negSucc n =>
    let n := n + 1
    let steps := (n - 1) / greatestPower
    let y := overGreatest steps x
    some (if y.isZero then y else y.overPower (n - steps * greatestPower))

end Binary64

end ReviewStream
