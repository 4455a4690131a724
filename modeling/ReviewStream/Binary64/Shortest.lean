import ReviewStream.Binary64.Basic
import ReviewStream.Text.Integer

/-!
# The fewest digits that read back

A double stands for all reals that round to it, an interval that includes its ends when the
significand is even.  Its shortest text is taken from the coarsest decimal grid that has a point
in the interval, and of two points in it the one nearer to the double.

* `shortest`: digits and exponent of that point.
* `decimalText`: how such a number is written: positionally while the point falls within or next
  to the digits, and with an exponent otherwise.
-/

namespace ReviewStream.Binary64

/-- A positive double as multiples of the unit `2 ^ unit / 4`: the lower end of the interval, the
double and the upper end. -/
structure Interval where
  low : Nat
  mid : Nat
  high : Nat
  /-- The exponent of two of the unit, which is `2 ^ (unit - 1076)`. -/
  unit : Nat
  closed : Bool

/-- The reals that round to the magnitude of a double. -/
def interval (x : Binary64) : Interval :=
  let m := x.significand
  { low := if x.isBinadeStart then 4 * m - 1 else 4 * m - 2
    mid := 4 * m
    high := 4 * m + 2
    unit := x.scale
    closed := m % 2 == 0 }

/-- A positive decimal number `digits · 10 ^ exponent`. -/
structure Decimal where
  digits : Nat
  exponent : Int

/-- The number of units in `n` grid points, with the common denominator cleared:
`(units n, units of one unit)`. -/
def Interval.clear (i : Interval) (exponent : Int) (points units : Nat) : Nat × Nat :=
  match exponent with
  | .ofNat k => (points * Nat.pow 10 k <<< 1076, units <<< i.unit)
  | .negSucc k => (points <<< 1076, units <<< i.unit * Nat.pow 10 (k + 1))

/-- Whether a grid point lies in the interval. -/
def Interval.has (i : Interval) (d : Decimal) : Bool :=
  let (p, low) := i.clear d.exponent d.digits i.low
  let high := (i.clear d.exponent d.digits i.high).2
  if i.closed then low ≤ p && p ≤ high else low < p && p < high

/-- The grid point at or below the double. -/
def Interval.floor (i : Interval) (exponent : Int) : Nat :=
  let (one, mid) := i.clear exponent 1 i.mid
  mid / one

/-- Of two neighbouring grid points the one nearer to the double, the even one on a tie. -/
def Interval.nearer (i : Interval) (exponent : Int) (n : Nat) : Decimal :=
  let (p, mid) := i.clear exponent (2 * n + 1) (2 * i.mid)
  ⟨if mid < p ∨ (mid = p ∧ n % 2 = 0) then n else n + 1, exponent⟩

/-- The chosen point of the grid with a given exponent, if the interval has one. -/
def Interval.pick? (i : Interval) (exponent : Int) : Option Decimal :=
  let n := i.floor exponent
  let below := i.has ⟨n, exponent⟩ && n ≠ 0
  let above := i.has ⟨n + 1, exponent⟩
  if below && above then some (i.nearer exponent n)
  else if below then some ⟨n, exponent⟩
  else if above then some ⟨n + 1, exponent⟩
  else none

/-- Tries finer and finer grids. -/
def Interval.coarsest (i : Interval) : (grids : Nat) → (exponent : Int) → Decimal
  | 0, exponent => ⟨i.floor exponent, exponent⟩
  | grids + 1, exponent => (i.pick? exponent).getD (i.coarsest grids (exponent - 1))

/-- Moves zeros at the end of the digits to the exponent. -/
def Decimal.dropZeros : (fuel : Nat) → Decimal → Decimal
  | 0, d => d
  | fuel + 1, d =>
    if d.digits % 10 = 0 ∧ d.digits ≠ 0 then dropZeros fuel ⟨d.digits / 10, d.exponent + 1⟩ else d

/-- The shortest decimal number that reads back as the magnitude of a nonzero double. -/
def shortest (x : Binary64) : Decimal :=
  let i := x.interval
  -- The first grid is coarser than the double: ten to one more than its decimal magnitude.
  let bits : Int := (i.mid.log2 : Int) + (i.unit : Int) - 1076
  let top : Int := bits * 30103 / 100000 + 2
  (i.coarsest 20 top).dropZeros 20

/-- Writes a double: `12.0`, `0.25`, `1e+16`, `1.5e-7`.  Numbers from `10 ^ -5` up to, but not
including, `10 ^ 16` are positional and keep a digit on both sides of the point. -/
def decimalText (x : Binary64) : String :=
  let sign := if x.isNegative then "-" else ""
  if x.isZero then sign ++ "0.0"
  else
    let d := x.shortest
    let ds := Text.natDigits d.digits
    let point : Int := ds.length + d.exponent
    let zeros (n : Int) := List.replicate n.toNat '0'
    let body : List Char :=
      if 0 ≤ d.exponent ∧ point ≤ 16 then ds ++ zeros d.exponent ++ ['.', '0']
      else if 0 < point ∧ point ≤ 16 then ds.take point.toNat ++ '.' :: ds.drop point.toNat
      else if -5 < point ∧ point ≤ 0 then '0' :: '.' :: (zeros (-point) ++ ds)
      else
        let mantissa := match ds with
          | [] => []
          | [c] => [c]
          | c :: rest => c :: '.' :: rest
        let mark := if 0 < point then '+' else '-'
        mantissa ++ 'e' :: mark :: Text.natDigits (point - 1).natAbs
    sign ++ String.ofList body

end ReviewStream.Binary64
