import PipelineManifest.Decimal.Binary64

/-!
Decimal numerals of floating-point numbers: `Decimal.toBinary64` is the number nearest to a numeral,
and `Decimal.shortest` is the numeral with the fewest digits that is read back as the same number,
the nearest one of those.
-/

namespace PipelineManifest

/-- The numeral `± digits * 10 ^ exponent`. -/
structure Decimal where
  negative : Bool
  digits : Nat
  exponent : Int
deriving DecidableEq, Repr

namespace Decimal

def digitCount (n : Nat) : Nat := (Nat.toDigits 10 n).length

/-- The nearest floating-point number. A numeral whose first digit is out of range by far is
infinite or zero without being multiplied out. -/
def toBinary64 (numeral : Decimal) : Binary64 :=
  let point := digitCount numeral.digits + numeral.exponent
  if numeral.digits = 0 ∨ point < -330 then .zero numeral.negative
  else if 310 < point then .infinity numeral.negative
  else .ofRatio numeral.negative (numeral.digits * Nat.pow 10 numeral.exponent.toNat)
    (Nat.pow 10 (-numeral.exponent).toNat)

/-- Which of two equally near numerals is chosen. -/
inductive Tie
  | toEven
  | up
deriving DecidableEq, Repr

/-- The numbers that round to a given one lie between `low` and `high`, counted in quarters of the
unit of its significand, where the number itself is `middle`. The ends belong to them if `closed`.
-/
structure Interval where
  low : Nat
  middle : Nat
  high : Nat
  closed : Bool

/-- Below a power of two the neighbouring number is half as far away. -/
def interval (x : Binary64) : Interval :=
  let m := x.significand
  let narrow := x.fraction = 0 ∧ 1 < x.exponentField
  ⟨4 * m - (if narrow then 1 else 2), 4 * m, 4 * m + 2, m % 2 = 0⟩

/-- The points of the grid of multiples of `10 ^ k`, compared with an interval: the multiple `c`
lies at `c * step`, and a bound `b` of the interval at `b * quarter`. -/
structure Grid where
  step : Nat
  quarter : Nat

def grid (x : Binary64) (k : Int) : Grid :=
  let e := x.exponent - 2
  ⟨Nat.pow 10 k.toNat * Nat.pow 2 (-e).toNat, Nat.pow 10 (-k).toNat * Nat.pow 2 e.toNat⟩

def Interval.holds (bounds : Interval) (points : Grid) (c : Nat) : Bool :=
  let low := bounds.low * points.quarter
  let high := bounds.high * points.quarter
  if bounds.closed then low ≤ c * points.step ∧ c * points.step ≤ high
  else low < c * points.step ∧ c * points.step < high

/-- The multiple of the grid nearest to the middle of the interval, if one lies inside it. -/
def nearestInside (tie : Tie) (bounds : Interval) (points : Grid) : Option Nat :=
  let middle := bounds.middle * points.quarter
  let below := middle / points.step
  let above := below + 1
  match bounds.holds points below, bounds.holds points above with
  | false, false => none
  | true, false => some below
  | false, true => some above
  | true, true =>
    let halfway := (2 * below + 1) * points.step
    if 2 * middle < halfway then some below
    else if halfway < 2 * middle then some above
    else match tie with
      | .up => some above
      | .toEven => if below % 2 = 0 then some below else some above

/-- Walks from a coarse grid to finer ones up to the first that meets the interval. -/
def firstGrid (tie : Tie) (x : Binary64) (bounds : Interval) : Nat → Int → Nat × Int
  | 0, k => (bounds.middle * (grid x k).quarter / (grid x k).step, k)
  | steps + 1, k =>
    let points := grid x k
    if bounds.middle * points.quarter < points.step then firstGrid tie x bounds steps (k - 1)
    else match nearestInside tie bounds points with
      | some c => (c, k)
      | none => firstGrid tie x bounds steps (k - 1)

/-- Moves the zeros at the end of the digits into the exponent. -/
def withoutZeros : Nat → Nat × Int → Nat × Int
  | 0, numeral => numeral
  | steps + 1, (digits, exponent) =>
    if digits ≠ 0 ∧ digits % 10 = 0 then withoutZeros steps (digits / 10, exponent + 1)
    else (digits, exponent)

/-- At most 17 digits tell all numbers apart; the walk starts at most three grids above the first
digit. -/
def gridLimit : Nat := 21

/-- The shortest numeral of a finite number. -/
def shortest (tie : Tie) (x : Binary64) : Decimal :=
  if x.significand = 0 then ⟨x.isNegative, 0, 0⟩
  else
    let magnitude : Int := x.significand.log2 + x.exponent
    let start := magnitude * 30103 / 100000 + 1
    let found := firstGrid tie x (interval x) gridLimit start
    let (digits, exponent) := withoutZeros 20 found
    ⟨x.isNegative, digits, exponent⟩

example : shortest .toEven (.ofRatio false 1 10) = ⟨false, 1, -1⟩ := by decide +kernel
example : shortest .toEven ⟨1⟩ = ⟨false, 5, -324⟩ := by decide +kernel
example : shortest .toEven ⟨0x7FEFFFFFFFFFFFFF⟩ = ⟨false, 17976931348623157, 292⟩ := by
  decide +kernel
example : shortest .toEven (.ofNat (2 ^ 63)) = ⟨false, 9223372036854776, 3⟩ := by decide +kernel
example :
    shortest .toEven (.ofRatio false 4503599627370497 4) = ⟨false, 11258999068426242, -1⟩ := by
  decide +kernel
example : shortest .up (.ofRatio false 4503599627370497 4) = ⟨false, 11258999068426243, -1⟩ := by
  decide +kernel

end Decimal

end PipelineManifest
