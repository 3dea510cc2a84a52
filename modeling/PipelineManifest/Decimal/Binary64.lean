/-!
Floating-point numbers of 64 bits, given by their bits and read as exact ratios of natural numbers.
`Binary64.ofRatio` is the number nearest to a ratio, the even one of two that are equally near.
-/

namespace PipelineManifest

/-- A floating-point number of 64 bits: a sign, eleven bits of exponent and 52 of fraction. -/
structure Binary64 where
  bits : UInt64
deriving DecidableEq, Repr, Inhabited

namespace Binary64

/-- The least exponent of two that a significand is scaled by. -/
def leastExponent : Int := -1074

/-- The bits of infinity. They follow those of the largest finite number. -/
def infinityBits : Nat := 2047 * Nat.pow 2 52

def signBit : Nat := Nat.pow 2 63

def isNegative (x : Binary64) : Bool := x.bits.toNat / signBit % 2 = 1

def exponentField (x : Binary64) : Nat := x.bits.toNat / Nat.pow 2 52 % Nat.pow 2 11

def fraction (x : Binary64) : Nat := x.bits.toNat % Nat.pow 2 52

def isFinite (x : Binary64) : Bool := x.exponentField ≠ 2047

def isNaN (x : Binary64) : Bool := x.exponentField = 2047 ∧ x.fraction ≠ 0

/-- The whole number `m` of a finite `m * 2 ^ e`. -/
def significand (x : Binary64) : Nat :=
  if x.exponentField = 0 then x.fraction else Nat.pow 2 52 + x.fraction

/-- The power `e` of a finite `m * 2 ^ e`. -/
def exponent (x : Binary64) : Int :=
  (max 1 x.exponentField : Nat) - 1 + leastExponent

def ofBits (negative : Bool) (magnitude : Nat) : Binary64 :=
  ⟨UInt64.ofNat ((if negative then signBit else 0) + magnitude)⟩

def zero (negative : Bool) : Binary64 := ofBits negative 0

def infinity (negative : Bool) : Binary64 :=
  ⟨if negative then 0xFFF0000000000000 else 0x7FF0000000000000⟩

/-- A number that is not one, with its sign bit clear. -/
def nan : Binary64 := ⟨0x7FF8000000000000⟩

/-- The nearest whole number to a ratio, the even one of two. -/
def roundHalfEven (num den : Nat) : Nat :=
  let quotient := num / den
  let twice := 2 * (num % den)
  if den < twice ∨ (twice = den ∧ quotient % 2 = 1) then quotient + 1 else quotient

/-- Numerator and denominator of `num / den / 2 ^ e`. -/
def scaled (num den : Nat) (e : Int) : Nat × Nat :=
  (num * Nat.pow 2 (-e).toNat, den * Nat.pow 2 e.toNat)

/-- The power of two that leaves 53 bits before the point, or the least one. -/
def scaleOf (num den : Nat) : Int :=
  let guess : Int := max ((num.log2 : Int) - den.log2 - 52) leastExponent
  let (top, bottom) := scaled num den guess
  if leastExponent < guess ∧ top < bottom * Nat.pow 2 52 then guess - 1 else guess

/-- The number nearest to `num / den`. A significand that rounds up to 54 bits carries into the
exponent field, and what passes the largest finite number is infinite. -/
def ofRatio (negative : Bool) (num den : Nat) : Binary64 :=
  if num = 0 then zero negative
  else
    let e := scaleOf num den
    let (top, bottom) := scaled num den e
    let magnitude := (e - leastExponent).toNat * Nat.pow 2 52 + roundHalfEven top bottom
    ofBits negative (min magnitude infinityBits)

def ofNat (n : Nat) : Binary64 := ofRatio false n 1

/-- Numerator and denominator of the absolute value of a finite number. -/
def ratio (x : Binary64) : Nat × Nat :=
  (x.significand * Nat.pow 2 x.exponent.toNat, Nat.pow 2 (-x.exponent).toNat)

/-- The product of two finite numbers, rounded once. -/
def mul (x y : Binary64) : Binary64 :=
  ofRatio (x.isNegative != y.isNegative) (x.ratio.1 * y.ratio.1) (x.ratio.2 * y.ratio.2)

/-- The quotient of two finite numbers, the second not zero, rounded once. -/
def div (x y : Binary64) : Binary64 :=
  ofRatio (x.isNegative != y.isNegative) (x.ratio.1 * y.ratio.2) (x.ratio.2 * y.ratio.1)

def neg (x : Binary64) : Binary64 :=
  ofBits (!x.isNegative) (x.bits.toNat % signBit)

def isZero (x : Binary64) : Bool := x.bits.toNat % signBit = 0

example : ofRatio false 1 1 = ⟨0x3FF0000000000000⟩ := by decide +kernel
example : ofRatio true 1 10 = ⟨0xBFB999999999999A⟩ := by decide +kernel
example : ofRatio false 1 (2 ^ 1075) = zero false := by decide +kernel
example : ofRatio false 3 (2 ^ 1075) = ⟨2⟩ := by decide +kernel
example : ofNat (2 ^ 53 + 1) = ofNat (2 ^ 53) := by decide +kernel
example : ofNat (2 ^ 1024) = infinity false := by decide +kernel
example : infinity true = ofBits true infinityBits := by decide +kernel
example : nan.isNaN = true := by decide +kernel

end Binary64

end PipelineManifest
