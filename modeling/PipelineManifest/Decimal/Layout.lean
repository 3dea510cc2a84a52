import PipelineManifest.Decimal.Shortest

/-!
How a decimal numeral is written: `Layout` holds the decisions of one format, and
`Layout.write` follows them.
-/

namespace PipelineManifest

namespace Decimal

/-- The decisions of a format for finite floating-point numbers. -/
structure Layout where
  tie : Tie
  /-- The places of the point, counted from before the first digit, that are written without an
  exponent; without a range no numeral has an exponent. -/
  positional : Option (Int × Int)
  /-- What follows the last digit of a whole number. -/
  whole : String
  /-- What stands before a power of ten that is not negative. -/
  plus : String

namespace Layout

def zeros (count : Int) : List Char := List.replicate count.toNat '0'

/-- The digits around a point that stands `point` places after the first of them begins. -/
def positionalText (layout : Layout) (digits : List Char) (point : Int) : List Char :=
  if point ≤ 0 then '0' :: '.' :: zeros (-point) ++ digits
  else if digits.length ≤ point then
    digits ++ zeros (point - digits.length) ++ layout.whole.toList
  else digits.take point.toNat ++ '.' :: digits.drop point.toNat

/-- One digit before the point and a signed power of ten after the rest. -/
def scientificText (layout : Layout) (digits : List Char) (point : Int) : List Char :=
  let tail := digits.drop 1
  let sign := if point < 1 then [] else layout.plus.toList
  digits.take 1 ++ (if tail.isEmpty then [] else '.' :: tail) ++
    'e' :: sign ++ (Int.repr (point - 1)).toList

def text (layout : Layout) (numeral : Decimal) : List Char :=
  let digits := Nat.toDigits 10 numeral.digits
  let point : Int := digits.length + numeral.exponent
  let positional : Bool := match layout.positional with
    | none => true
    | some (least, greatest) => decide (least ≤ point ∧ point ≤ greatest)
  let body :=
    if positional ∨ numeral.digits = 0 then layout.positionalText digits point
    else layout.scientificText digits point
  if numeral.negative then '-' :: body else body

/-- The text of a finite number: its shortest numeral in this layout. -/
def write (layout : Layout) (x : Binary64) : List Char :=
  layout.text (shortest layout.tie x)

end Layout

end Decimal

end PipelineManifest
