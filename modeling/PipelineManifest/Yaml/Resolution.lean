import PipelineManifest.Decimal.Shortest
import PipelineManifest.Text.Hexadecimal

/-!
What the text of a plain scalar stands for: nothing, a truth value, a number, or itself. Writing
asks the same questions to find out which texts need quotes.
-/

namespace PipelineManifest

namespace Yaml

def isNull (text : List Char) : Bool :=
  text ∈ ["null".toList, "Null".toList, "NULL".toList, "~".toList]

def bool? (text : List Char) : Option Bool :=
  if text ∈ ["true".toList, "True".toList, "TRUE".toList] then some true
  else if text ∈ ["false".toList, "False".toList, "FALSE".toList] then some false
  else none

/-! ### Whole numbers -/

/-- The number of a list of digits, of which there must be one. -/
def natural? (radix : Nat) : List Char → Option Nat
  | [] => none
  | digits => digits.foldlM
      (fun n c => ((Text.hexValue? c).filter (· < radix)).map (n * radix + ·)) 0

def isSign (c : Char) : Bool := c = '+' ∨ c = '-'

/-- Digits behind a zero. Such a text is no number. -/
def isPadded : List Char → Bool
  | '0' :: c :: rest => (c :: rest).all Char.isDigit
  | _ => false

/-- A number without a sign, with the mark of its radix unless that is ten. -/
def magnitude? : List Char → Option Nat
  | '0' :: 'x' :: digits => natural? 16 digits
  | '0' :: 'o' :: digits => natural? 8 digits
  | '0' :: 'b' :: digits => natural? 2 digits
  | digits => if isPadded digits then none else natural? 10 digits

/-- The text behind a plus sign, if there is one. No other sign may follow it. -/
def withoutPlus? : List Char → Option (List Char)
  | '+' :: rest => if rest.head?.any isSign then none else some rest
  | text => some text

/-- A whole number of at most 128 bits. -/
def int? : List Char → Option Int
  | '-' :: rest => do
    let n ← magnitude? rest
    if n ≤ Nat.pow 2 127 then return -n else none
  | text => do
    let n ← magnitude? (← withoutPlus? text)
    if n < Nat.pow 2 128 then return n else none

/-! ### Floating-point numbers -/

/-- A power of ten, with a sign or without. -/
def power? : List Char → Option Int
  | '-' :: digits => (natural? 10 digits).map fun n => -n
  | '+' :: digits => (natural? 10 digits).map fun n => n
  | digits => (natural? 10 digits).map fun n => n

/-- A numeral with digits before or after its point. -/
def decimal? (negative : Bool) (text : List Char) : Option Decimal := do
  let whole := text.takeWhile Char.isDigit
  let rest := text.dropWhile Char.isDigit
  let (fraction, rest) := match rest with
    | '.' :: rest => (rest.takeWhile Char.isDigit, rest.dropWhile Char.isDigit)
    | rest => ([], rest)
  let digits ← natural? 10 (whole ++ fraction)
  let power ← match rest with
    | [] => some 0
    | c :: rest => if c = 'e' ∨ c = 'E' then power? rest else none
  return ⟨negative, digits, power - fraction.length⟩

def isInfinity (text : List Char) : Bool :=
  text ∈ [".inf".toList, ".Inf".toList, ".INF".toList]

def isNotANumber (text : List Char) : Bool :=
  text ∈ [".nan".toList, ".NaN".toList, ".NAN".toList]

/-- A number without a plus sign. A numeral that is too large stands for none. -/
def signedFloat? (negative : Bool) (text : List Char) : Option Binary64 :=
  if isInfinity text then some (.infinity negative)
  else ((decimal? negative text).map Decimal.toBinary64).filter (·.isFinite)

def float? (text : List Char) : Option Binary64 :=
  if isNotANumber text then some .nan
  else match text with
    | '-' :: rest => signedFloat? true rest
    | text => (withoutPlus? text).bind (signedFloat? false)

/-- Digits behind a zero, with a sign or without. -/
def isSignedPadded : List Char → Bool
  | c :: rest => if isSign c then isPadded rest else isPadded (c :: rest)
  | [] => false

example : int? "0x1F".toList = some 31 := by decide +kernel
example : int? "-0b11".toList = some (-3) := by decide +kernel
example : int? "+-1".toList = none := by decide +kernel
example : int? "017".toList = none := by decide +kernel
example : float? "1.e3".toList = some (.ofNat 1000) := by decide +kernel
example : float? "1e400".toList = none := by decide +kernel

end Yaml

end PipelineManifest
