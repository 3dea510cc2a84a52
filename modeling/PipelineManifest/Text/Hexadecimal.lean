/-!
Hexadecimal numbers, as escapes use them.
-/

namespace PipelineManifest

namespace Text

/-- The digit of a value below 16, in capital letters or in small ones. -/
def hexDigit (capital : Bool) (n : Nat) : Char :=
  if capital then (Nat.digitChar (n % 16)).toUpper else Nat.digitChar (n % 16)

/-- The last `count` digits of a number. -/
def hexDigits (capital : Bool) : (count : Nat) → Nat → List Char
  | 0, _ => []
  | count + 1, n => hexDigits capital count (n / 16) ++ [hexDigit capital n]

def hexValue? (c : Char) : Option Nat :=
  if c.isDigit then some (c.toNat - '0'.toNat)
  else if 'a' ≤ c ∧ c ≤ 'f' then some (c.toNat - 'a'.toNat + 10)
  else if 'A' ≤ c ∧ c ≤ 'F' then some (c.toNat - 'A'.toNat + 10)
  else none

/-- The number of a list of digits. -/
def hexNumber? (digits : List Char) : Option Nat :=
  digits.foldlM (fun n c => (hexValue? c).map (n * 16 + ·)) 0

example : hexDigits true 4 0x1F600 = ['F', '6', '0', '0'] := by decide +kernel
example : hexNumber? ['0', '0', 'e', '9'] = some 0xE9 := by decide +kernel

end Text

end PipelineManifest
