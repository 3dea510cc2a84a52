import PipelineManifest.Decimal.Layout
import PipelineManifest.Json.Value
import PipelineManifest.Text.Hexadecimal

/-!
JSON text: `Json.compact` has no blanks, and `Json.pretty` puts each item and member on a line of
its own, indented by two blanks for each container around it.
-/

namespace PipelineManifest

namespace Json

/-- Quotes, backslashes and the characters below the blank are escaped, and no others. -/
def escape (c : Char) : List Char :=
  if c = '"' then ['\\', '"']
  else if c = '\\' then ['\\', '\\']
  else if c = '\x08' then ['\\', 'b']
  else if c = '\t' then ['\\', 't']
  else if c = '\n' then ['\\', 'n']
  else if c = '\x0c' then ['\\', 'f']
  else if c = '\r' then ['\\', 'r']
  else if c.toNat < 0x20 then
    '\\' :: 'u' :: Text.hexDigits false 4 c.toNat
  else [c]

def quoted (text : String) : List Char :=
  '"' :: (text.toList.flatMap escape ++ ['"'])

/-- A number has its shortest numeral: with a power of ten below `0.00001` and from `1e+16` on, and
with `.0` at its end if it is whole. -/
def floatLayout : Decimal.Layout := ⟨.toEven, some (-4, 16), ".0", "+"⟩

/-- The text of what is neither an array nor an object. -/
def scalar : Json → List Char
  | .bool true => "true".toList
  | .bool false => "false".toList
  | .int n => (Int.repr n).toList
  | .float x => floatLayout.write x
  | .string text => quoted text
  | _ => "null".toList

mutual

def compact : Json → List Char
  | .array items => '[' :: (compactItems items ++ [']'])
  | .object members => '{' :: (compactMembers members ++ ['}'])
  | other => scalar other

def compactItems : List Json → List Char
  | [] => []
  | [item] => compact item
  | item :: rest => compact item ++ ',' :: compactItems rest

def compactMembers : List (String × Json) → List Char
  | [] => []
  | [(name, value)] => quoted name ++ ':' :: compact value
  | (name, value) :: rest => quoted name ++ ':' :: (compact value ++ ',' :: compactMembers rest)

end

/-- Starts a line inside `depth` containers. -/
def newLine (depth : Nat) : List Char := '\n' :: List.replicate (2 * depth) ' '

mutual

/-- The text of a value inside `depth` containers. -/
def pretty (depth : Nat) : Json → List Char
  | .array [] => ['[', ']']
  | .array items => '[' :: (prettyItems (depth + 1) items ++ newLine depth ++ [']'])
  | .object [] => ['{', '}']
  | .object members => '{' :: (prettyMembers (depth + 1) members ++ newLine depth ++ ['}'])
  | other => scalar other

def prettyItems (depth : Nat) : List Json → List Char
  | [] => []
  | [item] => newLine depth ++ pretty depth item
  | item :: rest => newLine depth ++ pretty depth item ++ ',' :: prettyItems depth rest

def prettyMembers (depth : Nat) : List (String × Json) → List Char
  | [] => []
  | [(name, value)] => newLine depth ++ quoted name ++ ':' :: ' ' :: pretty depth value
  | (name, value) :: rest =>
    newLine depth ++ quoted name ++ ':' :: ' ' :: (pretty depth value ++
      ',' :: prettyMembers depth rest)

end

example : floatLayout.write (.ofNat (10 ^ 16)) = "1e+16".toList := by decide +kernel
example : floatLayout.write (.ofRatio true 1 (10 ^ 7)) = "-1e-7".toList := by decide +kernel
example : floatLayout.write (.ofRatio false 1 (10 ^ 5)) = "0.00001".toList := by decide +kernel
example : floatLayout.write (.ofNat (10 ^ 15)) = "1000000000000000.0".toList := by decide +kernel
example : floatLayout.write (.ofRatio false 2469 2) = "1234.5".toList := by decide +kernel
example : floatLayout.write (.zero true) = "-0.0".toList := by decide +kernel

def compactText (value : Json) : String := .ofList value.compact

/-- The text of a document that is a file of its own: it ends in a line break. -/
def documentText (value : Json) : String := .ofList (value.pretty 0 ++ ['\n'])

end Json

end PipelineManifest
