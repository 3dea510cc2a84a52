import PipelineManifest.Decimal.Layout
import PipelineManifest.Json.Value
import PipelineManifest.Yaml.Character
import PipelineManifest.Yaml.Resolution

/-!
YAML text of JSON values, in blocks. A text stands without quotes if it is read back as itself so;
texts of several lines are block scalars, unless some character of theirs must be escaped.
-/

namespace PipelineManifest

namespace Yaml

/-! ### The style of a text -/

inductive Style
  | plain
  | single
  | double
  | literal
deriving DecidableEq, Repr

def endsInBlank (text : List Char) : Bool := text.getLast? = some ' '

/-- Whether a colon stands at the end of a word, or a number sign at the start of one. -/
def hasInnerMark : List Char → Bool
  | a :: b :: rest =>
    (b = ':' ∧ endsWord rest) ∨ (b = '#' ∧ endsWord [a]) ∨ hasInnerMark (b :: rest)
  | _ => false

/-- Whether the first character says what kind of node it begins. -/
def hasFirstMark : List Char → Bool
  | [] => false
  | c :: rest =>
    isFlowMark c ∨ c ∈ ['#', '&', '*', '!', '|', '>', '\'', '"', '%', '@'] ∨ c.toNat = 0x60 ∨
      ((c = '?' ∨ c = ':' ∨ c = '-') ∧ endsWord rest)

/-- Whether a text begins like a marker between documents. -/
def hasMarker (text : List Char) : Bool :=
  ['-', '-', '-'].isPrefixOf text ∨ ['.', '.', '.'].isPrefixOf text

/-- Whether a line end stands next to a blank, before it or behind it. -/
def hasBlankLineStart : List Char → Bool
  | a :: b :: rest => (isBreak a ∧ b = ' ') ∨ hasBlankLineStart (b :: rest)
  | _ => false

def hasBlankLineEnd : List Char → Bool
  | a :: b :: rest => (a = ' ' ∧ isBreak b) ∨ hasBlankLineEnd (b :: rest)
  | _ => false

def plainAllowed (text : List Char) : Bool :=
  ¬ (text.head? = some ' ' ∨ endsInBlank text ∨ text.any isBreak ∨ hasMarker text ∨
    hasFirstMark text ∨ hasInnerMark text)

/-- A text with a character that must be escaped can stand in double quotes only, and so can one
with blanks before the end of a line. -/
def needsEscapes (text : List Char) : Bool :=
  text.any (!isPrintable ·) ∨ hasBlankLineEnd text

/-- Whether a plain scalar of this text would be read as something else than a text. -/
def isAmbiguous (text : List Char) : Bool :=
  text.isEmpty ∨ isNull text ∨ (bool? text).isSome ∨ (int? text).isSome ∨ isSignedPadded text ∨
    (float? text).isSome

def styleOf (text : List Char) : Style :=
  if needsEscapes text then .double
  else if '\n' ∈ text then if endsInBlank text then .double else .literal
  else if ¬ isAmbiguous text ∧ plainAllowed text then .plain
  else if hasBlankLineStart text then .double
  else .single

/-! ### Scalars -/

def spaces (n : Nat) : List Char := List.replicate n ' '

/-- The lines of a text. Behind a line end, only a line that holds something is indented. -/
def indented (indent : Nat) (behindBreak : Bool) : List Char → List Char
  | [] => []
  | c :: rest =>
    if isBreak c then c :: indented indent true rest
    else (if behindBreak then spaces indent else []) ++ c :: indented indent false rest

/-- The marks behind the bar of a block scalar: the indentation, if the text does not show it, and
what becomes of the line ends at its end. -/
def literalHeader (text : List Char) : List Char :=
  let hint := if text.head?.any fun c => c = ' ' ∨ isBreak c then ['2'] else []
  match text.reverse with
  | [] => hint ++ ['-']
  | [c] => hint ++ if isBreak c then ['+'] else ['-']
  | c :: d :: _ =>
    hint ++ if ¬ isBreak c then ['-'] else if isBreak d then ['+'] else []

def escape (c : Char) : List Char :=
  match c with
  | '\x00' => ['\\', '0']
  | '\x07' => ['\\', 'a']
  | '\x08' => ['\\', 'b']
  | '\t' => ['\\', 't']
  | '\n' => ['\\', 'n']
  | '\x0b' => ['\\', 'v']
  | '\x0c' => ['\\', 'f']
  | '\r' => ['\\', 'r']
  | '\x1b' => ['\\', 'e']
  | '"' => ['\\', '"']
  | '\\' => ['\\', '\\']
  | '\u0085' => ['\\', 'N']
  | '\u2028' => ['\\', 'L']
  | '\u2029' => ['\\', 'P']
  | c =>
    if isPrintable c then [c]
    else if c.toNat ≤ 0xFF then '\\' :: 'x' :: Text.hexDigits true 2 c.toNat
    else if c.toNat ≤ 0xFFFF then '\\' :: 'u' :: Text.hexDigits true 4 c.toNat
    else '\\' :: 'U' :: Text.hexDigits true 8 c.toNat

/-- The text of a scalar whose further lines are indented, up to the end of its line. A literal text
that ends in a line end has none of its own. -/
def styled (indent : Nat) (text : List Char) : List Char :=
  match styleOf text with
  | .plain => text ++ ['\n']
  | .single =>
    let doubled := text.flatMap fun c => if c = '\'' then ['\'', '\''] else [c]
    let closing := if text.getLast?.any isBreak then spaces indent else []
    '\'' :: (indented indent false doubled ++ closing ++ ['\'', '\n'])
  | .double => '"' :: (text.flatMap escape ++ ['"', '\n'])
  | .literal =>
    let lineEnd := if text.getLast?.any isBreak then [] else ['\n']
    '|' :: (literalHeader text ++ '\n' :: (indented indent true text ++ lineEnd))

/-- A number has its shortest numeral: with a power of ten below `0.00001` and from `1e16` on, and
with `.0` at its end if it is whole. -/
def floatLayout : Decimal.Layout := ⟨.toEven, some (-4, 16), ".0", ""⟩

/-- The line of what has no lines below it. -/
def leaf (indent : Nat) : Json → List Char
  | .null => "null\n".toList
  | .bool true => "true\n".toList
  | .bool false => "false\n".toList
  | .int n => n.repr.toList ++ ['\n']
  | .float x => floatLayout.write x ++ ['\n']
  | .string text => styled indent text.toList
  | .array _ => "[]\n".toList
  | .object _ => "{}\n".toList

/-! ### Blocks -/

/-- How many bytes a key may have that stands before its colon without a mark. -/
def plainKeyLimit : Nat := 128

/-- Whether a key needs no mark before it. -/
def isSimpleKey (key : String) : Bool :=
  key.toList.all (!isBreak ·) ∧ key.utf8ByteSize ≤ plainKeyLimit

/-- A key with its colon. A key that is not simple has a line of its own. -/
def keyText (indent : Nat) (key : String) : List Char :=
  if isSimpleKey key then (styled (indent + 2) key.toList).dropLast ++ [':']
  else '?' :: ' ' :: (styled (indent + 2) key.toList ++ spaces indent ++ [':'])

mutual

/-- A node that begins on the line of a mark; its further lines are indented. -/
def node (indent : Nat) : Json → List Char
  | .array (item :: rest) => entries indent (item :: rest)
  | .object (member :: rest) => pairs indent (member :: rest)
  | value => leaf indent value

/-- A node behind the colon of a simple key in a mapping that is indented. A container begins on the
next line, and a sequence is indented no further than the key. -/
def below (indent : Nat) : Json → List Char
  | .array (item :: rest) => '\n' :: (spaces indent ++ entries indent (item :: rest))
  | .object (member :: rest) =>
    '\n' :: (spaces (indent + 2) ++ pairs (indent + 2) (member :: rest))
  | value => ' ' :: leaf (indent + 2) value

def entries (indent : Nat) : List Json → List Char
  | [] => []
  | [item] => '-' :: ' ' :: node (indent + 2) item
  | item :: rest => '-' :: ' ' :: (node (indent + 2) item ++ spaces indent ++ entries indent rest)

def pairs (indent : Nat) : List (String × Json) → List Char
  | [] => []
  | [(key, value)] => keyText indent key ++
      if isSimpleKey key then below indent value else ' ' :: node (indent + 2) value
  | (key, value) :: rest => keyText indent key ++
      (if isSimpleKey key then below indent value else ' ' :: node (indent + 2) value) ++
      spaces indent ++ pairs indent rest

end

/-- The text of a document. -/
def documentText (value : Json) : String :=
  match value with
  | .array _ | .object _ => .ofList (node 0 value)
  | _ => .ofList (leaf 2 value)

example : styleOf "a: b".toList = .single := by decide +kernel
example : styleOf "a:b".toList = .plain := by decide +kernel
example : styleOf "0017".toList = .single := by decide +kernel
example : styleOf "a\nb".toList = .literal := by decide +kernel
example : styleOf "a \nb".toList = .double := by decide +kernel
example : literalHeader " a\n\n".toList = ['2', '+'] := by decide +kernel

end Yaml

end PipelineManifest
