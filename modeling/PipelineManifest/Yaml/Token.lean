import PipelineManifest.Yaml.Scalar

/-!
The tokens of YAML text, and the readers of those that are more than a mark: directives, anchors and
tags. A reader gives the token and the text behind it.
-/

namespace PipelineManifest

namespace Yaml

/-- A tag by its bytes. Escapes in a tag may give bytes that are no text. -/
abbrev Tag := List UInt8

def Tag.ofChars (chars : List Char) : Tag := (String.ofList chars).toUTF8.toList

/-- A tag, and what a directive writes out for a handle, ends before a NUL. -/
def Tag.untilNul (tag : Tag) : Tag := tag.takeWhile (· ≠ 0)

inductive Token
  | version (major minor : Nat)
  /-- A directive by which tags that begin with a handle are written out. -/
  | shorthand (handle : List Char) (expansion : Tag)
  | documentStart
  | documentEnd
  | blockSequenceStart
  | blockMappingStart
  | blockEnd
  | flowSequenceStart
  | flowSequenceEnd
  | flowMappingStart
  | flowMappingEnd
  | blockEntry
  | flowEntry
  | key
  | value
  | alias (name : List Char)
  | anchor (name : List Char)
  /-- A tag by its handle and what follows it; without a handle it stands for itself. -/
  | tag (handle : List Char) (suffix : Tag)
  | scalar (plain : Bool) (text : List Char)
deriving DecidableEq, Repr

/-! ### Anchors -/

/-- What may stand behind a name, besides the end of a word. -/
def isNameEnd (c : Char) : Bool :=
  c = '?' ∨ c = ':' ∨ c = ',' ∨ c = ']' ∨ c = '}' ∨ c = '%' ∨ c = '@' ∨ c.toNat = 0x60

/-- The name of an anchor or an alias. -/
def takeName (text : List Char) : Option (List Char × List Char) :=
  let name := text.takeWhile isWord
  let rest := text.dropWhile isWord
  if name ≠ [] ∧ (endsWord rest ∨ rest.head?.any isNameEnd) then some (name, rest) else none

/-! ### Tags -/

def isTagCharacter (c : Char) : Bool :=
  isWord c ∨ c ∈ [';', '/', '?', ':', '@', '&', '=', '+', '$', '.', '!', '~', '*', '\'', '(', ')']

/-- The number of bytes of a character by the first of them. -/
def byteCount? (first : Nat) : Option Nat :=
  if first < 0x80 then some 1
  else if first / 0x20 = 0x6 then some 2
  else if first / 0x10 = 0xE then some 3
  else if first / 0x8 = 0x1E then some 4
  else none

/-- The bytes of one escaped character; `expected` of them are still to come. -/
def takeEscapes (expected : Option Nat) : List Char → Option (Tag × List Char)
  | '%' :: a :: b :: rest => do
    let byte ← Text.hexNumber? [a, b]
    let left ← match expected with
      | none => byteCount? byte
      | some left => if byte / 0x40 = 2 then some left else none
    if left = 1 then return ([UInt8.ofNat byte], rest)
    else
      let (others, rest) ← takeEscapes (some (left - 1)) rest
      return (UInt8.ofNat byte :: others, rest)
  | _ => none

/-- The characters of a tag. The marks of flow sequences belong to it if `verbatim`. -/
def takeTagText (verbatim : Bool) : Nat → List Char → Option (Tag × List Char)
  | 0, text => some ([], text)
  | fuel + 1, text => match text with
    | [] => some ([], [])
    | c :: rest =>
      if c = '%' then do
        let (bytes, rest) ← takeEscapes none (c :: rest)
        let (others, rest) ← takeTagText verbatim fuel rest
        return (bytes ++ others, rest)
      else if isTagCharacter c ∨ (verbatim ∧ (c = ',' ∨ c = '[' ∨ c = ']')) then do
        let (others, rest) ← takeTagText verbatim fuel rest
        return (Tag.ofChars [c] ++ others, rest)
      else some ([], c :: rest)

def tagText (verbatim : Bool) (text : List Char) : Option (Tag × List Char) :=
  takeTagText verbatim text.length text

/-- An exclamation mark and the word behind it, with a second mark if there is one. -/
def takeHandle : List Char → Option (List Char × List Char)
  | '!' :: rest =>
    let word := rest.takeWhile isWord
    match rest.dropWhile isWord with
    | '!' :: rest => some ('!' :: word ++ ['!'], rest)
    | rest => some ('!' :: word, rest)
  | _ => none

/-- A handle that another mark closes. -/
def isClosed (handle : List Char) : Bool := 2 ≤ handle.length ∧ handle.getLast? = some '!'

/-- A tag written out between angle brackets, one with a handle, or one behind a single mark. -/
def takeTagBody : List Char → Option (Token × List Char)
  | '!' :: '<' :: rest => do
    let (suffix, rest) ← tagText true rest
    match suffix, rest with
    | _ :: _, '>' :: rest => some (.tag [] suffix.untilNul, rest)
    | _, _ => none
  | text => do
    let (handle, rest) ← takeHandle text
    let (suffix, rest) ← tagText false rest
    if isClosed handle then
      if suffix.isEmpty then none else some (.tag handle suffix.untilNul, rest)
    else
      let suffix := (Tag.ofChars (handle.drop 1) ++ suffix).untilNul
      if suffix.isEmpty then some (.tag [] (Tag.ofChars ['!']), rest)
      else some (.tag ['!'] suffix, rest)

/-- A tag ends where a word ends, or before a comma in a flow collection. -/
def takeTag (flow : Bool) (text : List Char) : Option (Token × List Char) := do
  let (token, rest) ← takeTagBody text
  if endsWord rest ∨ (flow ∧ rest.head? = some ',') then return (token, rest) else none

/-! ### Directives -/

/-- A number of at most nine digits. -/
def takeVersionNumber (text : List Char) : Option (Nat × List Char) :=
  let digits := text.takeWhile Char.isDigit
  if digits.isEmpty ∨ 9 < digits.length then none
  else some (digits.foldl (fun n c => n * 10 + (c.toNat - '0'.toNat)) 0,
    text.dropWhile Char.isDigit)

def takeVersion (text : List Char) : Option (Token × List Char) := do
  let (major, rest) ← takeVersionNumber (text.dropWhile isBlank)
  match rest with
  | '.' :: rest => do
    let (minor, rest) ← takeVersionNumber rest
    return (.version major minor, rest)
  | _ => none

def takeShorthand (text : List Char) : Option (Token × List Char) := do
  let (handle, rest) ← takeHandle (text.dropWhile isBlank)
  if (isClosed handle ∨ handle = ['!']) ∧ rest.head?.any isBlank then
    let (expansion, rest) ← tagText true (rest.dropWhile isBlank)
    if expansion.isEmpty ∨ ¬ endsWord rest then none
    else return (.shorthand handle expansion.untilNul, rest)
  else none

/-- The directive behind a percent sign, with the rest of its line. -/
def takeDirective (text : List Char) : Option (Token × List Char) := do
  let name := text.takeWhile isWord
  let rest := text.dropWhile isWord
  let (token, rest) ←
    if ¬ endsWord rest then none
    else if name = ['Y', 'A', 'M', 'L'] then takeVersion rest
    else if name = ['T', 'A', 'G'] then takeShorthand rest
    else none
  return (token, ← takeLineRest rest)

end Yaml

end PipelineManifest
