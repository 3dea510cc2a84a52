import PipelineManifest.Yaml.Token

/-!
Cutting YAML text into tokens. Indentation opens and closes blocks, and a key is known as one only
when the colon behind it is found: where a key may begin, the place is kept (`PossibleKey`), and
the colon puts the tokens of a mapping there.
-/

namespace PipelineManifest

namespace Yaml

/-- A place in a text. -/
structure Mark where
  /-- The number of bytes before it. -/
  index : Nat
  line : Nat
  column : Nat
deriving DecidableEq, Repr

/-- The place behind some characters. -/
def Mark.after (mark : Mark) : List Char → Mark
  | [] => mark
  | '\r' :: '\n' :: rest => Mark.after ⟨mark.index + 2, mark.line + 1, 0⟩ rest
  | c :: rest =>
    if isBreak c then Mark.after ⟨mark.index + c.utf8Size, mark.line + 1, 0⟩ rest
    else Mark.after ⟨mark.index + c.utf8Size, mark.line, mark.column + 1⟩ rest

/-- A place where a key without a mark of its own may begin. -/
structure PossibleKey where
  /-- The number of tokens before it. -/
  position : Nat
  mark : Mark
  /-- Whether nothing but a key may stand there. -/
  required : Bool

/-- How many bytes may stand before the colon of a key. -/
def keyLimit : Nat := 1024

structure Lexer where
  rest : List Char
  mark : Mark
  /-- The tokens that are found, the last first. -/
  found : List Token
  count : Nat
  /-- The column of the innermost block, or -1 outside of all. -/
  indent : Int
  outerIndents : List Int
  /-- Whether a key may begin here. -/
  keyAllowed : Bool
  /-- The possible key of the innermost flow collection, and those around it. -/
  possibleKey : Option PossibleKey
  outerKeys : List (Option PossibleKey)

namespace Lexer

def ofText (text : List Char) : Lexer :=
  ⟨text, ⟨0, 0, 0⟩, [], 0, -1, [], true, none, []⟩

def inFlow (lexer : Lexer) : Bool := !lexer.outerKeys.isEmpty

/-- Goes over some characters. -/
def skip (lexer : Lexer) (length : Nat) : Lexer :=
  { lexer with
    rest := lexer.rest.drop length
    mark := lexer.mark.after (lexer.rest.take length) }

/-- Goes on to what is left of the text. -/
def moveTo (lexer : Lexer) (rest : List Char) : Lexer :=
  lexer.skip (lexer.rest.length - rest.length)

def emit (lexer : Lexer) (token : Token) : Lexer :=
  { lexer with found := token :: lexer.found, count := lexer.count + 1 }

/-- Puts tokens, in order, where `position` tokens stand before them. -/
def insertAt (lexer : Lexer) (position : Nat) (tokens : List Token) : Lexer :=
  let later := lexer.found.take (lexer.count - position)
  let earlier := lexer.found.drop (lexer.count - position)
  { lexer with
    found := later ++ tokens.reverse ++ earlier
    count := lexer.count + tokens.length }

/-! ### Blocks -/

def openBlock (lexer : Lexer) (column : Nat) : Lexer :=
  { lexer with indent := column, outerIndents := lexer.indent :: lexer.outerIndents }

/-- Opens a block at a column that is indented further than the block around it. -/
def rollIndent (lexer : Lexer) (column position : Nat) (token : Token) : Lexer :=
  if ¬ lexer.inFlow ∧ lexer.indent < column then
    (lexer.openBlock column).insertAt position [token]
  else lexer

/-- Closes the blocks that a column is not indented into. -/
def closeBlocks (lexer : Lexer) (column indent : Int) (outer : List Int) : Lexer :=
  if indent ≤ column then { lexer with indent, outerIndents := outer }
  else match outer with
    | [] => { lexer with indent, outerIndents := outer }
    | next :: outer => closeBlocks (lexer.emit .blockEnd) column next outer

def unrollIndent (lexer : Lexer) (column : Int) : Lexer :=
  if lexer.inFlow then lexer else lexer.closeBlocks column lexer.indent lexer.outerIndents

/-! ### Keys -/

/-- Gives up the possible key, which must not be a required one. -/
def dropKey (lexer : Lexer) : Option Lexer :=
  if lexer.possibleKey.any (·.required) then none
  else some { lexer with possibleKey := none }

/-- Keeps the place of a possible key, if one may begin here. -/
def saveKey (lexer : Lexer) : Option Lexer :=
  if lexer.keyAllowed then do
    let required := ¬ lexer.inFlow ∧ lexer.indent = lexer.mark.column
    let lexer ← lexer.dropKey
    return { lexer with possibleKey := some ⟨lexer.count, lexer.mark, required⟩ }
  else some lexer

/-- Whether the colon of a key can be found no more: a key is on one line and not too long. -/
def isStale (mark : Mark) (key : PossibleKey) : Bool :=
  key.mark.line < mark.line ∨ key.mark.index + keyLimit < mark.index

def withoutStale (mark : Mark) : Option PossibleKey → Option (Option PossibleKey)
  | none => some none
  | some key =>
    if isStale mark key then if key.required then none else some none else some (some key)

/-- Gives up the possible key if it is stale. One of an outer collection is looked at when it is the
innermost again, since a stale key stays stale. -/
def dropStaleKey (lexer : Lexer) : Option Lexer := do
  let possibleKey ← withoutStale lexer.mark lexer.possibleKey
  return { lexer with possibleKey }

/-! ### Between tokens -/

/-- Where in a line the walk to the next token is. -/
inductive Place
  | lineStart
  | inside
  | comment
deriving DecidableEq

/-- Passes over blanks, comments and line ends: whether a key may begin behind them, and how many
characters they are, with those `passed` before. Behind a line end a key may begin, unless in a flow
collection. Where a key may begin, a tab is no blank. -/
def passGap (flow : Bool) (place : Place) (keyAllowed : Bool) (passed : Nat) :
    List Char → Bool × Nat
  | [] => (keyAllowed, passed)
  | c :: rest =>
    if isBreak c then passGap flow .lineStart (keyAllowed ∨ ¬ flow) (passed + 1) rest
    else if place = .comment then passGap flow .comment keyAllowed (passed + 1) rest
    else if c = byteOrderMark ∧ place = .lineStart then
      passGap flow .inside keyAllowed (passed + 1) rest
    else if c = ' ' ∨ (c = '\t' ∧ (flow ∨ ¬ keyAllowed)) then
      passGap flow .inside keyAllowed (passed + 1) rest
    else if c = '#' then passGap flow .comment keyAllowed (passed + 1) rest
    else (keyAllowed, passed)

def toNextToken (lexer : Lexer) : Lexer :=
  let place : Place := if lexer.mark.column = 0 then .lineStart else .inside
  let (keyAllowed, passed) := passGap lexer.inFlow place lexer.keyAllowed 0 lexer.rest
  { lexer.skip passed with keyAllowed }

/-! ### Tokens -/

def allowKey (lexer : Lexer) (keyAllowed : Bool) : Lexer := { lexer with keyAllowed }

def documentMarker (lexer : Lexer) (token : Token) : Option Lexer := do
  let lexer ← (lexer.unrollIndent (-1)).dropKey
  return ((lexer.allowKey false).skip 3).emit token

def directive (lexer : Lexer) : Option Lexer := do
  let lexer ← (lexer.unrollIndent (-1)).dropKey
  let (token, rest) ← takeDirective (lexer.rest.drop 1)
  return ((lexer.allowKey false).moveTo rest).emit token

def flowStart (lexer : Lexer) (token : Token) : Option Lexer := do
  let lexer ← lexer.saveKey
  let lexer := { lexer with
    outerKeys := lexer.possibleKey :: lexer.outerKeys
    possibleKey := none }
  return ((lexer.allowKey true).skip 1).emit token

def flowEnd (lexer : Lexer) (token : Token) : Option Lexer := do
  let lexer ← lexer.dropKey
  let lexer := match lexer.outerKeys with
    | [] => lexer
    | key :: outer => { lexer with possibleKey := key, outerKeys := outer }
  return ((lexer.allowKey false).skip 1).emit token

def flowEntry (lexer : Lexer) : Option Lexer := do
  let lexer ← lexer.dropKey
  return ((lexer.allowKey true).skip 1).emit .flowEntry

/-- Opens a block here for an entry or a key, where one may begin. -/
def openHere (lexer : Lexer) (token : Token) : Option Lexer :=
  if lexer.inFlow then some lexer
  else if lexer.keyAllowed then some (lexer.rollIndent lexer.mark.column lexer.count token)
  else none

def blockEntry (lexer : Lexer) : Option Lexer := do
  let lexer ← (← lexer.openHere .blockSequenceStart).dropKey
  return ((lexer.allowKey true).skip 1).emit .blockEntry

def key (lexer : Lexer) : Option Lexer := do
  let lexer ← (← lexer.openHere .blockMappingStart).dropKey
  return ((lexer.allowKey (!lexer.inFlow)).skip 1).emit .key

/-- A colon makes a key of what stands at the possible key; without one it begins a value whose
key is empty or stands behind a mark. -/
def value (lexer : Lexer) : Option Lexer := do
  let lexer ← match lexer.possibleKey with
    | some key =>
      let lexer := (lexer.insertAt key.position [.key]).rollIndent key.mark.column key.position
        .blockMappingStart
      some { lexer with possibleKey := none, keyAllowed := false }
    | none => do
      let lexer ← lexer.openHere .blockMappingStart
      some (lexer.allowKey (!lexer.inFlow))
  return (lexer.skip 1).emit .value

/-- A token that may be the beginning of a key. -/
def keyToken (lexer : Lexer) (taken : Option (Token × List Char)) : Option Lexer := do
  let lexer ← lexer.saveKey
  let (token, rest) ← taken
  return ((lexer.allowKey false).moveTo rest).emit token

def quoted (lexer : Lexer) (pieces : Pieces) : Option Lexer :=
  lexer.keyToken (pieces.map fun (pieces, rest) => (.scalar false (joinPieces .empty pieces), rest))

def block (lexer : Lexer) (literal : Bool) : Option Lexer := do
  let lexer ← lexer.dropKey
  let (text, rest) ← blockScalar literal lexer.indent (lexer.rest.drop 1)
  return ((lexer.allowKey true).moveTo rest).emit (.scalar false text)

/-- Behind a plain scalar that ends behind a line end, a key may begin. -/
def plain (lexer : Lexer) : Option Lexer := do
  let lexer ← lexer.saveKey
  let (text, broken, rest) ←
    plainScalar lexer.inFlow (lexer.indent + 1) lexer.mark.column lexer.rest
  return ((lexer.allowKey broken).moveTo rest).emit (.scalar true text)

/-- The characters that no plain scalar begins with. -/
def isMark (c : Char) : Bool :=
  isFlowMark c ∨ c ∈ ['-', '?', ':', '#', '&', '*', '!', '|', '>', '\'', '"', '%', '@'] ∨
    c.toNat = 0x60

/-- Whether a plain scalar begins here. A hyphen begins one before anything but a blank, and
outside of flow collections so do a question mark and a colon before a character of the same word.
-/
def beginsPlain (flow : Bool) : List Char → Bool
  | [] => false
  | c :: rest =>
    ¬ (isBlank c ∨ isBreak c ∨ isMark c) ∨ (c = '-' ∧ ¬ rest.head?.any isBlank) ∨
      (¬ flow ∧ (c = '?' ∨ c = ':') ∧ ¬ endsWord rest)

/-- Takes the token that begins with a character. -/
def takeToken (lexer : Lexer) (c : Char) (behind : List Char) : Option Lexer :=
  if lexer.mark.column = 0 ∧ c = '%' then lexer.directive
  else if lexer.mark.column = 0 ∧ isMarker '-' lexer.rest then
    lexer.documentMarker .documentStart
  else if lexer.mark.column = 0 ∧ isMarker '.' lexer.rest then lexer.documentMarker .documentEnd
  else if c = '[' then lexer.flowStart .flowSequenceStart
  else if c = '{' then lexer.flowStart .flowMappingStart
  else if c = ']' then lexer.flowEnd .flowSequenceEnd
  else if c = '}' then lexer.flowEnd .flowMappingEnd
  else if c = ',' then lexer.flowEntry
  else if c = '-' ∧ endsWord behind then lexer.blockEntry
  else if c = '?' ∧ (lexer.inFlow ∨ endsWord behind) then lexer.key
  else if c = ':' ∧ (lexer.inFlow ∨ endsWord behind) then lexer.value
  else if c = '*' then
    lexer.keyToken ((takeName behind).map fun (name, rest) => (.alias name, rest))
  else if c = '&' then
    lexer.keyToken ((takeName behind).map fun (name, rest) => (.anchor name, rest))
  else if c = '!' then lexer.keyToken (takeTag lexer.inFlow lexer.rest)
  else if c = '|' ∧ ¬ lexer.inFlow then lexer.block true
  else if c = '>' ∧ ¬ lexer.inFlow then lexer.block false
  else if c = '\'' then lexer.quoted (singleQuoted behind)
  else if c = '"' then lexer.quoted (doubleQuoted behind)
  else if beginsPlain lexer.inFlow lexer.rest then lexer.plain
  else none

/-- Takes tokens to the end of the text, where all blocks end. Each token takes a character at
least. -/
def run : Nat → Lexer → Option (List Token)
  | 0, _ => none
  | fuel + 1, lexer => do
    let lexer ← lexer.toNextToken.dropStaleKey
    let lexer := lexer.unrollIndent lexer.mark.column
    match lexer.rest with
    | [] =>
      let lexer ← (lexer.unrollIndent (-1)).dropKey
      return lexer.found.reverse
    | c :: behind => run fuel (← lexer.takeToken c behind)

end Lexer

/-- The tokens of a text. -/
def tokens (text : List Char) : Option (List Token) :=
  if text.all isAllowed then (Lexer.ofText text).run (text.length + 1) else none

end Yaml

end PipelineManifest
