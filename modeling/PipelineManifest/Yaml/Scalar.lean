import PipelineManifest.Text.Hexadecimal
import PipelineManifest.Yaml.Character

/-!
The texts of scalars. Blanks and line ends between the words of a plain or a quoted scalar form a
gap, and a gap with line ends is folded (`Gap.text`); block scalars keep their lines or fold them.
-/

namespace PipelineManifest

namespace Yaml

/-! ### Gaps -/

/-- Blanks and line ends between two words. -/
structure Gap where
  blanks : List Char
  /-- The first line end and those after it, once there is one. -/
  lines : Option (List Char × List Char)

namespace Gap

def empty : Gap := ⟨[], none⟩

/-- A gap behind an escaped line end, which leaves nothing of itself. -/
def escaped : Gap := ⟨[], some ([], [])⟩

def isBroken (gap : Gap) : Bool := gap.lines.isSome

/-- Blanks count only as long as the line goes on. -/
def addBlank (gap : Gap) (c : Char) : Gap :=
  if gap.isBroken then gap else { gap with blanks := gap.blanks ++ [c] }

def addBreak (gap : Gap) (lineEnd : List Char) : Gap :=
  match gap.lines with
  | none => { gap with lines := some (lineEnd, []) }
  | some (first, others) => { gap with lines := some (first, others ++ lineEnd) }

/-- A single line feed becomes a blank, and of several the first is dropped. -/
def text (gap : Gap) : List Char :=
  match gap.lines with
  | none => gap.blanks
  | some (first, others) =>
    if first ≠ ['\n'] then first ++ others
    else if others.isEmpty then [' '] else others

end Gap

/-! ### Quoted scalars -/

/-- What a quoted scalar is made of. -/
inductive Piece
  | char (c : Char)
  | blank (c : Char)
  | lineEnd (kept : List Char)
  | escapedLineEnd

/-- Joins pieces, folding the gaps between characters. -/
def joinPieces (gap : Gap) : List Piece → List Char
  | [] => gap.text
  | .char c :: rest => gap.text ++ c :: joinPieces .empty rest
  | .blank c :: rest => joinPieces (gap.addBlank c) rest
  | .lineEnd kept :: rest => joinPieces (gap.addBreak kept) rest
  | .escapedLineEnd :: rest => gap.text ++ joinPieces .escaped rest

/-- Pieces with the text behind the scalar. -/
abbrev Pieces := Option (List Piece × List Char)

def Pieces.push (piece : Piece) (pieces : Pieces) : Pieces :=
  pieces.map fun (others, rest) => (piece :: others, rest)

/-- A line of a quoted scalar must not begin with a document marker. -/
def Pieces.newLine (piece : Piece) (line : List Char) (pieces : Pieces) : Pieces :=
  if isAnyMarker line then none else pieces.push piece

def plainPiece (c : Char) : Piece := if isBlank c then .blank c else .char c

/-- The pieces of a scalar in single quotes, in which a quote is written twice. -/
def singleQuoted : List Char → Pieces
  | [] => none
  | '\'' :: '\'' :: rest => (singleQuoted rest).push (.char '\'')
  | '\'' :: rest => some ([], rest)
  | '\r' :: '\n' :: rest => (singleQuoted rest).newLine (.lineEnd ['\n']) rest
  | c :: rest =>
    if isBreak c then (singleQuoted rest).newLine (.lineEnd (takeBreak [c]).1) rest
    else (singleQuoted rest).push (plainPiece c)

/-- The character of a backslash and one more character. -/
def shortEscape? : Char → Option Char
  | '0' => some '\x00'
  | 'a' => some '\x07'
  | 'b' => some '\x08'
  | 't' => some '\t'
  | '\t' => some '\t'
  | 'n' => some '\n'
  | 'v' => some '\x0b'
  | 'f' => some '\x0c'
  | 'r' => some '\r'
  | 'e' => some '\x1b'
  | ' ' => some ' '
  | '"' => some '"'
  | '/' => some '/'
  | '\\' => some '\\'
  | 'N' => some '\u0085'
  | '_' => some '\u00a0'
  | 'L' => some '\u2028'
  | 'P' => some '\u2029'
  | _ => none

/-- The character of a number; surrogates and numbers that are too large have none. -/
def numberedChar? (digits : List Char) : Option Char := do
  let n ← Text.hexNumber? digits
  if n.isValidChar then some (.ofNat n) else none

/-- The pieces of a scalar in double quotes, with its escapes read. -/
def doubleQuoted : List Char → Pieces
  | [] => none
  | '"' :: rest => some ([], rest)
  | '\r' :: '\n' :: rest => (doubleQuoted rest).newLine (.lineEnd ['\n']) rest
  | '\\' :: 'x' :: a :: b :: rest => do
    let char ← numberedChar? [a, b]
    (doubleQuoted rest).push (.char char)
  | '\\' :: 'u' :: a :: b :: c :: d :: rest => do
    let char ← numberedChar? [a, b, c, d]
    (doubleQuoted rest).push (.char char)
  | '\\' :: 'U' :: a :: b :: c :: d :: e :: f :: g :: h :: rest => do
    let char ← numberedChar? [a, b, c, d, e, f, g, h]
    (doubleQuoted rest).push (.char char)
  | '\\' :: '\r' :: '\n' :: rest => (doubleQuoted rest).newLine .escapedLineEnd rest
  | '\\' :: c :: rest =>
    if isBreak c then (doubleQuoted rest).newLine .escapedLineEnd rest
    else do
      let char ← shortEscape? c
      (doubleQuoted rest).push (.char char)
  | c :: rest =>
    if isBreak c then (doubleQuoted rest).newLine (.lineEnd (takeBreak [c]).1) rest
    else (doubleQuoted rest).push (plainPiece c)

/-! ### Plain scalars -/

/-- The characters up to a blank, a line end or a mark that ends a plain scalar. In a flow
collection a colon must not stand before a mark. -/
def takeWord (flow : Bool) : List Char → Option (List Char × List Char)
  | [] => some ([], [])
  | c :: rest =>
    if isBlank c ∨ isBreak c then some ([], c :: rest)
    else if flow ∧ c = ':' ∧ (rest.head?.any fun next => isFlowMark next ∨ next = '?') then none
    else if (c = ':' ∧ endsWord rest) ∨ (flow ∧ isFlowMark c) then some ([], c :: rest)
    else (takeWord flow rest).map fun (word, rest) => (c :: word, rest)

/-- The gap at the start of a text and the column behind it. A tab must not stand in the indentation
of a further line. -/
def takeGap (indent : Int) (gap : Gap) (column : Nat) : List Char → Option (Gap × Nat × List Char)
  | [] => some (gap, column, [])
  | '\r' :: '\n' :: rest => takeGap indent (gap.addBreak ['\n']) 0 rest
  | c :: rest =>
    if isBlank c then
      if gap.isBroken ∧ column < indent ∧ c = '\t' then none
      else takeGap indent (gap.addBlank c) (column + 1) rest
    else if isBreak c then takeGap indent (gap.addBreak (takeBreak [c]).1) 0 rest
    else some (gap, column, c :: rest)

/-- A plain scalar that goes on behind a gap: its text, whether it ends behind a line end, and what
follows. It ends at a document marker, a comment, a mark or a line that is not indented. -/
def plainWords (flow : Bool) (indent : Int) :
    Nat → Gap → Nat → List Char → Option (List Char × Bool × List Char)
  | 0, gap, _, text => some ([], gap.isBroken, text)
  | fuel + 1, gap, column, text =>
    if (gap.isBroken ∧ column = 0 ∧ isAnyMarker text) ∨ text.head? = some '#' then
      some ([], gap.isBroken, text)
    else do
      let (word, rest) ← takeWord flow text
      if word.isEmpty then return ([], gap.isBroken, text)
      let (next, column, rest) ← takeGap indent .empty (column + word.length) rest
      let (others, broken, rest) ←
        if next.isBroken ∧ ¬ flow ∧ column < indent then some ([], true, rest)
        else plainWords flow indent fuel next column rest
      return (gap.text ++ word ++ others, broken, rest)

/-- The plain scalar at the start of a text. -/
def plainScalar (flow : Bool) (indent : Int) (column : Nat) (text : List Char) :
    Option (List Char × Bool × List Char) :=
  plainWords flow indent (text.length + 1) .empty column text

/-! ### Block scalars -/

/-- Which line ends a block scalar keeps at its end. -/
inductive Chomping
  | strip
  | clip
  | keep
deriving DecidableEq

/-- The header of a block scalar: which line ends it keeps, and how far its lines are indented, if
the header says so. -/
structure BlockHeader where
  chomping : Chomping
  indentation : Option Nat

def chomping? : Char → Option Chomping
  | '-' => some .strip
  | '+' => some .keep
  | _ => none

def indentation? (c : Char) : Option Nat :=
  if c.isDigit then some (c.toNat - '0'.toNat) else none

/-- The two marks of a header, in any order. -/
def headerMarks : List Char → BlockHeader × List Char
  | [] => (⟨.clip, none⟩, [])
  | first :: rest => match chomping? first, indentation? first with
    | some chomping, _ => match rest.head?.bind indentation? with
      | some indentation => (⟨chomping, some indentation⟩, rest.drop 1)
      | none => (⟨chomping, none⟩, rest)
    | none, some indentation => match rest.head?.bind chomping? with
      | some chomping => (⟨chomping, some indentation⟩, rest.drop 1)
      | none => (⟨.clip, some indentation⟩, rest)
    | none, none => (⟨.clip, none⟩, first :: rest)

/-- What follows a line that ends in blanks and a comment only. -/
def takeLineRest (text : List Char) : Option (List Char) :=
  let rest := text.dropWhile isBlank
  let rest := if rest.head? = some '#' then rest.dropWhile (!isBreak ·) else rest
  match rest with
  | [] => some []
  | c :: _ => if isBreak c then some (takeBreak rest).2 else none

/-- The header of a block scalar and the lines below it. -/
def blockHeader (text : List Char) : Option (BlockHeader × List Char) := do
  let (header, rest) := headerMarks text
  if header.indentation = some 0 then none
  else return (header, ← takeLineRest rest)

/-- The lines of a block scalar that hold nothing but indentation: their line ends, the column
that is reached behind them, the greatest column of all of them, and what follows. No `indent`
means that it is to be found out. -/
def emptyLines (indent : Option Nat) (column deepest : Nat) :
    List Char → Option (List Char × Nat × Nat × List Char)
  | [] => some ([], column, max deepest column, [])
  | '\r' :: '\n' :: rest =>
    (emptyLines indent 0 (max deepest column) rest).map fun (ends, others) => ('\n' :: ends, others)
  | c :: rest =>
    let inside := indent.all (column < ·)
    if c = ' ' ∧ inside then emptyLines indent (column + 1) deepest rest
    else if c = '\t' ∧ inside then none
    else if isBreak c then
      (emptyLines indent 0 (max deepest column) rest).map fun (ends, others) =>
        ((takeBreak [c]).1 ++ ends, others)
    else some ([], column, max deepest column, c :: rest)

/-- The text of a block scalar, with the line ends at its end apart. -/
structure BlockText where
  text : List Char
  lineEnd : List Char
  emptyEnds : List Char
  rest : List Char

/-- The lines of a block scalar behind the line end and the empty lines that stand before them.
Folding puts a blank between two lines that begin without one. -/
def blockLines (literal : Bool) (indent : Nat) :
    Nat → (lineEnd : List Char) → (afterBlank : Bool) → (emptyEnds : List Char) → (column : Nat) →
      List Char → Option BlockText
  | 0, _, _, _, _, _ => none
  | fuel + 1, lineEnd, afterBlank, emptyEnds, column, text =>
    if column ≠ indent ∨ text.isEmpty then some ⟨[], lineEnd, emptyEnds, text⟩
    else do
      let blank := text.head?.any isBlank
      let joint :=
        if ¬ literal ∧ lineEnd = ['\n'] ∧ ¬ afterBlank ∧ ¬ blank then
          if emptyEnds.isEmpty then [' '] else []
        else lineEnd
      let line := text.takeWhile (!isBreak ·)
      let (nextEnd, rest) := takeBreak (text.dropWhile (!isBreak ·))
      let (nextEmpty, nextColumn, _, rest) ← emptyLines (some indent) 0 0 rest
      let others ← blockLines literal indent fuel nextEnd blank nextEmpty nextColumn rest
      return { others with text := joint ++ emptyEnds ++ line ++ others.text }

/-- The block scalar whose header begins a text, inside a block that is indented by `outer`. -/
def blockScalar (literal : Bool) (outer : Int) (text : List Char) :
    Option (List Char × List Char) := do
  let (header, rest) ← blockHeader text
  let least := (outer + 1).toNat
  let given := header.indentation.map fun n => (max outer 0).toNat + n
  let (emptyEnds, column, deepest, rest) ← emptyLines given 0 0 rest
  let indent := given.getD (max deepest (max least 1))
  let block ← blockLines literal indent (rest.length + 1) [] false emptyEnds column rest
  let tail := match header.chomping with
    | .strip => []
    | .clip => block.lineEnd
    | .keep => block.lineEnd ++ block.emptyEnds
  return (block.text ++ tail, block.rest)

end Yaml

end PipelineManifest
