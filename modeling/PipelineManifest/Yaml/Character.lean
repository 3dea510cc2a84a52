/-!
The classes of characters in YAML text.
-/

namespace PipelineManifest

namespace Yaml

/-- What ends a line. A carriage return and the line feed behind it end one line. -/
def isBreak (c : Char) : Bool :=
  c = '\n' ∨ c = '\r' ∨ c = '\u0085' ∨ c = '\u2028' ∨ c = '\u2029'

def isBlank (c : Char) : Bool := c = ' ' ∨ c = '\t'

/-- The characters of anchors, tag handles and directive names. -/
def isWord (c : Char) : Bool := c.isAlphanum ∨ c = '_' ∨ c = '-'

/-- The marks of flow collections. -/
def isFlowMark (c : Char) : Bool := c = ',' ∨ c = '[' ∨ c = ']' ∨ c = '{' ∨ c = '}'

/-- The mark that may stand at the start of a text. -/
def byteOrderMark : Char := '\ufeff'

/-- The characters that a text may be made of. -/
def isAllowed (c : Char) : Bool :=
  c = '\t' ∨ c = '\n' ∨ c = '\r' ∨ c = '\u0085' ∨ (' ' ≤ c ∧ c ≤ '~') ∨
    ('\u00a0' ≤ c ∧ c ≤ '\ufffd') ∨ 0x10000 ≤ c.toNat

/-- The characters that can be written without an escape. -/
def isPrintable (c : Char) : Bool :=
  c = '\n' ∨ (' ' ≤ c ∧ c ≤ '~') ∨ ('\u00a0' ≤ c ∧ c ≤ '\ufffd' ∧ c ≠ byteOrderMark) ∨
    0x10000 ≤ c.toNat

/-- Whether a word ends here: at a blank, a line end or the end of the text. -/
def endsWord : List Char → Bool
  | [] => true
  | c :: _ => isBlank c ∨ isBreak c

/-- Whether a text begins with the marker that starts a document or the one that ends it. -/
def isMarker (mark : Char) : List Char → Bool
  | a :: b :: c :: rest => a = mark ∧ b = mark ∧ c = mark ∧ endsWord rest
  | _ => false

def isAnyMarker (text : List Char) : Bool := isMarker '-' text ∨ isMarker '.' text

/-- The line end at the start of a text, in the form in which scalars keep it, and what follows. All
line ends but the separators become line feeds. -/
def takeBreak : List Char → List Char × List Char
  | '\r' :: '\n' :: rest => (['\n'], rest)
  | c :: rest =>
    if c = '\u2028' ∨ c = '\u2029' then ([c], rest)
    else if isBreak c then (['\n'], rest)
    else ([], c :: rest)
  | [] => ([], [])

end Yaml

end PipelineManifest
