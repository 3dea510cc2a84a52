/-!
Paths of files. A path is a text that is cut at its slashes (`Path.ofText`). Two slashes or a dot
between two of them lead nowhere, but they count for the length of the path.
-/

namespace PipelineManifest

/-- What stands behind the last name of a path. -/
inductive PathEnding
  | bare
  | slash
  /-- A dot, as a name of its own. -/
  | dot
deriving DecidableEq, Repr

/-- A path by the pieces of its text between the slashes. -/
structure Path where
  pieces : List String
deriving DecidableEq, Repr

/-- Cuts a text at each of a character. -/
def splitAll (c : Char) : List Char → List (List Char)
  | [] => [[]]
  | first :: rest =>
    if first = c then [] :: splitAll c rest
    else match splitAll c rest with
      | [] => [[first]]
      | piece :: pieces => (first :: piece) :: pieces

namespace Path

def ofText (text : String) : Path := ⟨(splitAll '/' text.toList).map String.ofList⟩

/-- The number of bytes of the text of a path. -/
def size (path : Path) : Nat :=
  path.pieces.foldr (fun piece total => piece.utf8ByteSize + total) (path.pieces.length - 1)

/-- Whether a path begins at the root of all directories. -/
def absolute (path : Path) : Bool := path.pieces.head? = some "" ∧ 2 ≤ path.pieces.length

/-- The name that leads out of a directory. -/
def parentName : String := ".."

def isName (piece : String) : Bool := piece ≠ "" ∧ piece ≠ "."

/-- The names of a path, in order; two dots lead out of a directory. -/
def steps (path : Path) : List String := path.pieces.filter isName

def ending (path : Path) : PathEnding :=
  let tail := path.pieces.reverse.takeWhile (!isName ·)
  if "." ∈ tail then .dot else if tail.isEmpty then .bare else .slash

/-- The path of the directory that holds what the last name leads to. -/
def directory (path : Path) : Path :=
  let before := ((path.pieces.reverse.dropWhile (!isName ·)).drop 1).dropWhile (!isName ·)
  if before.isEmpty ∧ path.absolute then ⟨["", ""]⟩ else ⟨before.reverse⟩

/-- Whether a name has a NUL in it, which no file can have. -/
def hasNul (path : Path) : Bool := path.pieces.any fun piece => piece.toList.contains '\x00'

/-- The name of the file that a path leads to. -/
def fileName? (path : Path) : Option String := path.steps.getLast?.filter (· ≠ parentName)

/-- Cuts a name at its last dot. A dot at the start of a name is a part of it. -/
def cutExtension (name : List Char) : Option (List Char) :=
  match (splitAll '.' name).reverse with
  | extension :: before =>
    if before.all (·.isEmpty) ∧ before.length ≤ 1 then none else some extension
  | [] => none

/-- What stands behind the last dot of the name of the file. -/
def extension? (path : Path) : Option String := do
  return .ofList (← cutExtension (← path.fileName?).toList)

end Path

example : (Path.ofText "a//./b/").steps = ["a", "b"] := by decide +kernel
example : (Path.ofText "a//./b/").ending = .slash := by decide +kernel
example : (Path.ofText "./a//b/./c.json").directory = Path.ofText "./a//b" := by decide +kernel
example : (Path.ofText "/a.json").directory = Path.ofText "/" := by decide +kernel
example : (Path.ofText "/a//é/.").size = 8 := by decide +kernel
example : (Path.ofText "a\x00/b.json").hasNul := by decide +kernel
example : (Path.ofText "out/.json").extension? = none := by decide +kernel
example : (Path.ofText "out/a.b.yml/.").extension? = some "yml" := by decide +kernel
example : (Path.ofText "out/..").extension? = none := by decide +kernel

end PipelineManifest
