import PipelineManifest.Error
import PipelineManifest.Files.Path

/-!
Directories and files in memory. A path is followed step by step (`FileTree.walk`), so that an error
tells which step fails first; a path that cannot be followed at all is refused before that
(`Path.check`). `FileTree.replace` puts a whole file in the place of an older one or fails and
leaves everything as it is; only the directories made before it stay. Until it is whole the file has
a name of its own.
-/

namespace PipelineManifest

/-- How many bytes a name may have. -/
def nameLimit : Nat := 255

/-- How many bytes a path may have. -/
def pathLimit : Nat := 4095

/-- Refuses a path that cannot be followed, whatever the files are. -/
def Path.check (path : Path) : Except FileError Unit :=
  if path.hasNul then .error .nulInPath
  else if pathLimit < path.size then .error .nameTooLong
  else .ok ()

/-- A place in the tree, by the names on the way from the root. -/
abbrev Location := List String

/-- The number of bytes of the path from the root to a place. -/
def Location.size (location : Location) : Nat :=
  location.foldr (fun name total => 1 + name.utf8ByteSize + total) 0

inductive Entry
  | directory
  | file (contents : ByteArray)

/-- Whether two entries are directories, or files of the same bytes. -/
def Entry.same : Entry → Entry → Bool
  | .directory, .directory => true
  | .file first, .file second => first.data = second.data
  | _, _ => false

/-- What is found at each place below the root. -/
structure FileTree where
  entries : List (Location × Entry)

namespace FileTree

def empty : FileTree := ⟨[]⟩

def find? (tree : FileTree) (location : Location) : Option Entry :=
  if location = [] then some .directory else tree.entries.lookup location

/-- Takes away what is at a place. -/
def remove (tree : FileTree) (location : Location) : FileTree :=
  ⟨tree.entries.filter (·.1 ≠ location)⟩

def put (tree : FileTree) (location : Location) (entry : Entry) : FileTree :=
  ⟨(location, entry) :: (tree.remove location).entries⟩

@[simp] theorem find?_root (tree : FileTree) : tree.find? [] = some .directory := rfl

theorem lookup_filter_ne {α : Type} {location other : Location} (apart : other ≠ location) :
    ∀ entries : List (Location × α),
      (entries.filter (·.1 ≠ location)).lookup other = entries.lookup other
  | [] => rfl
  | (place, entry) :: rest => by
    have ih := lookup_filter_ne apart rest
    by_cases taken : place = location
    · subst taken
      rw [List.filter_cons_of_neg (by simp), ih, List.lookup_cons, beq_false_of_ne apart]
    · rw [List.filter_cons_of_pos (by simp [taken]), List.lookup_cons, List.lookup_cons, ih]

theorem find?_remove (tree : FileTree) {location other : Location} (apart : other ≠ location) :
    (tree.remove location).find? other = tree.find? other := by
  rw [find?, find?, remove, lookup_filter_ne apart]

theorem find?_put_self (tree : FileTree) {location : Location} (inside : location ≠ [])
    (entry : Entry) : (tree.put location entry).find? location = some entry := by
  simp [find?, put, inside]

theorem find?_put_of_ne (tree : FileTree) {location other : Location} (apart : other ≠ location)
    (entry : Entry) : (tree.put location entry).find? other = tree.find? other := by
  rw [← find?_remove tree apart, find?, find?, put, List.lookup_cons, beq_false_of_ne apart]

/-- To take away what was put where nothing was is to leave the tree as it was. -/
theorem remove_put (tree : FileTree) {location : Location} (free : tree.find? location = none)
    (entry : Entry) : (tree.put location entry).remove location = tree := by
  have absent : ∀ held ∈ tree.entries, held.1 ≠ location := by
    intro held member same
    have inside : location ≠ [] := fun root => by simp [root] at free
    rw [find?, if_neg inside, List.lookup_eq_none_iff] at free
    simpa [same] using free held member
  have kept := List.filter_eq_self.2 fun held member => decide_eq_true (absent held member)
  simp only [remove, put, ne_eq, not_true_eq_false, decide_false, Bool.false_eq_true,
    not_false_eq_true, List.filter_cons_of_neg, kept]

/-! ### Following paths -/

/-- Checks that a directory is at a place. -/
def enter (tree : FileTree) (location : Location) : Except FileError Unit :=
  match tree.find? location with
  | none => .error .notFound
  | some (.file _) => .error .notDirectory
  | some .directory => .ok ()

/-- The place that one step leads to from a directory. Nothing need be there. -/
def step (tree : FileTree) (location : Location) (name : String) : Except FileError Location := do
  tree.enter location
  if name = Path.parentName then return location.dropLast
  if nameLimit < name.utf8ByteSize then throw .nameTooLong
  return location ++ [name]

/-- The place that some steps lead to, each but the last to a directory. -/
def walk (tree : FileTree) (location : Location) (steps : List String) :
    Except FileError Location :=
  steps.foldlM tree.step location

/-- Where a path begins that is followed from a directory. -/
def start (directory : Location) (path : Path) : Location :=
  if path.absolute then [] else directory

/-- What a path leads to. Only a directory may have something behind its name. -/
def entryAt (tree : FileTree) (directory : Location) (path : Path) : Except FileError Entry := do
  path.check
  if ¬ path.absolute ∧ path.steps = [] ∧ path.ending = .bare then throw .notFound
  match tree.find? (← tree.walk (start directory path) path.steps) with
  | none => throw .notFound
  | some .directory => return .directory
  | some (.file contents) =>
    if path.ending = .bare then return .file contents else throw .notDirectory

/-- Whether a path leads to something. -/
def leadsTo (tree : FileTree) (directory : Location) (path : Path) : Bool :=
  (tree.entryAt directory path).isOk

/-- The bytes of a file. -/
def read (tree : FileTree) (directory : Location) (path : Path) : Except FileError ByteArray := do
  match ← tree.entryAt directory path with
  | .file contents => return contents
  | .directory => throw .isDirectory

/-- The places that a path leads through, the last one last. -/
def places (location : Location) : List String → List Location
  | [] => []
  | name :: rest =>
    let next := if name = Path.parentName then location.dropLast else location ++ [name]
    next :: places next rest

/-- What is put into a tree after an earlier one, the oldest first. -/
def since (tree earlier : FileTree) : List (Location × Entry) :=
  (tree.entries.filter fun entry =>
    !(earlier.entries.lookup entry.1).any (·.same entry.2)).reverse

/-! ### Making directories -/

/-- The directory at a place, which is made if nothing is there. -/
def provideDirectory (tree : FileTree) (location : Location) :
    FileTree × Except FileError Location :=
  match tree.find? location with
  | none => (tree.put location .directory, .ok location)
  | some .directory => (tree, .ok location)
  | some (.file _) => (tree, .error .alreadyExists)

/-- The directory that some names lead to, which is made with those around it if they are missing.
The names are given from the last to the first. Directories that are made before an error stay. -/
def provideDirectories (tree : FileTree) (outer : Location) :
    List String → FileTree × Except FileError Location
  | [] => (tree, .ok outer)
  | name :: before =>
    match tree.walk outer (name :: before).reverse with
    | .ok location => tree.provideDirectory location
    | .error .notFound => match tree.provideDirectories outer before with
      | (made, .error error) => (made, .error error)
      | (made, .ok around) => match made.step around name with
        | .ok location => made.provideDirectory location
        | .error error => (made, .error error)
    | .error error => (tree, .error error)

/-! ### Writing files -/

/-- Checks that a file that is whole can be put at a place, by a path with some ending. -/
def checkTarget (tree : FileTree) (location : Location) (ending : PathEnding) :
    Except FileError Unit :=
  match tree.find? location, ending with
  | some .directory, .bare => .error .isDirectory
  | some .directory, .dot => .error .busy
  | none, .dot => .error .notFound
  | _, .bare => .ok ()
  | _, _ => .error .notDirectory

/-- Moves a file to where a path leads, over an older file. -/
def rename (tree : FileTree) (source directory : Location) (path : Path) :
    Except FileError FileTree := do
  path.check
  let target ← tree.walk (start directory path) path.steps
  if path.fileName?.isNone then throw .busy
  tree.checkTarget target path.ending
  match tree.find? source with
  | some (.file contents) => return (tree.remove source).put target (.file contents)
  | _ => throw .notFound

/-- The characters that tell unfinished files apart. -/
def unfinishedMarks : List Char :=
  "ABCDEFGHIJKLMNOPQRSTUVWXYZabcdefghijklmnopqrstuvwxyz0123456789".toList

/-- The names that a file can have until it is whole: a beginning with six marks behind it. -/
def unfinishedName (n : Nat) : String :=
  ".tmp" ++ .ofList ((List.range 6).map fun place =>
    unfinishedMarks.getD (n / Nat.pow unfinishedMarks.length place % unfinishedMarks.length) 'A')

/-- The number of bytes of such a name. -/
def unfinishedNameSize : Nat := 10

/-- Checks that an unfinished file can be made in the directory of a path. It is named by a path
from the root. -/
def checkUnfinished (directory : Location) (path : Path) : Except FileError Unit :=
  let around := if path.absolute then 0 else Location.size directory + 1
  if pathLimit < around + max 1 path.directory.size + 1 + unfinishedNameSize then
    .error .nameTooLong
  else .ok ()

/-- A place in a directory for a file that is not whole yet. Nothing is there. -/
def unfinishedPlace? (tree : FileTree) (around : Location) : Option Location :=
  ((List.range (tree.entries.length + 1)).map fun n => around ++ [unfinishedName n]).find?
    fun location => (tree.find? location).isNone

/-- Makes a file in a directory, at a place of its own. -/
def createUnfinished (tree : FileTree) (around : Location) (contents : ByteArray) :
    Except FileError (FileTree × Location) := do
  tree.enter around
  match tree.unfinishedPlace? around with
  | none => throw .alreadyExists
  | some unfinished => return (tree.put unfinished (.file contents), unfinished)

/-- Puts a whole file where a path leads, over an older file. It is made in the directory around the
path first, and is taken away from there if it cannot be moved. -/
def replace (tree : FileTree) (around directory : Location) (path : Path) (contents : ByteArray) :
    FileTree × Except FileError Unit :=
  match checkUnfinished directory path >>= fun () => tree.createUnfinished around contents with
  | .error error => (tree, .error error)
  | .ok (begun, unfinished) => match begun.rename unfinished directory path with
    | .ok whole => (whole, .ok ())
    | .error error => (begun.remove unfinished, .error error)

/-- Writes a whole file or none. The directories around it are made first. -/
def write (tree : FileTree) (directory : Location) (path : Path) (contents : ByteArray) :
    FileTree × Except FileError Unit :=
  match path.directory.check with
  | .error error => (tree, .error error)
  | .ok () =>
    match tree.provideDirectories (start directory path) path.steps.dropLast.reverse with
    | (made, .error error) => (made, .error error)
    | (made, .ok around) => made.replace around directory path contents

/-- Puts bytes into the file that a path leads to, which is made if nothing is there. A path that
ends like one of a directory is refused as one. -/
def overwrite (tree : FileTree) (directory : Location) (path : Path) (contents : ByteArray) :
    Except FileError FileTree := do
  path.check
  match path.fileName?, path.ending with
  | some _, .bare =>
    let location ← tree.walk (start directory path) path.steps
    tree.checkTarget location .bare
    return tree.put location (.file contents)
  | some _, .slash =>
    tree.enter (← tree.walk (start directory path) path.steps.dropLast)
    throw .isDirectory
  | _, _ =>
    tree.enter (← tree.walk (start directory path) path.steps)
    throw .isDirectory

end FileTree

end PipelineManifest
