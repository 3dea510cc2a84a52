import PipelineManifest.CommandLine
import PipelineManifest.Quickstart

/-!
The program. It captures the files that the command line names, runs the command on them and puts
into the file system what the command has put into the tree.
-/

namespace PipelineManifest

namespace Program

def textOf (location : Location) : String := "/" ++ "/".intercalate location

def isDirectory (location : Location) : IO Bool := do
  try
    let _ ← IO.FS.realPath (textOf location ++ "/.")
    return true
  catch _ => return false

/-- What is at a place, if something is. -/
def entryAt? (location : Location) : IO (Option Entry) := do
  if ← isDirectory location then return some .directory
  try
    return some (.file (← IO.FS.readBinFile (textOf location)))
  catch _ => return none

def captureFiles (locations : List Location) : IO FileTree :=
  locations.foldlM (fun tree location => do
    match ← entryAt? location with
    | some entry => return tree.put location entry
    | none => return tree) .empty

/-- The paths that a command reads or writes. -/
def pathsOf : CommandLine.Command → List String
  | .compile compilation =>
    [compilation.pipelinePath, compilation.outputPath] ++ compilation.providerPath.toList
  | _ => []

def captureWorkspace (line : List String) : IO Workspace := do
  let directory := (Path.ofText (← IO.currentDir).toString).steps
  let around := FileTree.places [] directory
  let named := (pathsOf (CommandLine.parse line)).flatMap fun text =>
    let path := Path.ofText text
    FileTree.places (FileTree.start directory path) path.steps
  let dataRoot ← IO.getEnv Quickstart.dataRootVariable
  let environment := Environment.empty.put Quickstart.dataRootVariable dataRoot
  return ⟨← captureFiles (around ++ named), directory, environment⟩

/-- Puts an entry into the file system. A file is moved to its place when it is whole. -/
def place (location : Location) : Entry → IO Unit
  | .directory => IO.FS.createDir (textOf location)
  | .file contents => do
    let unfinished := textOf location ++ ".part"
    IO.FS.writeBinFile unfinished contents
    IO.FS.rename unfinished (textOf location)

def run (line : List String) : IO UInt32 := do
  let workspace ← captureWorkspace line
  let (left, outcome) := CommandLine.run Quickstart.registry line workspace
  for (location, entry) in left.files.since workspace.files do
    place location entry
  (← IO.getStdout).putStr outcome.output
  (← IO.getStderr).putStr outcome.diagnostics
  return outcome.code

end Program

end PipelineManifest

def main (arguments : List String) : IO UInt32 := PipelineManifest.Program.run arguments
