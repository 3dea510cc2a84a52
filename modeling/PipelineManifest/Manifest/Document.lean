import PipelineManifest.Files.Tree
import PipelineManifest.Manifest.Backend
import PipelineManifest.Manifest.Format

/-!
Manifest documents. `Manifest.compile` orders a graph, lets a backend write it to a file of its
own and reads the document back from there; a pipeline specification is put into a job.
-/

namespace PipelineManifest

namespace Manifest

/-- Reads a manifest from a file. -/
def readAt (tree : FileTree) (directory : Location) (path : String) :
    Except CompileError Json := do
  let format ← ManifestFormat.ofPath path
  match tree.entryAt directory (Path.ofText path) with
  | .error error => throw (.file error)
  | .ok .directory => throw (.malformedManifest path)
  | .ok (.file contents) => match format.read contents with
    | some document => return document
    | none => throw (.malformedManifest path)

/-- The directory that a backend writes to. Nothing else is in it, and it is kept by nobody. -/
def scratchDirectory : Location := ["tmp", "scratch-01"]

def scratchTree : FileTree :=
  (FileTree.empty.put ["tmp"] .directory).put scratchDirectory .directory

/-- The path of a file in the scratch directory, unless its name begins at the root. -/
def scratchPath (name : String) : String :=
  if (Path.ofText name).absolute then name else "/tmp/scratch-01/" ++ name

/-- The manifest that a backend writes, as it is read back. -/
def native (backend : Backend) (definition : Definition) : Except CompileError Json := do
  let path := scratchPath backend.nativeFile
  let tree ← match ← backend.emit definition with
    | none => pure scratchTree
    | some contents => match scratchTree.overwrite scratchDirectory (Path.ofText path) contents with
      | .ok written => pure written
      | .error error => throw (.file error)
  readAt tree scratchDirectory path

/-- A pipeline specification inside a job. -/
def job (specification : Json) (displayName : String) : Json :=
  .record [
    ("displayName", .string displayName),
    ("labels", .record []),
    ("pipelineSpec", specification),
    ("runtimeConfig", .record [])]

/-- The pipeline that nodes in order make up. -/
def definition (settings : Settings) (nodes : List Node) (engineArguments : List String) :
    Definition where
  name := settings.sanitizedName
  displayName := settings.name
  root := settings.rootStorage
  image := settings.image
  nodes
  engineArguments
  enableCache := false

/-- The manifest of a graph. -/
def compile (backend : Backend) (settings : Settings) (nodes : List Node)
    (engineArguments : List String) : Except CompileError Json := do
  let ordered ← match Graph.order nodes with
    | .ok ordered => pure ordered
    | .error error => throw (.graph error)
  let document ← native backend (definition settings ordered engineArguments)
  match settings.executionMode with
  | .v1 => return document
  | .v2 => return job document settings.sanitizedName

/-- Writes a manifest to a file in a format. -/
def writeAt (tree : FileTree) (directory : Location) (path : String) (format : ManifestFormat)
    (document : Json) : FileTree × Except CompileError Unit :=
  match tree.write directory (Path.ofText path) (format.write document).toUTF8 with
  | (written, .ok ()) => (written, .ok ())
  | (left, .error error) => (left, .error (.file error))

end Manifest

end PipelineManifest
