import PipelineManifest.Configuration.Reader
import PipelineManifest.Graph.Expansion
import PipelineManifest.Loading
import PipelineManifest.Manifest.Document

/-!
A whole compilation, from the documents of the configuration to the manifest file. `Compilation.run`
gives the workspace as it leaves it, also when it fails.
-/

namespace PipelineManifest

/-- The files and the environment that a compilation runs in. -/
structure Workspace (σ : Type := Environment) where
  files : FileTree
  /-- Where paths begin that do not begin at the root. -/
  directory : Location
  environment : σ

namespace Workspace

variable {σ : Type}

/-- Reads a document of the configuration. -/
def readDocument {α : Type} (workspace : Workspace σ) (path : String)
    (ofText? : String → Option α) : Except CompileError α := do
  if ¬ workspace.files.leadsTo workspace.directory (Path.ofText path) then
    throw (.configuration path .missing)
  match workspace.files.read workspace.directory (Path.ofText path) with
  | .error error => throw (.file error)
  | .ok contents => match String.fromUTF8? contents with
    | none => throw (.file .notText)
    | some text => match ofText? text with
      | none => throw (.configuration path .malformed)
      | some document => return document

def pipelineDocument (workspace : Workspace σ) (path : String) :
    Except CompileError PipelineDocument :=
  workspace.readDocument path PipelineDocument.ofText?

def providerDocument (workspace : Workspace σ) (path : String) :
    Except CompileError ProviderDocument :=
  workspace.readDocument path ProviderDocument.ofText?

end Workspace

/-- What is to be compiled, and where to. -/
structure Compilation where
  /-- The path of the pipeline document. -/
  pipelinePath : String
  providerPath : Option String
  /-- The path of the manifest. Its extension says which format it has. -/
  outputPath : String
  /-- A mode that goes before that of the provider. -/
  executionMode : Option ExecutionMode
deriving DecidableEq, Repr

/-- What is known about a manifest that is written. -/
structure Report where
  outputPath : String
  format : ManifestFormat
  executionMode : ExecutionMode
  pipelineName : String
  /-- Whether a deployment node was added. -/
  expanded : Bool
  nodeCount : Nat
  arguments : Arguments
deriving DecidableEq

namespace Compilation

variable {σ : Type}

/-- The settings of the documents. -/
def settings (compilation : Compilation) (workspace : Workspace σ) :
    Except CompileError Settings := do
  let pipeline ← workspace.pipelineDocument compilation.pipelinePath
  let provider ← compilation.providerPath.mapM workspace.providerDocument
  let settings ← Settings.resolve pipeline provider
  return match compilation.executionMode with
    | some executionMode => { settings with executionMode }
    | none => settings

/-- Runs the graph-building function with the variables of the pipeline set. They are set back
before this ends, unless one of them cannot be set at all. -/
def buildNodes [HasEnvironment σ] (registry : Registry) (settings : Settings) (state : σ) :
    σ × Except CompileError (List Node) :=
  match Pipeline.load registry settings.functionReference settings.environment state with
  | (changed, .error error) => (changed, .error error)
  | (changed, .ok pipeline) =>
    (pipeline.unload changed, pipeline.call (HasEnvironment.environment changed))

/-- The manifest of the nodes and what is known about it. -/
def assemble (compilation : Compilation) (backend : Option Backend) (format : ManifestFormat)
    (settings : Settings) (nodes : List Node) : Except CompileError (Json × Report) := do
  let expansion ← Graph.expand nodes settings.servingDirectory
  let backend := backend.getD (Backend.ofMode settings.executionMode)
  let document ← Manifest.compile backend settings expansion.nodes settings.arguments.flags
  return (document, {
    outputPath := compilation.outputPath
    format
    executionMode := settings.executionMode
    pipelineName := settings.sanitizedName
    expanded := expansion.expanded
    nodeCount := expansion.nodes.length
    arguments := settings.arguments })

/-- Compiles, with a backend in the place of that of the mode if one is given. The format of the
manifest is settled first, and nothing is written before the manifest is there. -/
def run [HasEnvironment σ] (compilation : Compilation) (registry : Registry)
    (backend : Option Backend) (workspace : Workspace σ) :
    Workspace σ × Except CompileError Report :=
  let prepared := do
    let format ← ManifestFormat.ofPath compilation.outputPath
    return (format, ← compilation.settings workspace)
  match prepared with
  | .error error => (workspace, .error error)
  | .ok (format, settings) =>
    match buildNodes registry settings workspace.environment with
    | (environment, .error error) => ({ workspace with environment }, .error error)
    | (environment, .ok nodes) =>
      let workspace := { workspace with environment }
      match compilation.assemble backend format settings nodes with
      | .error error => (workspace, .error error)
      | .ok (document, report) =>
        match Manifest.writeAt workspace.files workspace.directory compilation.outputPath format
            document with
        | (files, .error error) => ({ workspace with files }, .error error)
        | (files, .ok ()) => ({ workspace with files }, .ok report)

end Compilation

end PipelineManifest
