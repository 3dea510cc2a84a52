import PipelineManifest.Configuration.Document
import PipelineManifest.Error

/-!
What one compilation needs to know. `Settings.resolve` takes it from the pipeline document and the
provider document, if there is one.
-/

namespace PipelineManifest

/-- The family of manifests that is written. -/
inductive ExecutionMode
  /-- A workflow, as it is. -/
  | v1
  /-- A pipeline specification, inside a job. -/
  | v2
deriving DecidableEq, Repr, Inhabited

namespace ExecutionMode

def name : ExecutionMode → String
  | .v1 => "v1"
  | .v2 => "v2"

/-- The mode of a name, in small or capital letters. -/
def ofName (text : String) : Except CompileError ExecutionMode :=
  match text.toList.map Char.toLower with
  | ['v', '1'] => .ok .v1
  | ['v', '2'] => .ok .v2
  | _ => .error (.invalidValue "executionMode" text)

end ExecutionMode

structure Settings where
  name : String
  /-- The name as a segment of a path. -/
  sanitizedName : String
  rootStorage : String
  servingDirectory : String
  tempDirectory : String
  image : String
  executionMode : ExecutionMode
  environment : List Variable
  arguments : Arguments
  functionReference : String
deriving DecidableEq

namespace Settings

/-- A name in which every slash has become a hyphen. -/
def sanitize (name : String) : String :=
  .ofList (name.toList.map fun c => if c = '/' then '-' else c)

def dropSlashes (path : List Char) : List Char :=
  (path.reverse.dropWhile (· = '/')).reverse

/-- Joins a segment to a path by one slash. -/
def join (path segment : String) : String :=
  .ofList (dropSlashes path.toList ++ '/' :: segment.toList)

/-- The argument that tells the engine where to keep what it needs only while it runs. -/
def tempLocation : String := "temp_location"

def required (field : String) : Option String → Except CompileError String
  | some text => .ok text
  | none => .error (.missingField field)

/-- Where artifacts are stored, the mode and the arguments of the first layer. -/
def placement (document : PipelineDocument) :
    Option ProviderDocument → Except CompileError (Option String × ExecutionMode × Arguments)
  | none => .ok (document.rootLocation, .v1, ∅)
  | some provider => do
    let root ← required "pipelineRootStorage" provider.rootStorage
    let mode ← match provider.executionMode with
      | some name => ExecutionMode.ofName name
      | none => .ok .v1
    return (some root, mode, .ofNamed provider.arguments)

/-- The arguments with a temporary location, unless they have one. -/
def withTempLocation (arguments : Arguments) (tempDirectory : String) : Arguments :=
  if arguments.contains tempLocation then arguments
  else arguments.push tempLocation tempDirectory

/-- The paths below the root end in the sanitized name and, after it, `serving` or `tmp`. -/
def resolve (document : PipelineDocument) (provider : Option ProviderDocument) :
    Except CompileError Settings := do
  let name ← required "name" document.name
  let functionReference ←
    required "framework.parameters.components" document.functionReference?
  let (root, executionMode, defaults) ← placement document provider
  let sanitizedName := sanitize name
  let rootStorage := match root with
    | some root => join root sanitizedName
    | none => sanitizedName
  let tempDirectory := join rootStorage "tmp"
  let arguments := Arguments.merge [defaults, .ofNamed document.arguments]
  return {
    name
    sanitizedName
    rootStorage
    servingDirectory := join rootStorage "serving"
    tempDirectory
    image := document.image.getD ""
    executionMode
    environment := document.environment
    arguments := withTempLocation arguments tempDirectory
    functionReference }

end Settings

end PipelineManifest
