import PipelineManifest.Environment
import PipelineManifest.Graph.Order
import PipelineManifest.Registry
import PipelineManifest.Text.Quoted

/-!
Why a compilation fails: one type of causes, and the text of each (`CompileError.message`).
-/

namespace PipelineManifest

/-- Why an operation on the file tree fails. -/
inductive FileError
  | notFound
  | alreadyExists
  | isDirectory
  | notDirectory
  /-- A name or a whole path has too many bytes. -/
  | nameTooLong
  | nulInPath
  | busy
  | notText
deriving DecidableEq, Repr

def FileError.message : FileError → String
  | .notFound => "No such file or directory (os error 2)"
  | .alreadyExists => "File exists (os error 17)"
  | .isDirectory => "Is a directory (os error 21)"
  | .notDirectory => "Not a directory (os error 20)"
  | .nameTooLong => "File name too long (os error 36)"
  | .nulInPath => "file name contained an unexpected NUL byte"
  | .busy => "Device or resource busy (os error 16)"
  | .notText => "stream did not contain valid UTF-8"

/-- Why a document of the configuration is refused. -/
inductive DocumentFault
  | missing
  | malformed
deriving DecidableEq, Repr

def DocumentFault.message : DocumentFault → String
  | .missing => "file not found"
  | .malformed => "not a document of the expected form"

/-- Why a compilation fails. -/
inductive CompileError
  | file (cause : FileError)
  | configuration (path : String) (fault : DocumentFault)
  | missingField (field : String)
  | invalidValue (field value : String)
  | invalidReference (reference : String)
  | load (cause : LoadError)
  | functionFailed (reference text : String)
  | multipleProducers (ids : List String)
  | multipleBlessors (ids : List String)
  | graph (cause : GraphError)
  | unsupportedFormat (path : String)
  | backend (text : String)
  | malformedManifest (path : String)
  | variableRejected (entry : Variable)
deriving DecidableEq, Repr

namespace CompileError

def message : CompileError → String
  | .file cause => s!"I/O error: {cause.message}"
  | .configuration path fault => s!"Configuration error in {path}: {fault.message}"
  | .missingField field => s!"Missing required field: [{field}]"
  | .invalidValue field value => s!"Invalid value for {field}: [{value}]"
  | .invalidReference reference =>
    s!"Invalid function reference format: [{reference}]. " ++
      "Expected format: 'module_path.function_name'."
  | .load cause => s!"Failed to load pipeline function: {cause.message}"
  | .functionFailed reference text => s!"Pipeline function '{reference}' failed: {text}"
  | .multipleProducers ids =>
    "Found more than one producer node with a 'model' output (" ++ ", ".intercalate ids ++
      "), aborting"
  | .multipleBlessors ids =>
    "Found more than one node with a 'blessing' output (" ++ ", ".intercalate ids ++ "), aborting"
  | .graph cause => s!"Invalid component graph: {cause.message}"
  | .unsupportedFormat path =>
    s!"Unsupported output format for {path}: expected one of .json, .yaml, .yml"
  | .backend text => s!"Backend error: {text}"
  | .malformedManifest path => s!"Manifest error in {path}: {DocumentFault.message .malformed}"
  | .variableRejected entry =>
    s!"failed to set environment variable {Text.quoted entry.name} to {Text.quoted entry.value}"

/-- The text of the cause below an error, if it has one. -/
def cause? : CompileError → Option String
  | .file cause => some cause.message
  | .load cause => some cause.message
  | .graph cause => some cause.message
  | _ => none

end CompileError

end PipelineManifest
