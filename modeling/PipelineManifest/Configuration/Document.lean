import PipelineManifest.Arguments
import PipelineManifest.Environment

/-!
The two documents of a compilation: the pipeline document says what is compiled, and the provider
document says where it runs.
-/

namespace PipelineManifest

/-- The pipeline document. -/
structure PipelineDocument where
  name : Option String
  image : Option String
  /-- Where artifacts are stored if there is no provider document. -/
  rootLocation : Option String
  environment : List Variable
  framework : Option String
  /-- The reference to the graph-building function. -/
  components : Option String
  /-- Another member for the same reference. -/
  pipeline : Option String
  arguments : List NamedArgument
deriving DecidableEq, Repr, Inhabited

/-- The reference to the graph-building function; `components` goes before `pipeline`. -/
def PipelineDocument.functionReference? (document : PipelineDocument) : Option String :=
  document.components <|> document.pipeline

/-- The provider document. -/
structure ProviderDocument where
  name : Option String
  executionMode : Option String
  rootStorage : Option String
  arguments : List NamedArgument
deriving DecidableEq, Repr, Inhabited

end PipelineManifest
