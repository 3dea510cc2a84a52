import PipelineManifest.Error

/-!
Loading a graph-building function by reference. The variables of the pipeline are set before the
function is looked up and stay set until `Pipeline.unload`; a look-up that fails sets them back.
-/

namespace PipelineManifest

/-- Cuts a text at the last of a character. -/
def splitLast (c : Char) (text : List Char) : Option (List Char × List Char) :=
  match text with
  | [] => none
  | first :: rest => match splitLast c rest with
    | some (before, behind) => some (first :: before, behind)
    | none => if first = c then some ([], rest) else none

/-- The module path and the function name of a reference, which its last dot separates. -/
def splitReference (reference : String) : Except CompileError (String × String) :=
  match splitLast '.' reference.toList with
  | some (path, name) => .ok (.ofList path, .ofList name)
  | none => .error (.invalidReference reference)

/-- A function that is found, with its variables set. -/
structure Pipeline where
  reference : String
  function : GraphFunction
  guard : Guard

namespace Pipeline

variable {σ : Type} [HasEnvironment σ]

/-- Sets the variables and finds the function. Without a dot in the reference nothing is set. -/
def load (registry : Registry) (reference : String) (entries : List Variable) (state : σ) :
    σ × Except CompileError Pipeline :=
  match splitReference reference with
  | .error error => (state, .error error)
  | .ok (path, name) => match Guard.apply entries state with
    | (changed, .error rejected) => (changed, .error (.variableRejected rejected))
    | (changed, .ok guard) => match registry.resolve path name with
      | .error error => (guard.restore changed, .error (.load error))
      | .ok function => (changed, .ok ⟨reference, function, guard⟩)

/-- Runs the function. -/
def call (pipeline : Pipeline) (environment : Environment) : Except CompileError (List Node) :=
  match pipeline.function environment with
  | .ok nodes => .ok nodes
  | .error text => .error (.functionFailed pipeline.reference text)

/-- Sets the variables back. -/
def unload (pipeline : Pipeline) (state : σ) : σ := pipeline.guard.restore state

end Pipeline

end PipelineManifest
