import PipelineManifest.Graph.Node
import PipelineManifest.Environment

/-!
Graph-building functions, registered under the path of a module and a name in it.
-/

namespace PipelineManifest

/-- Builds the nodes of a pipeline in an environment, or fails with a text. -/
abbrev GraphFunction := Environment → Except String (List Node)

/-- Why no function is found. -/
inductive LoadError
  | moduleNotFound (path : String)
  | functionNotFound (path function : String)
deriving DecidableEq, Repr

def LoadError.message : LoadError → String
  | .moduleNotFound path => s!"Module not found: '{path}'"
  | .functionNotFound path function => s!"Function '{function}' not found in module '{path}'"

/-- The functions of each module. -/
structure Registry where
  modules : Dictionary (Dictionary GraphFunction)

namespace Registry

def empty : Registry := ⟨∅⟩

/-- Registers a function, over an older one of the same module and name. -/
def register (registry : Registry) (path name : String) (function : GraphFunction) : Registry :=
  ⟨registry.modules.insert path (((registry.modules.find? path).getD ∅).insert name function)⟩

/-- The names of the functions of a module, in order. -/
def functions? (registry : Registry) (path : String) : Option (List String) :=
  (registry.modules.find? path).map (·.keys)

def resolve (registry : Registry) (path name : String) : Except LoadError GraphFunction :=
  match registry.modules.find? path with
  | none => .error (.moduleNotFound path)
  | some functions => match functions.find? name with
    | none => .error (.functionNotFound path name)
    | some function => .ok function

end Registry

end PipelineManifest
