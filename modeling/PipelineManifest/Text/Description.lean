import PipelineManifest.Loading

/-!
Descriptions of registries, pipelines and guards for people to read.
-/

namespace PipelineManifest

def commaSeparated (texts : List String) : String := ", ".intercalate texts

def bracketed (texts : List String) : String := "[" ++ commaSeparated texts ++ "]"

def braced (text : String) : String := .ofList ('{' :: (text.toList ++ ['}']))

/-- The names of the functions of each module. -/
def Registry.description (registry : Registry) : String :=
  braced (commaSeparated (registry.modules.entries.map fun (path, functions) =>
    Text.quoted path ++ ": " ++ bracketed (functions.keys.map Text.quoted)))

def Pipeline.description (pipeline : Pipeline) : String :=
  "LoadedPipeline " ++ braced (" reference: " ++ Text.quoted pipeline.reference ++ ", .. ")

/-- The variables of a guard with what they were. -/
def Guard.description (guard : Guard) : String :=
  let entry := fun (name, value) =>
    "(" ++ Text.quoted name ++ ", " ++ (match value with
      | none => "None"
      | some text => "Some(" ++ Text.quoted text ++ ")") ++ ")"
  "EnvGuard " ++ braced (" previous: " ++ bracketed (guard.previous.map entry) ++ " ")

end PipelineManifest
