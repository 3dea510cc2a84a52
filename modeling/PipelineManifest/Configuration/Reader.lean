import PipelineManifest.Configuration.Document
import PipelineManifest.Decimal.Layout
import PipelineManifest.Yaml.Value

/-!
Reading the documents of the configuration from YAML text. A member that is not known is passed
over, and one that is missing has no value or is empty; a known member must not occur twice.
-/

namespace PipelineManifest

open Yaml

namespace ArgumentValue

/-- Numbers are written without a power of ten, and whole ones without a point. -/
def floatLayout : Decimal.Layout := ⟨.up, none, "", ""⟩

def floatText (x : Binary64) : String :=
  if x.isNaN then "NaN"
  else if x.isFinite then .ofList (floatLayout.write x)
  else if x.isNegative then "-inf" else "inf"

/-- A whole number that needs the 64th bit for its value is written as the nearest floating-point
number. -/
def intText (n : Int) : String :=
  if n < Nat.pow 2 63 then n.repr else floatText (.ofNat n.toNat)

mutual

/-- The texts of a value and of all that is listed in it. Only null and mappings have none. -/
def texts? : Yaml.Value → Option (List String)
  | .text content => some [content]
  | .int n => some [intText n]
  | .float x => some [floatText x]
  | .bool value => some [if value then "true" else "false"]
  | .sequence items => textsOfItems? items
  | .null | .mapping _ => none

def textsOfItems? : List Yaml.Value → Option (List String)
  | [] => some []
  | item :: rest => do
    let texts ← texts? item
    return texts ++ (← textsOfItems? rest)

end

def ofYaml? (value : Yaml.Value) : Option ArgumentValue := do
  match value, ← texts? value with
  | .sequence _, texts => some (.several texts)
  | _, [text] => some (.single text)
  | _, _ => none

end ArgumentValue

namespace Configuration

/-- The members of a record that have one of some names. Where nothing is written, there are none.
-/
def members (known : List String) : Option Tree → Decoding (List (String × Tree))
  | none => return []
  | some tree => do
    match ← Decoding.follow tree with
    | .mapping _ pairs =>
      let named ← pairs.mapM fun (key, value) => do return (← Decoding.rawText key, value)
      let members := named.filter (·.1 ∈ known)
      if (members.map (·.1)).Nodup then return members else failure
    | .scalar _ true [] => return []
    | _ => failure

/-- The items of a list. Where nothing is written, there are none. -/
def items (tree : Tree) : Decoding (List Tree) := do
  match ← Decoding.follow tree with
  | .sequence _ items => return items
  | .scalar _ true [] => return []
  | _ => failure

/-- A text, unless null stands in its place. -/
def optionalText (tree : Tree) : Decoding (Option String) := do
  match ← Decoding.follow tree with
  | .scalar properties true text =>
    if properties.tag = some (coreTag "null") then
      if isNull text then return none else failure
    else if properties.tag = none ∧ (text.isEmpty ∨ isNull text) then return none
    else return some (.ofList text)
  | .scalar _ false text => return some (.ofList text)
  | _ => failure

def textOf (members : List (String × Tree)) (name : String) : Decoding (Option String) :=
  match members.lookup name with
  | none => return none
  | some tree => optionalText tree

/-- What stands under a name must be there. -/
def required {α : Type} (members : List (String × Tree)) (name : String)
    (decoding : Tree → Decoding α) : Decoding α := do
  decoding (← (members.lookup name : Option Tree))

def listOf {α : Type} (members : List (String × Tree)) (name : String)
    (decoding : Tree → Decoding α) : Decoding (List α) :=
  match members.lookup name with
  | none => return []
  | some tree => do (← items tree).mapM decoding

/-- The value of an entry inside `depth` containers. -/
def argumentValue (depth : Nat) (tree : Tree) : Decoding ArgumentValue := do
  let value ← Decoding.value (depthLimit - depth) tree
  (ArgumentValue.ofYaml? value : Option ArgumentValue)

/-- An entry inside `depth` containers. -/
def namedArgument (depth : Nat) (tree : Tree) : Decoding NamedArgument := do
  let members ← members ["name", "value"] (some tree)
  let name ← required members "name" Decoding.rawText
  let value ← required members "value" (argumentValue (depth + 1))
  return ⟨name, value⟩

/-- The value of a variable is not a list. -/
def variableEntry (depth : Nat) (tree : Tree) : Decoding Variable := do
  match ← namedArgument depth tree with
  | ⟨name, .single value⟩ => return ⟨name, value⟩
  | _ => failure

/-- The engine arguments and the names of the graph-building function. -/
def parameters (tree : Option Tree) :
    Decoding (Option String × Option String × List NamedArgument) := do
  let members ← members ["components", "pipeline", "beamArgs"] tree
  let components ← textOf members "components"
  let pipeline ← textOf members "pipeline"
  let arguments ← listOf members "beamArgs" (namedArgument 4)
  return (components, pipeline, arguments)

def pipelineDocument (root : Option Tree) : Decoding PipelineDocument := do
  let top ← members ["name", "image", "rootLocation", "env", "framework"] root
  let framework ← match top.lookup "framework" with
    | none => pure []
    | some tree => members ["name", "parameters"] (some tree)
  let (components, pipeline, arguments) ← parameters (framework.lookup "parameters")
  return {
    name := ← textOf top "name"
    image := ← textOf top "image"
    rootLocation := ← textOf top "rootLocation"
    environment := ← listOf top "env" (variableEntry 2)
    framework := ← textOf framework "name"
    components
    pipeline
    arguments }

def providerDocument (root : Option Tree) : Decoding ProviderDocument := do
  let top ← members ["name", "executionMode", "pipelineRootStorage", "defaultBeamArgs"] root
  return {
    name := ← textOf top "name"
    executionMode := ← textOf top "executionMode"
    rootStorage := ← textOf top "pipelineRootStorage"
    arguments := ← listOf top "defaultBeamArgs" (namedArgument 2) }

end Configuration

def PipelineDocument.ofText? (text : String) : Option PipelineDocument := do
  (← Yaml.Document.ofText? text.toList).decode Configuration.pipelineDocument

def ProviderDocument.ofText? (text : String) : Option ProviderDocument := do
  (← Yaml.Document.ofText? text.toList).decode Configuration.providerDocument

end PipelineManifest
