import PipelineManifest.Json.Value

/-!
Component nodes. A node consumes artifacts through named inputs, each a channel from an output of
some node, and declares outputs of its own. Nodes are built from `Node.ofType` by `rename`,
`consume`, `declare` and `setParameter`.
-/

namespace PipelineManifest

/-- A handle to the artifact that an output of a node produces. -/
structure Channel where
  producer : String
  output : String
  artifactType : String
deriving DecidableEq, Repr

def Channel.toJson (channel : Channel) : Json :=
  .object [("producer", .string channel.producer), ("output", .string channel.output),
    ("artifactType", .string channel.artifactType)]

/-- What a node is for. -/
inductive Role
  /-- It trains a model. -/
  | producer
  /-- It judges a model and may bless it. -/
  | evaluator
  /-- It publishes a model. -/
  | deployment
  | other
deriving DecidableEq, Repr

def Role.name : Role → String
  | .producer => "producer"
  | .evaluator => "evaluator"
  | .deployment => "deployment"
  | .other => "other"

def Role.ofName? : String → Option Role
  | "producer" => some .producer
  | "evaluator" => some .evaluator
  | "deployment" => some .deployment
  | "other" => some .other
  | _ => none

/-- A unit of work in a pipeline graph. -/
@[ext]
structure Node where
  id : String
  componentType : String
  role : Role
  inputs : Dictionary Channel
  outputs : Dictionary Channel
  parameters : Dictionary Json
  /-- The channel of an output leads back to the node and to that output. -/
  owned : ∀ name channel, outputs.find? name = some channel →
    channel.producer = id ∧ channel.output = name

namespace Node

/-- A node that is named after its component type and has no inputs, outputs or parameters. -/
def ofType (componentType : String) (role : Role) : Node where
  id := componentType
  componentType
  role
  inputs := ∅
  outputs := ∅
  parameters := ∅
  owned := by simp

/-- Names a node. The channels of outputs that are declared already follow the new name. -/
def rename (node : Node) (id : String) : Node :=
  { node with
    id
    outputs := node.outputs.mapValues fun _ channel => { channel with producer := id }
    owned := by
      intro name channel found
      rw [Dictionary.find?_mapValues] at found
      obtain ⟨before, declared, rfl⟩ := Option.map_eq_some_iff.1 found
      exact ⟨rfl, (node.owned name before declared).2⟩ }

/-- Takes an artifact under the name of an input. -/
def consume (node : Node) (input : String) (channel : Channel) : Node :=
  { node with inputs := node.inputs.insert input channel }

/-- Declares an output. -/
def declare (node : Node) (name artifactType : String) : Node :=
  { node with
    outputs := node.outputs.insert name ⟨node.id, name, artifactType⟩
    owned := by
      intro other channel found
      rw [Dictionary.find?_insert] at found
      by_cases same : name = other
      · rw [if_pos same] at found
        cases found
        exact ⟨rfl, same⟩
      · rw [if_neg same] at found
        exact node.owned other channel found }

def setParameter (node : Node) (name : String) (value : Json) : Node :=
  { node with parameters := node.parameters.insert name value }

/-- The channel of an output, if it is declared. -/
def output? (node : Node) (name : String) : Option Channel := node.outputs.find? name

def hasOutput (node : Node) (name : String) : Bool := node.outputs.contains name

/-- The names of the nodes that this one consumes from, in order and without repeats. -/
def producerIds (node : Node) : List String :=
  (Dictionary.ofList (node.inputs.values.map fun channel => (channel.producer, ()))).keys

/-- The members stand in the order of a node's description: the name first, the parameters last. -/
def toJson (node : Node) : Json :=
  .object [
    ("id", .string node.id),
    ("componentType", .string node.componentType),
    ("kind", .string node.role.name),
    ("inputs", .ofDictionary (node.inputs.mapValues fun _ channel => channel.toJson)),
    ("outputs", .ofDictionary (node.outputs.mapValues fun _ channel => channel.toJson)),
    ("parameters", .ofDictionary node.parameters)]

end Node

end PipelineManifest
