import PipelineManifest.Manifest.Definition
import PipelineManifest.Proofs.Json.Unambiguous

/-!
# The component that a container is handed

A container is started with the text of its node, and nothing else tells it what the component is.
The text is that of a JSON value, which leaves nothing out, so two nodes with the same text are the
same node.

Results:
1. `Node.toJson_injective`: a node is given back by its description.
2. `Node.unfloated_toJson`: its description holds only the floating-point numbers of its parameters.
3. `Definition.node_of_serialized`: a node is given back by the text that its container is started
   with.
-/

namespace PipelineManifest

/-! ## Definitions -/

/-- What stands behind a flag in a list of flags that each have a value. -/
def argumentOf? (flag : String) : List String → Option String
  | name :: value :: rest => if name = flag then some value else argumentOf? flag rest
  | _ => none

/-- The text of the node that a container is started with. -/
def Definition.serialized? (definition : Definition) (node : Node) : Option String :=
  argumentOf? "--serialized_component" (definition.containerArguments node)

/-- No parameter of a node holds a floating-point number. -/
def Node.Unfloated (node : Node) : Prop :=
  ∀ value ∈ node.parameters.values, value.Unfloated

/-! ## Descriptions -/

namespace Dictionary

variable {α β : Type}

theorem entries_injective {first second : Dictionary α} (same : first.entries = second.entries) :
    first = second := by
  cases first
  cases second
  cases same
  rfl

theorem mapValues_injective {f : α → β} (injective : ∀ {a b}, f a = f b → a = b)
    {first second : Dictionary α}
    (same : (first.mapValues fun _ value => f value).entries =
      (second.mapValues fun _ value => f value).entries) : first = second := by
  refine entries_injective (List.map_injective_iff.2 (fun entry other alike => ?_) same)
  obtain ⟨names, values⟩ := Prod.mk.inj alike
  exact Prod.ext names (injective values)

end Dictionary

theorem Role.name_injective {first second : Role} (same : first.name = second.name) :
    first = second := by
  cases first <;> cases second <;> first | rfl | exact absurd same (by decide)

theorem Channel.toJson_injective {first second : Channel} (same : first.toJson = second.toJson) :
    first = second := by
  cases first
  cases second
  simp only [Channel.toJson, Json.object.injEq, List.cons.injEq, Prod.mk.injEq, Json.string.injEq,
    true_and, and_true] at same
  obtain ⟨rfl, rfl, rfl⟩ := same
  rfl

namespace Node

/-- A node is given back by its description. -/
theorem toJson_injective {first second : Node} (same : first.toJson = second.toJson) :
    first = second := by
  simp only [toJson, Json.ofDictionary, Json.object.injEq, List.cons.injEq, Prod.mk.injEq,
    Json.string.injEq, true_and, and_true] at same
  obtain ⟨ids, types, roles, inputs, outputs, parameters⟩ := same
  have sameRoles := Role.name_injective roles
  have sameInputs := Dictionary.mapValues_injective Channel.toJson_injective inputs
  have sameOutputs := Dictionary.mapValues_injective Channel.toJson_injective outputs
  have sameParameters := Dictionary.entries_injective parameters
  exact Node.ext ids types sameRoles sameInputs sameOutputs sameParameters

theorem unfloated_channel (channel : Channel) : channel.toJson.Unfloated := by
  refine .object ?_
  simp only [List.forall_mem_cons, List.not_mem_nil, false_implies, implies_true, and_true]
  exact ⟨.string _, .string _, .string _⟩

theorem unfloated_channels (channels : Dictionary Channel) :
    (Json.ofDictionary (channels.mapValues fun _ channel => channel.toJson)).Unfloated := by
  refine .object fun entry listed => ?_
  obtain ⟨⟨name, channel⟩, -, rfl⟩ := List.mem_map.1 listed
  exact unfloated_channel channel

/-- The description of a node holds only the floating-point numbers of its parameters. -/
theorem unfloated_toJson {node : Node} (unfloated : node.Unfloated) : node.toJson.Unfloated := by
  have parameters : (Json.ofDictionary node.parameters).Unfloated :=
    .object fun entry listed => unfloated entry.2 (List.mem_map_of_mem listed)
  refine .object ?_
  simp only [List.forall_mem_cons, List.not_mem_nil, false_implies, implies_true, and_true]
  exact ⟨.string _, .string _, .string _, unfloated_channels _, unfloated_channels _, parameters⟩

end Node

/-! ## The text of a container -/

namespace Definition

theorem serialized?_eq (definition : Definition) (node : Node) :
    definition.serialized? node = some node.toJson.compactText := rfl

/-- Two nodes whose containers are started with the same text are the same in everything: their
names and types, their roles, their inputs and outputs and all their parameters. -/
theorem node_of_serialized {definition other : Definition} {first second : Node}
    (unfloated : first.Unfloated) (unfloated' : second.Unfloated)
    (same : definition.serialized? first = other.serialized? second) : first = second := by
  rw [serialized?_eq, serialized?_eq, Option.some.injEq] at same
  have descriptions := (Json.compactText_inj (Node.unfloated_toJson unfloated)
    (Node.unfloated_toJson unfloated')).1 same
  exact Node.toJson_injective descriptions

/-- A value whose strings hold what could be read as the end of a string or of an object. -/
def nested : Json :=
  .object [("\",\"", .array [.int (-70), .string "\"]\x7d,\x7b\"é\\", .null, .bool true]),
    ("empty", .object [])]

theorem unfloated_nested : nested.Unfloated := by
  refine .object ?_
  simp only [List.forall_mem_cons, List.not_mem_nil, false_implies, implies_true, and_true]
  refine ⟨.array ?_, .object fun _ impossible => nomatch impossible⟩
  simp only [List.forall_mem_cons, List.not_mem_nil, false_implies, implies_true, and_true]
  exact ⟨.int _, .string _, .null, .bool _⟩

/-- A node that is named first. -/
def namedFirst : Node :=
  ((((Node.ofType "Trainer" .producer).rename "\"a\",\n").consume "in" ⟨"Gen", "out", "T"⟩).declare
    "model" "Model").setParameter "note" nested

/-- A node that is named last. -/
def namedLast : Node :=
  ((((Node.ofType "Trainer" .producer).setParameter "note" nested).declare "model" "Model").consume
    "in" ⟨"Gen", "out", "T"⟩).rename "\"a\",\n"

/-- A pipeline without nodes. -/
def vacant : Definition where
  name := "taxi"
  displayName := "team/taxi"
  root := "root/taxi"
  image := "image:1"
  nodes := []
  engineArguments := []
  enableCache := false

/-- The two nodes are built in another order, and their text tells that they are the same. -/
theorem node_of_serialized_renamed : namedFirst.Unfloated ∧ namedLast.Unfloated ∧
    vacant.serialized? namedFirst = { vacant with root := "elsewhere" }.serialized? namedLast ∧
    namedFirst = namedLast := by
  have parameters : namedFirst.parameters.values = [nested] ∧
      namedLast.parameters.values = [nested] := by decide +kernel
  have unfloated : namedFirst.Unfloated := by
    rw [Node.Unfloated, parameters.1, List.forall_mem_singleton]
    exact unfloated_nested
  have unfloated' : namedLast.Unfloated := by
    rw [Node.Unfloated, parameters.2, List.forall_mem_singleton]
    exact unfloated_nested
  have same : vacant.serialized? namedFirst =
      { vacant with root := "elsewhere" }.serialized? namedLast := by decide +kernel
  exact ⟨unfloated, unfloated', same, node_of_serialized unfloated unfloated' same⟩

end Definition

end PipelineManifest
