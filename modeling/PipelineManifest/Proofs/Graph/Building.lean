import Mathlib.Data.List.Basic
import Mathlib.Data.List.Induction
import PipelineManifest.Graph.Node

/-!
# Nodes that are built step by step

A node is built from its component type by steps of four kinds. The channel of an output holds the
name of the node, which later steps may change, and follows every change. So what a node holds is
said by the last step for each of its parts, and a step that names it may come at any time.

Results:
1. `BuiltBy.step`, `builtBy_ofSteps`: what a node holds after one more step, and after all.
2. `BuiltBy.unique`, `ofSteps_congr`: nothing else is left of the steps.
3. `renamedTo_rename`: a name can be taken back, so nothing is lost with it.
4. `ofSteps_spec`: all of this for the nodes that are built, and that steps which name a node can be
   moved among the others.
5. `exists_steps`: every node can be built.
-/

namespace PipelineManifest

namespace Node

/-! ## Definitions -/

/-- A step in which a node is built. -/
inductive Step
  | rename (id : String)
  | consume (input : String) (channel : Channel)
  | declare (output artifactType : String)
  | setParameter (parameter : String) (value : Json)

namespace Step

/-- Carries a step out. -/
def apply (node : Node) : Step → Node
  | .rename id => node.rename id
  | .consume input channel => node.consume input channel
  | .declare output artifactType => node.declare output artifactType
  | .setParameter parameter value => node.setParameter parameter value

def isRename : Step → Bool
  | .rename _ => true
  | _ => false

def id? : Step → Option String
  | .rename id => some id
  | _ => none

def input? : Step → Option (String × Channel)
  | .consume input channel => some (input, channel)
  | _ => none

def output? : Step → Option (String × String)
  | .declare output artifactType => some (output, artifactType)
  | _ => none

def parameter? : Step → Option (String × Json)
  | .setParameter parameter value => some (parameter, value)
  | _ => none

end Step

/-- Carries steps out in order, beginning with a component type. -/
def ofSteps (componentType : String) (role : Role) (steps : List Step) : Node :=
  steps.foldl Step.apply (ofType componentType role)

open Dictionary (lastValue?)

/-- A node holds what steps give it last. The channel of an output is under the name that the node
has in the end, whenever it was declared. -/
structure BuiltBy (componentType : String) (role : Role) (steps : List Step) (node : Node) :
    Prop where
  id : node.id = (steps.filterMap Step.id?).getLast?.getD componentType
  componentType : node.componentType = componentType
  role : node.role = role
  inputs : ∀ input, node.inputs.find? input = lastValue? (steps.filterMap Step.input?) input
  outputs : ∀ output, node.outputs.find? output =
    (lastValue? (steps.filterMap Step.output?) output).map fun artifactType =>
      ⟨node.id, output, artifactType⟩
  parameters : ∀ parameter,
    node.parameters.find? parameter = lastValue? (steps.filterMap Step.parameter?) parameter

/-- One node is another under a new name. -/
structure RenamedTo (name : String) (before after : Node) : Prop where
  id : after.id = name
  componentType : after.componentType = before.componentType
  role : after.role = before.role
  inputs : after.inputs = before.inputs
  outputs : ∀ output, after.outputs.find? output =
    (before.outputs.find? output).map fun channel => { channel with producer := name }
  parameters : after.parameters = before.parameters
  /-- Nothing is lost, since the old name gives the old node back. -/
  back : after.rename before.id = before

/-! ## Steps -/

section Parts

variable {β : Type} {step : Step}

theorem filterMap_concat_none (part : Step → Option β) (other : part step = none)
    (steps : List Step) : (steps ++ [step]).filterMap part = steps.filterMap part := by
  rw [List.filterMap_append, List.filterMap_cons_none other, List.filterMap_nil, List.append_nil]

theorem filterMap_concat_some (part : Step → Option β) {given : β} (gives : part step = some given)
    (steps : List Step) : (steps ++ [step]).filterMap part = steps.filterMap part ++ [given] := by
  rw [List.filterMap_append, List.filterMap_cons_some gives, List.filterMap_nil]

/-- What is given for a part is given by the steps among which all others give nothing for it. -/
theorem filterMap_filter_of_none {part : Step → Option β} {among : Step → Bool}
    (others : ∀ step, among step = false → part step = none) (steps : List Step) :
    (steps.filter among).filterMap part = steps.filterMap part := by
  have same : (fun step => if among step then part step else none) = part := by
    funext step
    cases looked : among step with
    | true => rfl
    | false => exact (others step looked).symm
  rw [List.filterMap_filter, same]

end Parts

variable {componentType : String} {role : Role} {steps : List Step} {node : Node}

theorem find?_outputs_rename (node : Node) (name output : String) :
    (node.rename name).outputs.find? output =
      (node.outputs.find? output).map fun channel => { channel with producer := name } :=
  Dictionary.find?_mapValues _ node.outputs output

theorem find?_outputs_declare (node : Node) (name artifactType output : String) :
    (node.declare name artifactType).outputs.find? output =
      if name = output then some ⟨node.id, name, artifactType⟩ else node.outputs.find? output :=
  Dictionary.find?_insert node.outputs name output _

theorem builtBy_ofType : BuiltBy componentType role [] (ofType componentType role) :=
  ⟨rfl, rfl, rfl, fun _ => rfl, fun _ => rfl, fun _ => rfl⟩

/-- Each kind of step has its effect on one part of the node, and a new name reaches the channels of
outputs too. -/
theorem BuiltBy.step (built : BuiltBy componentType role steps node) (step : Step) :
    BuiltBy componentType role (steps ++ [step]) (step.apply node) := by
  constructor
  case componentType => cases step <;> exact built.componentType
  case role => cases step <;> exact built.role
  case id =>
    cases step with
    | rename id =>
      rw [filterMap_concat_some Step.id? rfl, List.getLast?_concat]
      rfl
    | _ =>
      rw [filterMap_concat_none Step.id? rfl]
      exact built.id
  case inputs =>
    intro input
    cases step with
    | consume name channel =>
      rw [filterMap_concat_some Step.input? rfl, Dictionary.lastValue?_concat, ← built.inputs]
      exact Dictionary.find?_insert node.inputs name input channel
    | _ =>
      rw [filterMap_concat_none Step.input? rfl]
      exact built.inputs input
  case outputs =>
    intro output
    cases step with
    | rename id =>
      rw [filterMap_concat_none Step.output? rfl, Step.apply, find?_outputs_rename, built.outputs,
        Option.map_map]
      rfl
    | declare name artifactType =>
      rw [filterMap_concat_some Step.output? rfl, Dictionary.lastValue?_concat, Step.apply,
        find?_outputs_declare, built.outputs]
      by_cases same : name = output
      · rw [if_pos same, if_pos same, same]
        rfl
      · rw [if_neg same, if_neg same]
        rfl
    | _ =>
      rw [filterMap_concat_none Step.output? rfl]
      exact built.outputs output
  case parameters =>
    intro parameter
    cases step with
    | setParameter name value =>
      rw [filterMap_concat_some Step.parameter? rfl, Dictionary.lastValue?_concat,
        ← built.parameters]
      exact Dictionary.find?_insert node.parameters name parameter value
    | _ =>
      rw [filterMap_concat_none Step.parameter? rfl]
      exact built.parameters parameter

theorem builtBy_ofSteps (componentType : String) (role : Role) (steps : List Step) :
    BuiltBy componentType role steps (ofSteps componentType role steps) := by
  induction steps using List.reverseRecOn with
  | nil => exact builtBy_ofType
  | append_singleton steps step ih =>
    rw [ofSteps, List.foldl_append]
    exact ih.step step

/-- All that a node holds is said by its steps. -/
theorem BuiltBy.unique {first second : Node} (built : BuiltBy componentType role steps first)
    (other : BuiltBy componentType role steps second) : first = second := by
  have ids : first.id = second.id := built.id.trans other.id.symm
  apply Node.ext ids
  · exact built.componentType.trans other.componentType.symm
  · exact built.role.trans other.role.symm
  · exact Dictionary.ext_find? fun input => (built.inputs input).trans (other.inputs input).symm
  · refine Dictionary.ext_find? fun output => ?_
    rw [built.outputs, other.outputs, ids]
  · exact Dictionary.ext_find? fun parameter =>
      (built.parameters parameter).trans (other.parameters parameter).symm

/-- Steps that give the same for each part, each in the same order, build the same node. -/
theorem ofSteps_congr {other : List Step}
    (ids : steps.filterMap Step.id? = other.filterMap Step.id?)
    (inputs : steps.filterMap Step.input? = other.filterMap Step.input?)
    (outputs : steps.filterMap Step.output? = other.filterMap Step.output?)
    (parameters : steps.filterMap Step.parameter? = other.filterMap Step.parameter?)
    (componentType : String) (role : Role) :
    ofSteps componentType role steps = ofSteps componentType role other := by
  have built := builtBy_ofSteps componentType role other
  refine (builtBy_ofSteps componentType role steps).unique ?_
  exact ⟨ids ▸ built.id, built.componentType, built.role, inputs ▸ built.inputs,
    outputs ▸ built.outputs, parameters ▸ built.parameters⟩

/-! ## Names -/

/-- The old name is left nowhere, and it is known what the channels were, since they led to it. -/
theorem renamedTo_rename (node : Node) (name : String) :
    RenamedTo name node (node.rename name) where
  id := rfl
  componentType := rfl
  role := rfl
  inputs := rfl
  outputs := find?_outputs_rename node name
  parameters := rfl
  back := by
    refine Node.ext rfl rfl rfl rfl (Dictionary.ext_find? fun output => ?_) rfl
    rw [find?_outputs_rename, find?_outputs_rename, Option.map_map]
    cases found : node.outputs.find? output with
    | none => rfl
    | some channel =>
      have leads : node.id = channel.producer := (node.owned output channel found).1.symm
      exact congrArg (fun producer => some { channel with producer }) leads

theorem ofSteps_of_groups {other : List Step}
    (names : steps.filter Step.isRename = other.filter Step.isRename)
    (others : steps.filter (!·.isRename) = other.filter (!·.isRename))
    (componentType : String) (role : Role) :
    ofSteps componentType role steps = ofSteps componentType role other := by
  have none_of_other : ∀ step : Step, step.isRename = false → step.id? = none := by
    rintro (_ | _ | _ | _) among
    · cases among
    all_goals rfl
  have inOthers {β : Type} {part : Step → Option β} (unnamed : ∀ id, part (.rename id) = none) :
      steps.filterMap part = other.filterMap part := by
    have none_of_rename : ∀ step : Step, (!step.isRename) = false → part step = none := by
      rintro (id | _ | _ | _) among
      · exact unnamed id
      all_goals cases among
    rw [← filterMap_filter_of_none none_of_rename, others, filterMap_filter_of_none none_of_rename]
  refine ofSteps_congr ?_ (inOthers fun _ => rfl) (inOthers fun _ => rfl) (inOthers fun _ => rfl)
    componentType role
  rw [← filterMap_filter_of_none none_of_other, names, filterMap_filter_of_none none_of_other]

/-- A node holds what its steps give last, and the channels of its outputs lead to the name that it
has in the end. A step that names it changes nothing else, and can stand anywhere among the steps of
other kinds. -/
theorem ofSteps_spec (componentType : String) (role : Role) (steps : List Step) :
    BuiltBy componentType role steps (ofSteps componentType role steps) ∧
    (∀ name, RenamedTo name (ofSteps componentType role steps)
      (ofSteps componentType role (steps ++ [.rename name]))) ∧
    ∀ other : List Step, steps.filter Step.isRename = other.filter Step.isRename →
      steps.filter (!·.isRename) = other.filter (!·.isRename) →
      ofSteps componentType role steps = ofSteps componentType role other := by
  refine ⟨builtBy_ofSteps componentType role steps, fun name => ?_, fun other names others => ?_⟩
  · rw [ofSteps, ofSteps, List.foldl_append]
    exact renamedTo_rename _ name
  · exact ofSteps_of_groups names others componentType role

/-- An output that is declared twice, with a name ahead of it, between and behind. -/
def mingled : List Step :=
  [.rename "first", .declare "model" "Model", .consume "examples" ⟨"Gen", "examples", "Examples"⟩,
    .rename "second", .setParameter "steps" (.string "many"), .declare "model" "Checkpoint",
    .rename "trainer", .declare "report" "Report"]

/-- The same steps with all names at the end. -/
def gathered : List Step :=
  [.declare "model" "Model", .consume "examples" ⟨"Gen", "examples", "Examples"⟩,
    .setParameter "steps" (.string "many"), .declare "model" "Checkpoint",
    .declare "report" "Report", .rename "first", .rename "second", .rename "trainer"]

theorem ofSteps_spec_mingled :
    mingled.filter Step.isRename = gathered.filter Step.isRename ∧
    mingled.filter (!·.isRename) = gathered.filter (!·.isRename) ∧
    ofSteps "Trainer" .producer mingled = ofSteps "Trainer" .producer gathered ∧
    (ofSteps "Trainer" .producer mingled).outputs.find? "model" =
      some ⟨"trainer", "model", "Checkpoint"⟩ :=
  have built := ofSteps_spec "Trainer" .producer mingled
  ⟨rfl, rfl, built.2.2 gathered rfl rfl, built.1.outputs "model"⟩

/-! ## Nodes that can be built -/

/-- Steps that build a node: its name, and all that it holds. -/
def construction (node : Node) : List Step :=
  .rename node.id ::
    ((node.outputs.mapValues fun _ channel => channel.artifactType).entries.map fun entry =>
      .declare entry.1 entry.2) ++
    node.inputs.entries.map (fun entry => .consume entry.1 entry.2) ++
    node.parameters.entries.map (fun entry => .setParameter entry.1 entry.2)

theorem builtBy_construction (node : Node) :
    BuiltBy node.componentType node.role node.construction node := by
  have ids : node.construction.filterMap Step.id? = [node.id] := by
    simp [construction, Function.comp_def, Step.id?]
  have inputs : node.construction.filterMap Step.input? = node.inputs.entries := by
    simp [construction, List.filterMap_cons, Function.comp_def, Step.input?]
  have outputs : node.construction.filterMap Step.output? =
      (node.outputs.mapValues fun _ channel => channel.artifactType).entries := by
    simp [construction, List.filterMap_cons, Function.comp_def, Step.output?]
  have parameters : node.construction.filterMap Step.parameter? = node.parameters.entries := by
    simp [construction, List.filterMap_cons, Function.comp_def, Step.parameter?]
  constructor
  case id => rw [ids]; rfl
  case componentType => rfl
  case role => rfl
  case inputs =>
    intro input
    rw [inputs, Dictionary.lastValue?_entries]
  case outputs =>
    intro output
    rw [outputs, Dictionary.lastValue?_entries, Dictionary.find?_mapValues, Option.map_map]
    cases found : node.outputs.find? output with
    | none => rfl
    | some channel =>
      obtain ⟨producer, name⟩ := node.owned output channel found
      rw [Option.map_some, Function.comp_apply, ← producer, ← name]
  case parameters =>
    intro parameter
    rw [parameters, Dictionary.lastValue?_entries]

/-- There are no nodes but those that are built by steps. -/
theorem exists_steps (node : Node) :
    ∃ steps, ofSteps node.componentType node.role steps = node :=
  ⟨node.construction, (builtBy_ofSteps _ _ _).unique node.builtBy_construction⟩

end Node

end PipelineManifest
