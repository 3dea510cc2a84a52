import PipelineManifest.Manifest.Backend
import PipelineManifest.Proofs.Graph.Order
import PipelineManifest.Proofs.Json.Reading

/-!
# Pipeline specifications

A specification lists its tasks, components and executors by name, and they refer to each other by
these names: a task to its component and to the outputs that it takes, a component to its executor.

Results:
1. `SpecView.read?_toJson`: what is read from the document of a specification.
2. `PipelineSpec.tasks_perm`, `components_perm`, `executors_perm`: no entry takes the place of
   another, so there is one of each for every node.
3. `PipelineSpec.closed_of_hasOrder`: in the specification of a graph that has an order every
   reference leads to an entry.
-/

namespace PipelineManifest

/-! ## Specifications as they are read -/

structure SpecTaskView where
  component : String
  dependentTasks : List String
  /-- The output of another task that each input takes. -/
  artifacts : List (String × TaskOutput)
  parameters : List String

structure SpecComponentView where
  executor : String
  inputArtifacts : List String
  inputParameters : List String
  outputArtifacts : List String

/-- The tasks, components and executors of a specification. Of an executor there is its
container. -/
structure SpecView where
  tasks : List (String × SpecTaskView)
  components : List (String × SpecComponentView)
  executors : List (String × Json)

def TaskOutput.read? (value : Json) : Option TaskOutput := do
  let producerTask ← value.at? ["taskOutputArtifact", "producerTask"] Json.text?
  let outputKey ← value.at? ["taskOutputArtifact", "outputArtifactKey"] Json.text?
  return ⟨producerTask, outputKey⟩

def SpecTaskView.read? (value : Json) : Option SpecTaskView := do
  let component ← value.at? ["componentRef", "name"] Json.text?
  let dependentTasks ← value.at? ["dependentTasks"] (Json.list? Json.text?)
  let artifacts ← value.at? ["inputs", "artifacts"] (Json.table? TaskOutput.read?)
  let parameters ← value.at? ["inputs", "parameters"] Json.names?
  return ⟨component, dependentTasks, artifacts, parameters⟩

def SpecComponentView.read? (value : Json) : Option SpecComponentView := do
  let executor ← value.at? ["executorLabel"] Json.text?
  let inputArtifacts ← value.at? ["inputDefinitions", "artifacts"] Json.names?
  let inputParameters ← value.at? ["inputDefinitions", "parameters"] Json.names?
  let outputArtifacts ← value.at? ["outputDefinitions", "artifacts"] Json.names?
  return ⟨executor, inputArtifacts, inputParameters, outputArtifacts⟩

def SpecView.read? (document : Json) : Option SpecView := do
  let tasks ← document.at? ["root", "dag", "tasks"] (Json.table? SpecTaskView.read?)
  let components ← document.at? ["components"] (Json.table? SpecComponentView.read?)
  let executors ← document.at? ["deploymentSpec", "executors"]
    (Json.table? (Json.member? "container"))
  return ⟨tasks, components, executors⟩

/-! ## Specifications as they are written -/

def SpecTask.view (task : SpecTask) : SpecTaskView where
  component := task.component
  dependentTasks := task.dependentTasks
  artifacts := task.artifacts.entries
  parameters := task.parameters.keys

def SpecComponent.view (component : SpecComponent) : SpecComponentView where
  executor := component.executorLabel
  inputArtifacts := component.inputArtifacts.keys
  inputParameters := component.inputParameters.keys
  outputArtifacts := component.outputArtifacts.keys

def PipelineSpec.view (spec : PipelineSpec) : SpecView where
  tasks := spec.tasks.entries.map fun entry => (entry.1, entry.2.view)
  components := spec.components.entries.map fun entry => (entry.1, entry.2.view)
  executors := spec.executors.entries.map fun entry => (entry.1, entry.2.toJson)

theorem TaskOutput.read?_toJson (output : TaskOutput) :
    TaskOutput.read? output.toJson = some output := by
  simp [TaskOutput.read?, TaskOutput.toJson]

theorem SpecTaskView.read?_toJson (task : SpecTask) :
    SpecTaskView.read? task.toJson = some task.view := by
  have artifacts := Json.table?_ofDictionary TaskOutput.read?_toJson task.artifacts
  rw [Dictionary.entries_mapValues, List.map_id'] at artifacts
  simp [SpecTaskView.read?, SpecTask.toJson, SpecTask.view, artifacts]

theorem SpecComponentView.read?_toJson (component : SpecComponent) :
    SpecComponentView.read? component.toJson = some component.view := by
  simp [SpecComponentView.read?, SpecComponent.toJson, SpecComponent.view, artifactTypes]

theorem SpecView.read?_toJson (spec : PipelineSpec) :
    SpecView.read? spec.toJson = some spec.view := by
  have tasks := Json.table?_ofDictionary SpecTaskView.read?_toJson spec.tasks
  have components := Json.table?_ofDictionary SpecComponentView.read?_toJson spec.components
  have container : ∀ container : Container,
      (Json.record [("container", container.toJson)]).member? "container" =
        some container.toJson := fun container => by
    simp
  have executors := Json.table?_ofDictionary container spec.executors
  simp [SpecView.read?, PipelineSpec.toJson, PipelineSpec.view, tasks,
    components, executors]

/-! ## The entries of a specification -/

/-- No two entries have the same name. -/
theorem PipelineSpec.nodup_view (spec : PipelineSpec) :
    (spec.view.tasks.map (·.1)).Nodup ∧ (spec.view.components.map (·.1)).Nodup ∧
      (spec.view.executors.map (·.1)).Nodup := by
  simp only [view, List.map_map]
  exact ⟨Dictionary.keys_nodup _, Dictionary.keys_nodup _, Dictionary.keys_nodup _⟩

theorem componentName_injective {first second : String}
    (same : PipelineSpec.componentName first = PipelineSpec.componentName second) :
    first = second :=
  (String.append_left_inj "_component").1 same

theorem executorLabel_injective {first second : String}
    (same : PipelineSpec.executorLabel first = PipelineSpec.executorLabel second) :
    first = second :=
  (String.append_left_inj "_executor").1 same

namespace PipelineSpec

theorem nodup_keys {α : Type} {nodes : List Node} (distinct : Graph.Distinct nodes)
    {key : String → String} (injective : ∀ {first second}, key first = key second → first = second)
    (value : Node → α) : ((nodes.map fun node => (key node.id, value node)).map (·.1)).Nodup := by
  have keys := List.Nodup.map (fun _ _ same => injective same) distinct
  rw [List.map_map] at keys ⊢
  exact keys

theorem entries_perm {α β : Type} {nodes : List Node} (distinct : Graph.Distinct nodes)
    {key : String → String} (injective : ∀ {first second}, key first = key second → first = second)
    (value : Node → α) (look : α → β) :
    ((Dictionary.ofList (nodes.map fun node => (key node.id, value node))).entries.map
      fun entry => (entry.1, look entry.2)).Perm
        (nodes.map fun node => (key node.id, look (value node))) := by
  have keys := nodup_keys distinct injective value
  have same := (Dictionary.entries_ofList_perm keys).map fun entry => (entry.1, look entry.2)
  rw [List.map_map] at same
  exact same

section

variable {definition : Definition} (distinct : Graph.Distinct definition.nodes)

include distinct

theorem tasks_perm : (ofDefinition definition).view.tasks.Perm
    (definition.nodes.map fun node => (node.id, (task node).view)) :=
  entries_perm distinct id task SpecTask.view

theorem components_perm : (ofDefinition definition).view.components.Perm
    (definition.nodes.map fun node => (componentName node.id, (component node).view)) :=
  entries_perm distinct componentName_injective component SpecComponent.view

theorem executors_perm : (ofDefinition definition).view.executors.Perm
    (definition.nodes.map fun node =>
      (executorLabel node.id, (definition.container node).toJson)) :=
  entries_perm distinct executorLabel_injective definition.container Container.toJson

theorem mem_tasks_iff {id : String} {seen : SpecTaskView} :
    (id, seen) ∈ (ofDefinition definition).view.tasks ↔
      ∃ node ∈ definition.nodes, node.id = id ∧ (task node).view = seen := by
  rw [(tasks_perm distinct).mem_iff, List.mem_map]
  simp only [Prod.mk.injEq]

theorem mem_components_iff {name : String} {seen : SpecComponentView} :
    (name, seen) ∈ (ofDefinition definition).view.components ↔
      ∃ node ∈ definition.nodes, componentName node.id = name ∧ (component node).view = seen := by
  rw [(components_perm distinct).mem_iff, List.mem_map]
  simp only [Prod.mk.injEq]

/-- The component of a task is that of its node. -/
theorem mem_components_of_node {node : Node} (member : node ∈ definition.nodes)
    {seen : SpecComponentView} :
    ((task node).view.component, seen) ∈ (ofDefinition definition).view.components ↔
      seen = (component node).view := by
  rw [mem_components_iff distinct]
  constructor
  · rintro ⟨other, otherMember, same, rfl⟩
    rw [distinct.eq otherMember member (componentName_injective same)]
  · rintro rfl
    exact ⟨node, member, rfl, rfl⟩

end

end PipelineSpec

/-! ## References -/

namespace SpecView

/-- A task has to wait for another. -/
def Awaits (view : SpecView) (consumer producer : String) : Prop :=
  ∃ task, (consumer, task) ∈ view.tasks ∧ producer ∈ task.dependentTasks

/-- A specification, as it is read, describes the nodes of a list, and each of its references leads
to an entry. -/
structure Closed (view : SpecView) (nodes : List Node) : Prop where
  tasks : (view.tasks.map (·.1)).Perm (nodes.map (·.id))
  /-- Each component belongs to one task, and each executor to one component. -/
  components : (view.components.map (·.1)).Perm (view.tasks.map (·.2.component))
  executors : (view.executors.map (·.1)).Perm (view.components.map (·.2.executor))
  distinct : (view.tasks.map (·.1)).Nodup ∧ (view.components.map (·.1)).Nodup ∧
    (view.executors.map (·.1)).Nodup
  /-- A node is described by the task of its name and by the component of that task. -/
  nodes : ∀ node ∈ nodes, ∃ task component, (node.id, task) ∈ view.tasks ∧
    (task.component, component) ∈ view.components ∧
    task.artifacts = node.inputs.entries.map (fun input =>
      (input.1, ⟨input.2.producer, input.2.output⟩)) ∧
    task.parameters = node.parameters.keys ∧ component.outputArtifacts = node.outputs.keys
  /-- A task has the inputs that its component declares. -/
  inputs : ∀ id task component, (id, task) ∈ view.tasks →
    (task.component, component) ∈ view.components →
      task.artifacts.map (·.1) = component.inputArtifacts ∧
      task.parameters = component.inputParameters
  /-- What a task takes is declared by the component of the task that it is taken from. -/
  outputs : ∀ id task, (id, task) ∈ view.tasks → ∀ input output, (input, output) ∈ task.artifacts →
    ∃ producer component, (output.producerTask, producer) ∈ view.tasks ∧
      (producer.component, component) ∈ view.components ∧
      output.outputKey ∈ component.outputArtifacts
  /-- A task waits for those that it takes something from. They are listed in order, each once. -/
  waits : ∀ id task, (id, task) ∈ view.tasks → task.dependentTasks.Pairwise (· < ·) ∧
    ∀ producer, producer ∈ task.dependentTasks ↔
      ∃ input output, (input, output) ∈ task.artifacts ∧ output.producerTask = producer
  acyclic : ∀ id, ¬ Relation.TransGen view.Awaits id id

end SpecView

namespace PipelineSpec

theorem artifacts_task (node : Node) :
    (task node).view.artifacts = node.inputs.entries.map fun input =>
      (input.1, ⟨input.2.producer, input.2.output⟩) := rfl

theorem parameters_task (node : Node) : (task node).view.parameters = node.parameters.keys :=
  Dictionary.keys_mapValues _ _

theorem inputArtifacts_component (node : Node) :
    (component node).view.inputArtifacts = node.inputs.keys :=
  Dictionary.keys_mapValues _ _

theorem inputParameters_component (node : Node) :
    (component node).view.inputParameters = node.parameters.keys :=
  Dictionary.keys_mapValues _ _

theorem outputArtifacts_component (node : Node) :
    (component node).view.outputArtifacts = node.outputs.keys :=
  Dictionary.keys_mapValues _ _

theorem mem_artifacts_iff {node : Node} {input : String} {output : TaskOutput} :
    (input, output) ∈ (task node).view.artifacts ↔
      ∃ channel, (input, channel) ∈ node.inputs.entries ∧
        TaskOutput.mk channel.producer channel.output = output := by
  rw [artifacts_task, List.mem_map]
  simp

theorem waits_task (node : Node) : (task node).view.dependentTasks.Pairwise (· < ·) ∧
    ∀ producer, producer ∈ (task node).view.dependentTasks ↔
      ∃ input output, (input, output) ∈ (task node).view.artifacts ∧
        output.producerTask = producer := by
  refine ⟨Dictionary.sorted_keys _, fun producer => ?_⟩
  refine Graph.mem_producerIds.trans ?_
  constructor
  · rintro ⟨channel, input, rfl⟩
    obtain ⟨⟨name, _⟩, listed, rfl⟩ := List.mem_map.1 input
    exact ⟨name, _, mem_artifacts_iff.2 ⟨_, listed, rfl⟩, rfl⟩
  · rintro ⟨name, output, taken, rfl⟩
    obtain ⟨channel, listed, rfl⟩ := mem_artifacts_iff.1 taken
    exact ⟨channel, List.mem_map_of_mem listed, rfl⟩

section

variable {definition : Definition} (distinct : Graph.Distinct definition.nodes)

include distinct

theorem outputs_view (resolved : Graph.Resolved definition.nodes) {id : String}
    {seen : SpecTaskView} (listed : (id, seen) ∈ (ofDefinition definition).view.tasks)
    {input : String} {output : TaskOutput} (taken : (input, output) ∈ seen.artifacts) :
    ∃ producer component, (output.producerTask, producer) ∈ (ofDefinition definition).view.tasks ∧
      (producer.component, component) ∈ (ofDefinition definition).view.components ∧
      output.outputKey ∈ component.outputArtifacts := by
  obtain ⟨node, member, rfl, rfl⟩ := (mem_tasks_iff distinct).1 listed
  obtain ⟨channel, consumed, rfl⟩ := mem_artifacts_iff.1 taken
  obtain ⟨producer, produces, named, declared⟩ :=
    resolved node member channel (List.mem_map_of_mem consumed)
  refine ⟨(task producer).view, (component producer).view, ?_, ?_, ?_⟩
  · exact (mem_tasks_iff distinct).2 ⟨producer, produces, named, rfl⟩
  · exact (mem_components_of_node distinct produces).2 rfl
  · rw [outputArtifacts_component]
    exact Dictionary.contains_iff_mem_keys.1 declared

/-- Waiting for a task is needing its node, so no task waits for itself. -/
theorem acyclic_view (acyclic : Graph.Acyclic definition.nodes) (id : String) :
    ¬ Relation.TransGen (ofDefinition definition).view.Awaits id id := by
  intro cycle
  -- a step of the cycle is a need of the node that waits, so the cycle is one of the graph
  have needs : ∀ consumer producer, (ofDefinition definition).view.Awaits consumer producer →
      Graph.Needs definition.nodes consumer producer := by
    rintro consumer producer ⟨seen, listed, awaited⟩
    obtain ⟨node, member, rfl, rfl⟩ := (mem_tasks_iff distinct).1 listed
    exact Graph.needs_of_mem_producerIds member awaited
  have reaches : Graph.Reaches definition.nodes id id := Relation.TransGen.mono needs _ _ cycle
  obtain ⟨_, ⟨node, member, rfl, _⟩, _⟩ := Relation.TransGen.head'_iff.1 reaches
  exact acyclic node member reaches

theorem closed_view (resolved : Graph.Resolved definition.nodes)
    (acyclic : Graph.Acyclic definition.nodes) :
    (ofDefinition definition).view.Closed definition.nodes where
  tasks := by
    have same := (tasks_perm distinct).map (·.1)
    rwa [List.map_map] at same
  components := by
    -- either side has the names that the nodes give to their components
    have tasks := (tasks_perm distinct).map (·.2.component)
    have components := (components_perm distinct).map (·.1)
    rw [List.map_map] at tasks components
    exact components.trans tasks.symm
  executors := by
    have components := (components_perm distinct).map (·.2.executor)
    have executors := (executors_perm distinct).map (·.1)
    rw [List.map_map] at components executors
    exact executors.trans components.symm
  distinct := nodup_view _
  nodes := fun node member =>
    ⟨(task node).view, (component node).view,
      (mem_tasks_iff distinct).2 ⟨node, member, rfl, rfl⟩,
      (mem_components_of_node distinct member).2 rfl,
      artifacts_task node, parameters_task node, outputArtifacts_component node⟩
  inputs := by
    intro id seen declared listed declares
    obtain ⟨node, member, rfl, rfl⟩ := (mem_tasks_iff distinct).1 listed
    obtain rfl := (mem_components_of_node distinct member).1 declares
    rw [artifacts_task, parameters_task, inputArtifacts_component, inputParameters_component,
      List.map_map]
    exact ⟨rfl, rfl⟩
  outputs := fun _ _ listed _ _ taken => outputs_view distinct resolved listed taken
  waits := by
    intro id seen listed
    obtain ⟨node, _, _, rfl⟩ := (mem_tasks_iff distinct).1 listed
    exact waits_task node
  acyclic := acyclic_view distinct acyclic

end

/-- A graph that has an order has a specification, in whatever order its nodes are listed, and each
reference in it leads to an entry. -/
theorem closed_of_hasOrder {nodes : List Node} {definition : Definition}
    (ordered : Graph.HasOrder nodes) (same : definition.nodes.Perm nodes) :
    ∃ manifest view, Backend.build .v2 definition = .ok manifest ∧
      SpecView.read? manifest = some view ∧ view.Closed definition.nodes := by
  obtain ⟨distinct, resolved, acyclic⟩ := Graph.hasOrder_iff.1 (ordered.perm same)
  exact ⟨_, _, rfl, SpecView.read?_toJson _, closed_view distinct resolved acyclic⟩

/-- Two nodes in the wrong order, of which the second has as its name the name of an executor. -/
def reversed : Definition where
  name := "taxi"
  displayName := "taxi"
  root := "root"
  image := "image:latest"
  nodes := [
    .setParameter (.consume (.consume (.ofType "Gen" .other) "eval"
      ⟨"Gen_executor", "examples", "Examples"⟩) "train"
        ⟨"Gen_executor", "examples", "Examples"⟩) "steps" (.int 3),
    .declare (.ofType "Gen_executor" .other) "examples" "Examples"]
  engineArguments := []
  enableCache := false

theorem closed_of_hasOrder_reversed :
    ∃ manifest view, Graph.HasOrder reversed.nodes ∧ Backend.build .v2 reversed = .ok manifest ∧
      SpecView.read? manifest = some view ∧ view.Closed reversed.nodes ∧
      view.tasks.map (fun task => (task.1, task.2.component, task.2.dependentTasks)) = [
        ("Gen", "Gen_component", ["Gen_executor"]),
        ("Gen_executor", "Gen_executor_component", [])] ∧
      view.executors.map (·.1) = ["Gen_executor", "Gen_executor_executor"] := by
  have hasOrder : (Graph.order reversed.nodes).toOption.map (·.map (·.id)) =
      some ["Gen_executor", "Gen"] := by
    rw [Graph.order_eq_visit (by decide +kernel) (by decide +kernel)]
    cbv
  obtain ⟨sorted, ordered, -⟩ := Sequence.exists_ok_of_toOption hasOrder
  obtain ⟨manifest, view, built, read, closed⟩ := closed_of_hasOrder ⟨sorted, ordered⟩ (.refl _)
  have seen : ((Backend.build .v2 reversed).toOption.bind SpecView.read?).map (fun view =>
      (view.tasks.map (fun task => (task.1, task.2.component, task.2.dependentTasks)),
        view.executors.map (·.1))) =
      some ([
        ("Gen", "Gen_component", ["Gen_executor"]),
        ("Gen_executor", "Gen_executor_component", [])],
        ["Gen_executor", "Gen_executor_executor"]) := by decide +kernel
  have same := Sequence.look_eq_of_bind built read seen
  obtain ⟨tasks, executors⟩ := Prod.mk.inj same
  exact ⟨manifest, view, ⟨sorted, ordered⟩, built, read, closed, tasks, executors⟩

end PipelineSpec

end PipelineManifest
