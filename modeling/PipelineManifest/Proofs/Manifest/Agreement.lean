import PipelineManifest.Manifest.Document
import PipelineManifest.Proofs.Manifest.PipelineSpec
import PipelineManifest.Proofs.Manifest.Workflow

/-!
# Agreement of the two manifests

A workflow has its tasks under names that are given out for it, a specification under the names of
the nodes. Either says of each task which container it starts and which tasks it waits for, and up
to the names both say the same.

Results:
1. `Renames.ready_iff`, `Renames.schedule_iff`: manifests that differ by a renaming can start the
   same tasks, and so they start the same containers in the same orders.
2. `Workflow.step?_outline`, `PipelineSpec.step?_view`: the step of a node in the two manifests.
3. `Manifest.compile_ofMode`: what a compilation makes of the manifest of its graph.
4. `Backend.manifests_agree`: the two manifests of a pipeline differ by a renaming, and a graph has
   both or, for the same reason, none.
-/

namespace PipelineManifest

/-! ## Steps and schedules -/

/-- A container to be started when some tasks are done. -/
structure Step where
  container : Json
  waits : List String

def Step.rename (name : String → String) (step : Step) : Step :=
  { step with waits := step.waits.map name }

/-- The task of a name, with the container of its template. -/
def WorkflowView.step? (view : WorkflowView) (name : String) : Option Step := do
  let task ← view.tasks.find? (·.name = name)
  let template ← view.templates.find? (·.name = task.template)
  return ⟨template.container, task.dependencies.getD []⟩

/-- The task of a name, with the container of the executor of its component. -/
def SpecView.step? (view : SpecView) (id : String) : Option Step := do
  let task ← view.tasks.lookup id
  let component ← view.components.lookup task.component
  let container ← view.executors.lookup component.executor
  return ⟨container, task.dependentTasks⟩

theorem WorkflowView.step?_eq_some {view : WorkflowView} {name : String} {task : TaskView}
    {template : TemplateView} (listed : view.tasks.find? (·.name = name) = some task)
    (started : view.templates.find? (·.name = task.template) = some template) :
    view.step? name = some ⟨template.container, task.dependencies.getD []⟩ := by
  rw [step?, listed, Option.bind_eq_bind, Option.bind_some, started]
  rfl

theorem SpecView.step?_eq_some {view : SpecView} {id : String} {task : SpecTaskView}
    {component : SpecComponentView} {container : Json}
    (listed : view.tasks.lookup id = some task)
    (declared : view.components.lookup task.component = some component)
    (started : view.executors.lookup component.executor = some container) :
    view.step? id = some ⟨container, task.dependentTasks⟩ := by
  rw [step?, listed, Option.bind_eq_bind, Option.bind_some, declared, Option.bind_eq_bind,
    Option.bind_some, started]
  rfl

theorem WorkflowView.name_mem_of_step? {view : WorkflowView} {name : String} {step : Step}
    (found : view.step? name = some step) : name ∈ view.tasks.map (·.name) := by
  obtain ⟨task, listed, -⟩ := Option.bind_eq_some_iff.1 found
  have named : task.name = name := by simpa using List.find?_some listed
  exact List.mem_map.2 ⟨task, List.mem_of_find?_eq_some listed, named⟩

theorem SpecView.id_mem_of_step? {view : SpecView} {id : String} {step : Step}
    (found : view.step? id = some step) : id ∈ view.tasks.map (·.1) := by
  obtain ⟨task, listed, -⟩ := Option.bind_eq_some_iff.1 found
  exact Dictionary.isSome_lookup_iff.1 (Option.isSome_of_eq_some listed)

/-- A task can be started: it is not done, and those that it waits for are. -/
def Ready (step? : String → Option Step) (done : List String) (name : String) (step : Step) :
    Prop :=
  step? name = some step ∧ name ∉ done ∧ ∀ waited ∈ step.waits, waited ∈ done

/-- Tasks in an order in which they can be done, each with the container that it starts. -/
inductive Schedule (step? : String → Option Step) : List (String × Json) → Prop
  | nil : Schedule step? []
  | start {done : List (String × Json)} {name : String} {step : Step} :
      Schedule step? done → Ready step? (done.map (·.1)) name step →
      Schedule step? (done ++ [(name, step.container)])

/-! ## Renamings -/

/-- The tasks of `second` are those of `first`, which are called `ids`, under other names. -/
structure Renames (name : String → String) (ids : List String)
    (first second : String → Option Step) : Prop where
  injective : ∀ id ∈ ids, ∀ other ∈ ids, name id = name other → id = other
  steps : ∀ id ∈ ids, ∃ step, first id = some step ∧ second (name id) = some (step.rename name) ∧
    ∀ waited ∈ step.waits, waited ∈ ids
  known : ∀ id step, first id = some step → id ∈ ids
  onto : ∀ task step, second task = some step → ∃ id ∈ ids, name id = task

namespace Renames

variable {name : String → String} {ids : List String} {first second : String → Option Step}

theorem fst_map (done : List (String × Json)) :
    (done.map (Prod.map name id)).map (·.1) = (done.map (·.1)).map name := by
  rw [List.map_map, List.map_map]
  rfl

theorem mem_map_iff (renames : Renames name ids first second) {done : List String}
    (known : ∀ id ∈ done, id ∈ ids) {id : String} (member : id ∈ ids) :
    name id ∈ done.map name ↔ id ∈ done := by
  refine ⟨fun isDone => ?_, List.mem_map_of_mem⟩
  obtain ⟨other, inDone, same⟩ := List.mem_map.1 isDone
  exact renames.injective other (known other inDone) id member same ▸ inDone

/-- One step: what can be started in the one manifest can be started in the other. -/
theorem ready_iff (renames : Renames name ids first second) {done : List String}
    (known : ∀ id ∈ done, id ∈ ids) {id : String} {step : Step} (found : first id = some step) :
    Ready second (done.map name) (name id) (step.rename name) ↔ Ready first done id step := by
  have member := renames.known id step found
  obtain ⟨_, same, renamed, waits⟩ := renames.steps id member
  obtain rfl := Option.some.inj (found.symm.trans same)
  -- the renaming is injective on `ids` only, and both the tasks done and those awaited are there
  have waited : (∀ task ∈ (step.rename name).waits, task ∈ done.map name) ↔
      ∀ other ∈ step.waits, other ∈ done := by
    rw [Step.rename, List.forall_mem_map]
    exact forall₂_congr fun other awaited => renames.mem_map_iff known (waits other awaited)
  unfold Ready
  rw [renames.mem_map_iff known member, waited]
  exact ⟨fun ready => ⟨found, ready.2⟩, fun ready => ⟨renamed, ready.2⟩⟩

theorem known_of_schedule (renames : Renames name ids first second) {done : List (String × Json)}
    (schedule : Schedule first done) : ∀ id ∈ done.map (·.1), id ∈ ids := by
  induction schedule with
  | nil => exact fun _ impossible => nomatch impossible
  | start _ ready ih =>
    rw [List.map_append, List.forall_mem_append]
    exact ⟨ih, List.forall_mem_singleton.2 (renames.known _ _ ready.1)⟩

theorem schedule_map (renames : Renames name ids first second) {done : List (String × Json)}
    (schedule : Schedule first done) : Schedule second (done.map (Prod.map name id)) := by
  induction schedule with
  | nil => exact .nil
  | start before ready ih =>
    have started := (renames.ready_iff (renames.known_of_schedule before) ready.1).2 ready
    rw [← fst_map] at started
    have next := Schedule.start ih started
    rw [List.map_append]
    exact next

/-- Whole runs: the second manifest can do just what the first can. -/
theorem schedule_iff (renames : Renames name ids first second) {done : List (String × Json)} :
    Schedule second done ↔
      ∃ before, Schedule first before ∧ before.map (Prod.map name id) = done := by
  constructor
  · intro schedule
    -- what is done in the second manifest is at any time the renaming of what is done in the first
    induction schedule with
    | nil => exact ⟨[], .nil, rfl⟩
    | @start _ task step _ ready ih =>
      obtain ⟨before, scheduled, rfl⟩ := ih
      obtain ⟨id, member, rfl⟩ := renames.onto task step ready.1
      obtain ⟨original, found, renamed, _⟩ := renames.steps id member
      obtain rfl := Option.some.inj (ready.1.symm.trans renamed)
      rw [fst_map] at ready
      have started := (renames.ready_iff (renames.known_of_schedule scheduled) found).1 ready
      exact ⟨before ++ [(id, original.container)], .start scheduled started, List.map_append⟩
  · rintro ⟨before, scheduled, rfl⟩
    exact renames.schedule_map scheduled

end Renames

/-! ## The two manifests of a pipeline -/

theorem PipelineSpec.step?_view {definition : Definition}
    (distinct : Graph.Distinct definition.nodes) {node : Node} (member : node ∈ definition.nodes) :
    (ofDefinition definition).view.step? node.id =
      some ⟨(definition.container node).toJson, node.producerIds⟩ := by
  obtain ⟨tasks, components, executors⟩ := nodup_view (ofDefinition definition)
  have listed : (node.id, (task node).view) ∈ (ofDefinition definition).view.tasks :=
    (mem_tasks_iff distinct).2 ⟨node, member, rfl, rfl⟩
  have declared : (componentName node.id, (component node).view) ∈
      (ofDefinition definition).view.components :=
    (mem_components_of_node distinct member).2 rfl
  have started : (executorLabel node.id, (definition.container node).toJson) ∈
      (ofDefinition definition).view.executors :=
    (executors_perm distinct).mem_iff.2 (List.mem_map_of_mem member)
  exact SpecView.step?_eq_some ((Dictionary.lookup_eq_some_iff tasks).2 listed)
    ((Dictionary.lookup_eq_some_iff components).2 declared)
    ((Dictionary.lookup_eq_some_iff executors).2 started)

/-- Nodes in order can all be done, one behind the other. -/
theorem PipelineSpec.schedule_of_prefix {definition : Definition}
    (distinct : Graph.Distinct definition.nodes) (first : Graph.ProducersFirst definition.nodes)
    (before : List Node) : before <+: definition.nodes →
      Schedule (ofDefinition definition).view.step?
        (before.map fun node => (node.id, (definition.container node).toJson)) := by
  induction before using List.reverseRecOn with
  | nil => exact fun _ => .nil
  | append_singleton before node ih =>
    rintro ⟨after, split⟩
    have member : node ∈ definition.nodes := split ▸ by simp
    have scheduled := ih ⟨node :: after, by rw [← split, List.append_assoc]; rfl⟩
    have ids : (before.map fun node => (node.id, (definition.container node).toJson)).map (·.1) =
        before.map (·.id) := List.map_map
    have new : node.id ∉ before.map (·.id) := by
      rw [Graph.Distinct, ← split, List.map_append, List.map_append] at distinct
      exact (List.nodup_append_comm.1 (List.nodup_append.1 distinct).1).notMem
    have produced : ∀ id ∈ node.producerIds, id ∈ before.map (·.id) :=
      first before node after (by rw [← split, List.append_assoc]; rfl)
    rw [List.map_append]
    refine .start scheduled ⟨step?_view distinct member, ?_, ?_⟩
    · rwa [ids]
    · rwa [ids]

theorem Workflow.step?_outline {definition : Definition} {name : String → String}
    (naming : IsNaming definition.nodes (templateName definition.name) name) {node : Node}
    (member : node ∈ definition.nodes) :
    (outline definition name).view.step? (name node.id) =
      some ⟨(definition.container node).toJson, node.producerIds.map name⟩ := by
  obtain ⟨tasks, templates⟩ := nodup_outline naming
  have listed := Sequence.find?_eq_some tasks (mem_tasks_outline member) rfl
  have started := Sequence.find?_eq_some templates (mem_templates_outline member) rfl
  refine (WorkflowView.step?_eq_some listed started).trans ?_
  rw [dependencies_view]
  rfl

/-- The workflow is the specification under the names of the workflow. -/
theorem Workflow.renames_outline {definition : Definition} {name : String → String}
    (naming : IsNaming definition.nodes (templateName definition.name) name)
    (distinct : Graph.Distinct definition.nodes) (first : Graph.ProducersFirst definition.nodes) :
    Renames name (definition.nodes.map (·.id)) (PipelineSpec.ofDefinition definition).view.step?
      (outline definition name).view.step? where
  injective := fun _ known₁ _ known₂ same => naming.inj known₁ known₂ same
  steps := by
    rw [List.forall_mem_map]
    intro node member
    exact ⟨_, PipelineSpec.step?_view distinct member, step?_outline naming member,
      fun _ awaited => first.known member awaited⟩
  known := fun id step found => by
    have listed := SpecView.id_mem_of_step? found
    rwa [((PipelineSpec.tasks_perm distinct).map (·.1)).mem_iff, List.map_map] at listed
  onto := fun task step found => by
    have listed := WorkflowView.name_mem_of_step? found
    rw [names_tasks_outline] at listed
    obtain ⟨node, member, named⟩ := List.mem_map.1 listed
    exact ⟨node.id, List.mem_map_of_mem member, named⟩

/-! ## The manifest of a graph -/

/-- The manifest of a graph, whose nodes need not be in order. -/
def Backend.buildGraph (mode : ExecutionMode) (definition : Definition) (nodes : List Node) :
    Except CompileError Json :=
  match Graph.order nodes with
  | .ok sorted => build mode { definition with nodes := sorted }
  | .error error => .error (.graph error)

namespace Manifest

/-- What is read back of the file of a backend. -/
def reread (file : String) (contents : Option ByteArray) : Except CompileError Json := do
  let tree ← match contents with
    | none => pure scratchTree
    | some contents =>
      match scratchTree.overwrite scratchDirectory (Path.ofText (scratchPath file)) contents with
      | .ok written => pure written
      | .error error => throw (.file error)
  readAt tree scratchDirectory (scratchPath file)

theorem native_eq_emit (backend : Backend) (definition : Definition) :
    native backend definition = backend.emit definition >>= reread backend.nativeFile := by
  unfold native
  cases backend.emit definition <;> rfl

/-- A compilation fails as the manifest of its graph does, and otherwise goes on with the text of
it. -/
theorem compile_ofMode (mode : ExecutionMode) (settings : Settings) (nodes : List Node)
    (arguments : List String) :
    compile (Backend.ofMode mode) settings nodes arguments = (do
      let manifest ← Backend.buildGraph mode (definition settings nodes arguments) nodes
      let text := (Backend.text mode manifest).toUTF8
      let document ← reread (Backend.ofMode mode).nativeFile (some text)
      match settings.executionMode with
      | .v1 => return document
      | .v2 => return job document settings.sanitizedName) := by
  unfold compile Backend.buildGraph
  cases Graph.order nodes with
  | error error => rfl
  | ok sorted =>
    show (native _ _ >>= _) = Backend.build mode (definition settings sorted arguments) >>= _
    rw [native_eq_emit, Backend.emit_ofMode]
    show (_ <$> Backend.build mode (definition settings sorted arguments) >>= _) >>= _ = _
    rw [bind_map_left]
    exact bind_assoc ..

end Manifest

/-! ## Agreement -/

/-- A workflow and a specification, as they are read, describe the nodes of a list alike. -/
structure Agreement (workflow : WorkflowView) (spec : SpecView) (nodes : List Node)
    (name : String → String) : Prop where
  injective : ∀ node ∈ nodes, ∀ other ∈ nodes, name node.id = name other.id → node.id = other.id
  tasks : workflow.tasks.map (·.name) = nodes.map (name ·.id)
  ids : (spec.tasks.map (·.1)).Perm (nodes.map (·.id))
  /-- The two tasks of a node start the same container, and they wait for the tasks of the same
  nodes, listed in the same order. -/
  steps : ∀ node ∈ nodes, ∃ step, spec.step? node.id = some step ∧
    workflow.step? (name node.id) = some (step.rename name)
  /-- All tasks can be done. -/
  complete : ∃ done, Schedule spec.step? done ∧ done.map (·.1) = nodes.map (·.id)
  /-- They can be done in the same orders, with the same containers. -/
  schedules : ∀ done, Schedule workflow.step? done ↔
    ∃ before, Schedule spec.step? before ∧ before.map (Prod.map name id) = done

namespace Backend

theorem agreement_outline {definition : Definition} (distinct : Graph.Distinct definition.nodes)
    (first : Graph.ProducersFirst definition.nodes) :
    Agreement (Workflow.outline definition (Workflow.taskName definition)).view
      (PipelineSpec.ofDefinition definition).view definition.nodes
      (Workflow.taskName definition) := by
  have naming := Workflow.isNaming_templateNames distinct (Workflow.templateName definition.name)
  have renames := Workflow.renames_outline naming distinct first
  constructor
  · exact fun node member other otherMember =>
      naming.inj (List.mem_map_of_mem member) (List.mem_map_of_mem otherMember)
  · exact Workflow.names_tasks_outline
  · have listed := (PipelineSpec.tasks_perm distinct).map (·.1)
    rwa [List.map_map] at listed
  · intro node member
    obtain ⟨step, found, renamed, _⟩ := renames.steps node.id (List.mem_map_of_mem member)
    exact ⟨step, found, renamed⟩
  · exact ⟨_, PipelineSpec.schedule_of_prefix distinct first _ List.prefix_rfl, List.map_map⟩
  · exact fun done => renames.schedule_iff

/-- Nodes in order have both manifests, and these agree. A graph in any order has both, or it has
none and fails in both modes alike. -/
theorem manifests_agree (definition : Definition) :
    (∀ nodes, Graph.order nodes = .ok definition.nodes →
      ∃ workflow spec workflowView specView name,
        build .v1 definition = .ok workflow ∧ build .v2 definition = .ok spec ∧
        WorkflowView.read? workflow = some workflowView ∧ SpecView.read? spec = some specView ∧
        Agreement workflowView specView definition.nodes name) ∧
    ∀ nodes,
      (∃ workflow spec, buildGraph .v1 definition nodes = .ok workflow ∧
        buildGraph .v2 definition nodes = .ok spec) ∨
      ∃ error, buildGraph .v1 definition nodes = .error error ∧
        buildGraph .v2 definition nodes = .error error := by
  constructor
  · intro nodes ordered
    obtain ⟨_, distinct, first⟩ := Graph.perm_of_order ordered
    exact ⟨_, _, _, _, _, Workflow.build_eq_outline first, rfl, WorkflowView.read?_toJson _,
      SpecView.read?_toJson _, agreement_outline distinct first⟩
  · intro nodes
    unfold buildGraph
    cases ordered : Graph.order nodes with
    | error error => exact .inr ⟨_, rfl, rfl⟩
    | ok sorted =>
      obtain ⟨_, _, first⟩ := Graph.perm_of_order ordered
      exact .inl ⟨_, _, Workflow.build_eq_outline first, rfl⟩

/-- Two nodes whose names differ only in capital letters, and a node that consumes from both. -/
def lettered : Definition where
  name := "letters"
  displayName := "letters"
  root := "root"
  image := "image:latest"
  nodes := [
    .declare (.ofType "gen" .other) "examples" "Examples",
    .declare (.ofType "Gen" .other) "examples" "Examples",
    .consume (.consume (.ofType "Merge" .other) "first" ⟨"gen", "examples", "Examples"⟩)
      "second" ⟨"Gen", "examples", "Examples"⟩]
  engineArguments := []
  enableCache := false

/-- The names of the tasks come in another order than those of the nodes. What a task waits for is
listed in the order of the nodes in both manifests. -/
theorem manifests_agree_lettered :
    ∃ workflow spec name, Graph.order lettered.nodes = .ok lettered.nodes ∧
      Agreement workflow spec lettered.nodes name ∧
      workflow.tasks.map (fun task => (task.name, task.dependencies)) = [
        ("gen", none), ("gen-2", none), ("merge", some ["gen-2", "gen"])] ∧
      spec.tasks.map (fun task => (task.1, task.2.dependentTasks)) = [
        ("Gen", []), ("Merge", ["Gen", "gen"]), ("gen", [])] := by
  have ordered : Graph.order lettered.nodes = .ok lettered.nodes := by
    rw [Graph.order_eq_visit (by decide +kernel) (by decide +kernel)]
    cbv
  obtain ⟨workflow, spec, workflowView, specView, name, builtWorkflow, builtSpec, readWorkflow,
    readSpec, agreement⟩ := (manifests_agree lettered).1 _ ordered
  have tasks : ((build .v1 lettered).toOption.bind WorkflowView.read?).map
      (·.tasks.map fun task => (task.name, task.dependencies)) =
      some [("gen", none), ("gen-2", none), ("merge", some ["gen-2", "gen"])] := by
    decide +kernel
  have specTasks : ((build .v2 lettered).toOption.bind SpecView.read?).map
      (·.tasks.map fun task => (task.1, task.2.dependentTasks)) =
      some [("Gen", []), ("Merge", ["Gen", "gen"]), ("gen", [])] := by
    decide +kernel
  have same := Sequence.look_eq_of_bind builtWorkflow readWorkflow tasks
  have specSame := Sequence.look_eq_of_bind builtSpec readSpec specTasks
  exact ⟨workflowView, specView, name, ordered, agreement, same, specSame⟩

end Backend

end PipelineManifest
