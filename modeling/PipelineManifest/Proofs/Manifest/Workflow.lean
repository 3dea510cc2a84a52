import PipelineManifest.Manifest.Backend
import PipelineManifest.Proofs.Graph.Order
import PipelineManifest.Proofs.Json.Reading
import PipelineManifest.Proofs.Manifest.TemplateNames

/-!
# Workflows

A workflow is read as whoever runs it reads it: the template that it begins with holds the tasks, a
task names the template of its container and the tasks that it waits for.

Results:
1. `WorkflowView.read?_toJson`: what is read from the document of a workflow.
2. `Workflow.ofDefinition_eq_outline`: if every node consumes only from nodes that are there, there
   is a workflow, and it has a task and a template for each node.
3. `Workflow.runs_of_order`: the workflow of nodes in order runs each of them behind the nodes that
   it consumes from.
-/

namespace PipelineManifest

/-! ## Workflows as they are read -/

/-- A task of a workflow. It may have no member for the tasks that it waits for. -/
structure TaskView where
  name : String
  template : String
  dependencies : Option (List String)

/-- A template with a container. -/
structure TemplateView where
  name : String
  container : Json
  arguments : List String

structure WorkflowView where
  /-- The name of the template to begin with. -/
  entrypoint : String
  /-- The name of the first template. -/
  first : String
  /-- The tasks of the first template. -/
  tasks : List TaskView
  /-- The other templates. -/
  templates : List TemplateView

def TaskView.read? (value : Json) : Option TaskView := do
  let name ← value.at? ["name"] Json.text?
  let template ← value.at? ["template"] Json.text?
  match value.member? "dependencies" with
  | none => return ⟨name, template, none⟩
  | some list => return ⟨name, template, some (← list.list? Json.text?)⟩

def TemplateView.read? (value : Json) : Option TemplateView := do
  let name ← value.at? ["name"] Json.text?
  let container ← value.member? "container"
  return ⟨name, container, ← container.at? ["args"] (Json.list? Json.text?)⟩

namespace WorkflowView

/-- The name and the tasks of the first template, and the other templates. -/
def templates? : Json → Option (String × List TaskView × List TemplateView)
  | .array (first :: rest) => do
    let name ← first.at? ["name"] Json.text?
    let tasks ← first.at? ["dag", "tasks"] (Json.list? TaskView.read?)
    return (name, tasks, ← rest.mapM TemplateView.read?)
  | _ => none

def read? (document : Json) : Option WorkflowView := do
  let entrypoint ← document.at? ["spec", "entrypoint"] Json.text?
  let (first, tasks, templates) ← document.at? ["spec", "templates"] templates?
  return ⟨entrypoint, first, tasks, templates⟩

end WorkflowView

/-! ## Workflows as they are written -/

def WorkflowTask.view (task : WorkflowTask) : TaskView where
  name := task.name
  template := task.name
  dependencies := if task.dependencies.isEmpty then none else some task.dependencies

def WorkflowTemplate.view (template : WorkflowTemplate) : TemplateView where
  name := template.name
  container := template.container.toJson
  arguments := template.container.arguments

def Workflow.view (workflow : Workflow) : WorkflowView where
  entrypoint := workflow.entrypoint
  first := workflow.entrypoint
  tasks := workflow.tasks.map (·.view)
  templates := workflow.templates.map (·.view)

theorem TaskView.read?_toJson (task : WorkflowTask) :
    TaskView.read? task.toJson = some task.view := by
  unfold TaskView.read? WorkflowTask.toJson WorkflowTask.view
  by_cases waits : task.dependencies.isEmpty
  · simp [waits]
  · simp [waits]

theorem TemplateView.read?_toJson (template : WorkflowTemplate) :
    TemplateView.read? template.toJson = some template.view := by
  simp [TemplateView.read?, WorkflowTemplate.toJson, WorkflowTemplate.view, Container.toJson]

namespace WorkflowView

theorem at?_templates {β : Type} (read : Json → Option β) (workflow : Workflow) :
    workflow.toJson.at? ["spec", "templates"] read =
      read (.array (
        .record [
          ("name", .string workflow.entrypoint),
          ("dag", .record [("tasks", .array (workflow.tasks.map (·.toJson)))])] ::
        workflow.templates.map (·.toJson))) := by
  simp [Workflow.toJson]

theorem read?_toJson (workflow : Workflow) : read? workflow.toJson = some workflow.view := by
  have tasks := Json.list?_array TaskView.read?_toJson workflow.tasks
  have templates : (workflow.templates.map (·.toJson)).mapM TemplateView.read? =
      some (workflow.templates.map (·.view)) :=
    Json.list?_array TemplateView.read?_toJson workflow.templates
  have entrypoint : workflow.toJson.at? ["spec", "entrypoint"] Json.text? =
      some workflow.entrypoint := by
    simp [Workflow.toJson]
  rw [read?, entrypoint, at?_templates, templates?]
  simp [tasks, templates, Workflow.view]

end WorkflowView

/-! ## The workflow of a pipeline -/

namespace Workflow

/-- The workflow of a pipeline under names for its nodes. -/
def outline (definition : Definition) (name : String → String) : Workflow where
  entrypoint := templateName definition.name
  displayName := definition.displayName
  root := definition.root
  tasks := definition.nodes.map fun node => ⟨name node.id, node.producerIds.map name⟩
  templates := definition.nodes.map fun node =>
    ⟨name node.id, node.componentType, node.role, definition.container node⟩

/-- The name that a pipeline gives to a node. -/
def taskName (definition : Definition) : String → String :=
  nameIn (templateNames definition.nodes (templateName definition.name))

theorem task_of_known {nodes : List Node} {node : Node} (member : node ∈ nodes)
    (known : ∀ id ∈ node.producerIds, id ∈ nodes.map (·.id)) (entrypoint : String) :
    task (templateNames nodes entrypoint) node =
      .ok ⟨nameIn (templateNames nodes entrypoint) node.id,
        node.producerIds.map (nameIn (templateNames nodes entrypoint))⟩ := by
  have named := nameOf_templateNames (List.mem_map_of_mem member) entrypoint
  have dependencies := Sequence.mapM_eq_pure_map fun id consumed =>
    nameOf_templateNames (known id consumed) entrypoint
  rw [task, named]
  show (_ >>= _) = _
  rw [dependencies]
  rfl

theorem ofDefinition_eq_outline {definition : Definition}
    (known : ∀ node ∈ definition.nodes, ∀ id ∈ node.producerIds,
      id ∈ definition.nodes.map (·.id)) :
    ofDefinition definition = .ok (outline definition (taskName definition)) := by
  have tasks := Sequence.mapM_eq_pure_map fun node member =>
    task_of_known member (known node member) (templateName definition.name)
  simp only [ofDefinition]
  -- tasks and nodes come from one list, so pairing them is going through that list once
  rw [tasks, pure_bind, List.zip_eq_zipWith, List.zipWith_map_left, List.zipWith_self,
    List.map_map]
  rfl

end Workflow

/-! ## What a workflow is for -/

/-- A workflow, as it is read, runs the nodes of a list under names for them. -/
structure WorkflowView.Runs (view : WorkflowView) (nodes : List Node) (name : String → String) :
    Prop where
  /-- The first template is the one to begin with. -/
  begins : view.first = view.entrypoint
  distinct : (view.first :: view.templates.map (·.name)).Nodup
  label : ∀ template ∈ view.first :: view.templates.map (·.name), Workflow.IsLabel template
  /-- There is a container for each node, which is told the name of the node. -/
  containers : view.templates.map (fun template =>
      (template.arguments[4]?, template.arguments[5]?)) =
    nodes.map fun node => (some "--node_id", some node.id)
  tasks : view.tasks.map (·.name) = nodes.map (name ·.id)
  /-- A task starts a single template, and that is the one for its node. -/
  starts : List.Forall₂ (fun node task => ∃ template,
      view.templates.filter (·.name = task.template) = [template] ∧
      template.arguments[5]? = some node.id) nodes view.tasks
  /-- A task waits for the tasks of the nodes that its own node consumes from. -/
  waits : view.tasks.map (·.dependencies) = nodes.map fun node =>
    if node.producerIds = [] then none else some (node.producerIds.map name)
  once : ∀ task ∈ view.tasks, (task.dependencies.getD []).Nodup
  /-- A task stands behind the tasks that it waits for. -/
  earlier : ∀ before task after, view.tasks = before ++ task :: after →
    ∀ dependency ∈ task.dependencies.getD [], dependency ∈ before.map (·.name)

namespace Workflow

theorem IsNaming.inj {nodes : List Node} {entrypoint : String} {name : String → String}
    (naming : IsNaming nodes entrypoint name) {first second : String}
    (known₁ : first ∈ nodes.map (·.id)) (known₂ : second ∈ nodes.map (·.id))
    (same : name first = name second) : first = second := by
  have distinct := (List.nodup_cons.1 naming.distinct).2
  obtain ⟨node, member, rfl⟩ := List.mem_map.1 known₁
  obtain ⟨other, otherMember, rfl⟩ := List.mem_map.1 known₂
  exact congrArg Node.id (List.inj_on_of_nodup_map distinct member otherMember same)

theorem dependencies_view (task : WorkflowTask) :
    task.view.dependencies.getD [] = task.dependencies := by
  unfold WorkflowTask.view
  cases task.dependencies <;> rfl

section

variable {definition : Definition} {name : String → String}

theorem tasks_outline : (outline definition name).view.tasks = definition.nodes.map fun node =>
    WorkflowTask.view ⟨name node.id, node.producerIds.map name⟩ :=
  List.map_map

theorem templates_outline :
    (outline definition name).view.templates = definition.nodes.map fun node =>
      WorkflowTemplate.view
        ⟨name node.id, node.componentType, node.role, definition.container node⟩ :=
  List.map_map

theorem names_tasks_outline :
    (outline definition name).view.tasks.map (·.name) = definition.nodes.map (name ·.id) := by
  rw [tasks_outline, List.map_map]
  rfl

theorem names_templates_outline :
    (outline definition name).view.templates.map (·.name) = definition.nodes.map (name ·.id) := by
  rw [templates_outline, List.map_map]
  rfl

theorem mem_tasks_outline {node : Node} (member : node ∈ definition.nodes) :
    WorkflowTask.view ⟨name node.id, node.producerIds.map name⟩ ∈
      (outline definition name).view.tasks := by
  rw [tasks_outline]
  exact List.mem_map_of_mem member

theorem mem_templates_outline {node : Node} (member : node ∈ definition.nodes) :
    WorkflowTemplate.view
      ⟨name node.id, node.componentType, node.role, definition.container node⟩ ∈
        (outline definition name).view.templates := by
  rw [templates_outline]
  exact List.mem_map_of_mem member

theorem nodup_outline (naming : IsNaming definition.nodes (templateName definition.name) name) :
    ((outline definition name).view.tasks.map (·.name)).Nodup ∧
      ((outline definition name).view.templates.map (·.name)).Nodup := by
  rw [names_tasks_outline, names_templates_outline]
  have distinct := (List.nodup_cons.1 naming.distinct).2
  exact ⟨distinct, distinct⟩

theorem starts_outline (naming : IsNaming definition.nodes (templateName definition.name) name) :
    List.Forall₂ (fun node task => ∃ template,
      (outline definition name).view.templates.filter (·.name = task.template) = [template] ∧
      template.arguments[5]? = some node.id)
      definition.nodes (outline definition name).view.tasks := by
  rw [tasks_outline, List.forall₂_map_right_iff, List.forall₂_same]
  intro node member
  exact ⟨_,
    Sequence.filter_eq_singleton (nodup_outline naming).2 (mem_templates_outline member), rfl⟩

theorem waits_outline :
    (outline definition name).view.tasks.map (·.dependencies) = definition.nodes.map fun node =>
      if node.producerIds = [] then none else some (node.producerIds.map name) := by
  rw [tasks_outline, List.map_map]
  refine List.map_congr_left fun node _ => ?_
  simp [WorkflowTask.view]

/-- Two producers of one node have different names. -/
theorem once_outline (naming : IsNaming definition.nodes (templateName definition.name) name)
    (first : Graph.ProducersFirst definition.nodes) :
    ∀ task ∈ (outline definition name).view.tasks, (task.dependencies.getD []).Nodup := by
  rw [tasks_outline]
  intro task member
  obtain ⟨node, inNodes, rfl⟩ := List.mem_map.1 member
  rw [dependencies_view]
  refine (Dictionary.keys_nodup _).map_on fun one consumed other consumed' same => ?_
  exact naming.inj (first.known inNodes consumed) (first.known inNodes consumed') same

/-- The producers of a node stand ahead of it in the list of nodes, so their tasks stand ahead of
its task. -/
theorem earlier_outline (first : Graph.ProducersFirst definition.nodes)
    {before after : List TaskView} {task : TaskView}
    (split : (outline definition name).view.tasks = before ++ task :: after) :
    ∀ dependency ∈ task.dependencies.getD [], dependency ∈ before.map (·.name) := by
  rw [tasks_outline] at split
  obtain ⟨ahead, behind, inNodes, rfl, rest⟩ := List.map_eq_append_iff.1 split
  obtain ⟨node, others, rfl, rfl, -⟩ := List.map_eq_cons_iff.1 rest
  have produced := first ahead node others inNodes
  rw [dependencies_view, List.map_map]
  intro dependency member
  obtain ⟨id, consumed, rfl⟩ := List.mem_map.1 member
  obtain ⟨producer, inAhead, rfl⟩ := List.mem_map.1 (produced id consumed)
  exact List.mem_map.2 ⟨producer, inAhead, rfl⟩

theorem runs_outline (naming : IsNaming definition.nodes (templateName definition.name) name)
    (first : Graph.ProducersFirst definition.nodes) :
    (outline definition name).view.Runs definition.nodes name where
  begins := rfl
  distinct := by
    rw [names_templates_outline]
    exact naming.distinct
  label := by
    rw [names_templates_outline]
    intro template member
    rcases List.mem_cons.1 member with rfl | inTemplates
    · exact isLabel_templateName definition.name
    · obtain ⟨node, inNodes, rfl⟩ := List.mem_map.1 inTemplates
      exact naming.label node inNodes
  containers := by
    rw [templates_outline, List.map_map]
    rfl
  tasks := names_tasks_outline
  starts := starts_outline naming
  waits := waits_outline
  once := once_outline naming first
  earlier := fun _ _ _ split => earlier_outline first split

end

theorem build_eq_outline {definition : Definition}
    (first : Graph.ProducersFirst definition.nodes) :
    Backend.build .v1 definition = .ok (outline definition (taskName definition)).toJson := by
  rw [Backend.build, ofDefinition_eq_outline fun node member id => first.known member]
  rfl

/-- Nodes in order have a workflow. It runs each node in a container of its own, behind the nodes
that it consumes from, and its names are labels that are different from each other. -/
theorem runs_of_order {nodes : List Node} {definition : Definition}
    (ordered : Graph.order nodes = .ok definition.nodes) :
    ∃ manifest view name, Backend.build .v1 definition = .ok manifest ∧
      WorkflowView.read? manifest = some view ∧ view.Runs definition.nodes name := by
  obtain ⟨_, distinct, first⟩ := Graph.perm_of_order ordered
  have naming := isNaming_templateNames distinct (templateName definition.name)
  exact ⟨_, _, _, build_eq_outline first, WorkflowView.read?_toJson _, runs_outline naming first⟩

/-- A pipeline and two nodes whose names come down to one template name, and a node that has the
first numbered form of it. -/
def crowded : Definition where
  name := "trainer b"
  displayName := "trainer b"
  root := "root"
  image := "image:latest"
  nodes := [
    .declare (.ofType "Trainer_b" .other) "model" "Model",
    .declare (.consume (.ofType "Trainer-b" .other) "base" ⟨"Trainer_b", "model", "Model"⟩)
      "model" "Model",
    .consume (.consume (.ofType "Trainer-b-2" .other) "base" ⟨"Trainer_b", "model", "Model"⟩)
      "model" ⟨"Trainer-b", "model", "Model"⟩]
  engineArguments := []
  enableCache := false

theorem runs_of_order_crowded :
    ∃ manifest view name, Graph.order crowded.nodes = .ok crowded.nodes ∧
      Backend.build .v1 crowded = .ok manifest ∧ WorkflowView.read? manifest = some view ∧
      view.Runs crowded.nodes name ∧ view.entrypoint = "trainer-b" ∧
      view.tasks.map (fun task => (task.template, task.dependencies)) = [
        ("trainer-b-2", none),
        ("trainer-b-3", some ["trainer-b-2"]),
        ("trainer-b-2-2", some ["trainer-b-3", "trainer-b-2"])] := by
  have ordered : Graph.order crowded.nodes = .ok crowded.nodes := by
    rw [Graph.order_eq_visit (by decide +kernel) (by decide +kernel)]
    cbv
  obtain ⟨manifest, view, name, built, read, runs⟩ := runs_of_order ordered
  have seen : ((Backend.build .v1 crowded).toOption.bind WorkflowView.read?).map (fun view =>
      (view.entrypoint, view.tasks.map fun task => (task.template, task.dependencies))) =
      some ("trainer-b", [
        ("trainer-b-2", none),
        ("trainer-b-3", some ["trainer-b-2"]),
        ("trainer-b-2-2", some ["trainer-b-3", "trainer-b-2"])]) := by decide +kernel
  have same := Sequence.look_eq_of_bind built read seen
  obtain ⟨entrypoint, tasks⟩ := Prod.mk.inj same
  exact ⟨manifest, view, name, ordered, built, read, runs, entrypoint, tasks⟩

end Workflow

end PipelineManifest
