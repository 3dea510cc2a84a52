import PipelineManifest.Proofs.Graph.Expansion
import PipelineManifest.Proofs.Manifest.RoundTrip

/-!
# The workflow of a repaired graph

The deployment that repairs a graph comes last in its order, and the template name of a node depends
on the entrypoint and on the nodes ahead of it only. So the workflow of the repaired graph has one
more task and one more template at the ends of its lists, and nothing else in the document is new.

Results:
1. `Json.change?_record`: what a change at the end of a path of members does to a record.
2. `Workflow.extend?_toJson`: how the document of a workflow is changed to be that of the workflow
   with one more task and one more template.
3. `Workflow.templateNames_concat`, `Workflow.taskName_concat`: the names of nodes stay when one
   more node follows.
4. `Workflow.outline_concat`: the workflow of a pipeline with one more node.
5. `Backend.workflow_expand`: the workflows of a graph and of its repair.
-/

namespace PipelineManifest

/-! ## Changes of documents -/

namespace Json

/-- Changes the value at the end of a path of members, if it is there and can be changed. -/
def change? : List String → (Json → Option Json) → Json → Option Json
  | [], change, value => change value
  | name :: path, change, .object members => do
    let held ← members.lookup name
    let changed ← change? path change held
    return .object (members.map fun (key, value) => (key, if key = name then changed else value))
  | _ :: _, _, _ => none

/-- Puts an item behind those of an array. -/
def addItem? (item : Json) : Json → Option Json
  | .array items => some (.array (items ++ [item]))
  | _ => none

@[simp] theorem change?_nil (change : Json → Option Json) (value : Json) :
    value.change? [] change = change value := rfl

@[simp] theorem change?_record (name : String) (path : List String) (change : Json → Option Json)
    (members : List (String × Json)) :
    (record members).change? (name :: path) change =
      (Dictionary.lastValue? members name).bind fun held =>
        (held.change? path change).map fun changed =>
          record (members.map fun (key, value) =>
            (key, if key = name then changed else value)) := by
  -- the members are listed by name, and the change keeps the names, so they stay in their places
  have kept : ∀ changed, record (members.map fun (key, value) =>
      (key, if key = name then changed else value)) =
        .object ((Dictionary.ofList members).entries.map fun (key, value) =>
          (key, if key = name then changed else value)) := fun changed =>
    congrArg ofDictionary (Dictionary.mapValues_ofList
      (fun key value => if key = name then changed else value) members).symm
  rw [← Dictionary.find?_ofList]
  simp only [kept]
  show _ = ((Dictionary.ofList members).entries.lookup name).bind _
  rw [record, ofDictionary, change?]
  cases (Dictionary.ofList members).entries.lookup name with
  | none => rfl
  | some held =>
    show (held.change? path change >>= _) = Option.map _ (held.change? path change)
    cases held.change? path change <;> rfl

end Json

namespace Workflow

/-- The templates of a workflow with one more task in the first of them and one more template. -/
def extendTemplates? (task : WorkflowTask) (template : WorkflowTemplate) : Json → Option Json
  | .array (first :: rest) => do
    let first ← first.change? ["dag", "tasks"] (Json.addItem? task.toJson)
    return .array (first :: (rest ++ [template.toJson]))
  | _ => none

/-- The document of a workflow with one more task and one more template, and otherwise as it is. -/
def extend? (task : WorkflowTask) (template : WorkflowTemplate) : Json → Option Json :=
  Json.change? ["spec", "templates"] (extendTemplates? task template)

theorem extend?_toJson (workflow : Workflow) (task : WorkflowTask) (template : WorkflowTemplate) :
    extend? task template workflow.toJson = some (toJson { workflow with
      tasks := workflow.tasks ++ [task]
      templates := workflow.templates ++ [template] }) := by
  simp [extend?, toJson, extendTemplates?, Json.addItem?]

/-! ## Names -/

/-- A node that comes last gets a name of its own, and no other name is given out anew. -/
theorem templateNames_concat (nodes : List Node) (node : Node) (entrypoint : String) :
    ∃ name, templateNames (nodes ++ [node]) entrypoint =
      (templateNames nodes entrypoint).insert node.id name := by
  rw [templateNames, templateNames, allocate_append, Dictionary.ofList, List.foldl_append]
  exact ⟨_, rfl⟩

end Workflow

/-- A pipeline with one more node that runs after all others. -/
def Definition.concat (definition : Definition) (node : Node) : Definition :=
  { definition with nodes := definition.nodes ++ [node] }

namespace Workflow

section

variable (definition : Definition) {node : Node}

theorem taskName_concat (fresh : node.id ∉ definition.nodes.map (·.id)) {id : String}
    (known : id ∈ definition.nodes.map (·.id)) :
    taskName (definition.concat node) id = taskName definition id := by
  have apart : node.id ≠ id := fun same => fresh (same ▸ known)
  obtain ⟨name, names⟩ :=
    templateNames_concat definition.nodes node (templateName definition.name)
  show nameIn (templateNames (definition.nodes ++ [node]) (templateName definition.name)) id = _
  rw [names, nameIn, Dictionary.find?_insert, if_neg apart]
  rfl

/-- The task of a node that runs after all others. -/
def lastTask (node : Node) : WorkflowTask :=
  let name := taskName (definition.concat node)
  ⟨name node.id, node.producerIds.map name⟩

/-- The template of a node that runs after all others. -/
def lastTemplate (node : Node) : WorkflowTemplate where
  name := taskName (definition.concat node) node.id
  componentType := node.componentType
  role := node.role
  container := definition.container node

/-- The names of the old nodes stay, and what the workflow says of them is said with these alone. -/
theorem outline_concat (fresh : node.id ∉ definition.nodes.map (·.id))
    (first : Graph.ProducersFirst definition.nodes) :
    outline (definition.concat node) (taskName (definition.concat node)) =
      { outline definition (taskName definition) with
        tasks := (outline definition (taskName definition)).tasks ++ [lastTask definition node]
        templates := (outline definition (taskName definition)).templates ++
          [lastTemplate definition node] } := by
  have named : ∀ other ∈ definition.nodes,
      taskName (definition.concat node) other.id = taskName definition other.id :=
    fun other member => taskName_concat definition fresh (List.mem_map_of_mem member)
  have waits : ∀ other ∈ definition.nodes,
      other.producerIds.map (taskName (definition.concat node)) =
        other.producerIds.map (taskName definition) := fun other member =>
    List.map_congr_left fun id consumed =>
      taskName_concat definition fresh (first.known member consumed)
  have tasks : definition.nodes.map (fun other =>
        WorkflowTask.mk (taskName (definition.concat node) other.id)
          (other.producerIds.map (taskName (definition.concat node)))) =
      (outline definition (taskName definition)).tasks :=
    List.map_congr_left fun other member => by rw [named other member, waits other member]
  have templates : definition.nodes.map (fun other =>
        WorkflowTemplate.mk (taskName (definition.concat node) other.id) other.componentType
          other.role (definition.container other)) =
      (outline definition (taskName definition)).templates :=
    List.map_congr_left fun other member => by rw [named other member]
  rw [← tasks, ← templates]
  simp only [outline, Definition.concat, List.map_append, List.map_cons, List.map_nil]
  rfl

end

end Workflow

/-! ## Repaired graphs -/

namespace Backend

/-- The workflow of a graph that is repaired is that of the graph with one more task and one more
template at the end, those of the deployment. All else in the document stays as it is, the names of
the tasks and what they wait for included. -/
theorem workflow_expand {nodes : List Node} (ordered : Graph.HasOrder nodes) {target : String}
    {expansion : Expansion} (repaired : Graph.expand nodes target = .ok expansion)
    (expanded : expansion.expanded = true) (settings : Settings) (arguments : List String) :
    ∃ before after view node task template,
      buildGraph .v1 (Manifest.definition settings nodes arguments) nodes = .ok before ∧
      buildGraph .v1 (Manifest.definition settings expansion.nodes arguments) expansion.nodes =
        .ok after ∧
      Workflow.extend? task template before = some after ∧
      WorkflowView.read? before = some view ∧
      WorkflowView.read? after = some { view with
        tasks := view.tasks ++ [task.view]
        templates := view.templates ++ [template.view] } ∧
      expansion.nodes = nodes ++ [node] ∧ template.name = task.name ∧
      template.container.arguments[5]? = some node.id := by
  obtain ⟨sorted, ordered⟩ := ordered
  obtain ⟨node, appended, fresh, offered⟩ := Graph.exists_deployment repaired expanded
  have ordered' := Graph.order_concat ordered fresh offered
  obtain ⟨same, _, first⟩ := Graph.perm_of_order ordered
  obtain ⟨_, _, first'⟩ := Graph.perm_of_order ordered'
  have fresh' : node.id ∉ sorted.map (·.id) := fun known =>
    fresh ((same.map _).mem_iff.1 known)
  have before := (Manifest.buildGraph_of_order ordered .v1 settings arguments).trans
    (Workflow.build_eq_outline first)
  have after := (Manifest.buildGraph_of_order ordered' .v1 settings arguments).trans
    (Workflow.build_eq_outline first')
  have document : Manifest.definition settings (sorted ++ [node]) arguments =
      (Manifest.definition settings sorted arguments).concat node := rfl
  rw [document, Workflow.outline_concat _ fresh' first] at after
  rw [appended]
  refine ⟨_, _, _, node, _, _, before, after, Workflow.extend?_toJson _ _ _,
    WorkflowView.read?_toJson _, ?_, rfl, rfl, rfl⟩
  rw [WorkflowView.read?_toJson]
  simp [Workflow.view]

/-- A graph whose deployment has the name of one of its nodes but for a capital letter. -/
def shadowed : List Node :=
  [.csvExampleGen "/data",
    .trainer ⟨"CsvExampleGen", "examples", "Examples"⟩ "taxi.run_fn" 2 1,
    .ofType "pusher" .other]

/-- The graph with its deployment. -/
def shadowedRepair : Expansion where
  nodes := shadowed ++
    [Graph.deployment shadowed ⟨"Trainer", "model", "Model"⟩ none "serving_model"]
  expanded := true

/-- A pipeline whose entrypoint has the name that the template of the deployment would get next. -/
def shadowing : Settings := { Manifest.parcel with sanitizedName := "pusher-2" }

theorem workflow_expand_shadowed :
    ∃ before after view task template, Graph.HasOrder shadowed ∧
      Graph.expand shadowed "serving_model" = .ok shadowedRepair ∧
      buildGraph .v1 (Manifest.definition shadowing shadowed []) shadowed = .ok before ∧
      buildGraph .v1 (Manifest.definition shadowing shadowedRepair.nodes []) shadowedRepair.nodes =
        .ok after ∧
      Workflow.extend? task template before = some after ∧
      WorkflowView.read? before = some view ∧ view.entrypoint = "pusher-2" ∧
      (view.tasks ++ [task.view]).map (fun task => (task.name, task.dependencies)) = [
        ("csvexamplegen", none),
        ("trainer", some ["csvexamplegen"]),
        ("pusher", none),
        ("pusher-3", some ["trainer"])] := by
  have ordered : Graph.order shadowed = .ok shadowed := by
    rw [Graph.order_eq_visit (by decide +kernel) (by decide +kernel)]
    cbv
  have repaired : Graph.expand shadowed "serving_model" = .ok shadowedRepair := rfl
  have ordered' : Graph.order shadowedRepair.nodes = .ok shadowedRepair.nodes := by
    rw [Graph.order_eq_visit (by decide +kernel) (by decide +kernel)]
    cbv
  obtain ⟨before, after, view, node, task, template, built, built', extended, read, read', -⟩ :=
    workflow_expand ⟨_, ordered⟩ repaired rfl shadowing []
  have seen : ((build .v1 (Manifest.definition shadowing shadowedRepair.nodes
      [])).toOption.bind WorkflowView.read?).map (fun view =>
        (view.entrypoint, view.tasks.map fun task => (task.name, task.dependencies))) =
      some ("pusher-2", [
        ("csvexamplegen", none),
        ("trainer", some ["csvexamplegen"]),
        ("pusher", none),
        ("pusher-3", some ["trainer"])]) := by decide +kernel
  have built'' := (Manifest.buildGraph_of_order ordered' .v1 shadowing []).symm.trans built'
  have same := Sequence.look_eq_of_bind built'' read' seen
  obtain ⟨entrypoint, tasks⟩ := Prod.mk.inj same
  exact ⟨before, after, view, task, template, ⟨_, ordered⟩, repaired, built, built', extended, read,
    entrypoint, tasks⟩

end Backend

end PipelineManifest
