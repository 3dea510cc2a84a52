import PipelineManifest.Proofs.Manifest.RoundTrip

/-!
# What the tasks of a manifest start

Each task of a manifest leads to a container, and the container has a list of arguments: a flag for
the name of the pipeline, one for the node, one for the engine arguments and others. So a manifest
of either mode is read as a list of such lists, one for each of its tasks.

Results:
1. `starts?_map`: what tasks start whose steps are those of the nodes.
2. `Workflow.starts?_view`, `PipelineSpec.starts?_view`: what the tasks of a manifest start.
3. `Manifest.starts?_document`: the containers that a document starts are those of the nodes of its
   graph, each once.
-/

namespace PipelineManifest

/-! ## Reading the arguments -/

def containerArguments? (container : Json) : Option (List String) :=
  container.at? ["args"] (Json.list? Json.text?)

/-- The arguments of the containers that tasks start. -/
def starts? (step? : String → Option Step) (tasks : List String) : Option (List (List String)) :=
  tasks.mapM fun name => (step? name).bind fun step => containerArguments? step.container

def WorkflowView.starts? (view : WorkflowView) : Option (List (List String)) :=
  PipelineManifest.starts? view.step? (view.tasks.map (·.name))

def SpecView.starts? (view : SpecView) : Option (List (List String)) :=
  PipelineManifest.starts? view.step? (view.tasks.map (·.1))

/-- The arguments of the containers that the tasks of a document start, a list for each task. -/
def Manifest.starts? : ExecutionMode → Json → Option (List (List String))
  | .v1, document => (WorkflowView.read? document).bind (·.starts?)
  | .v2, document => (document.at? ["pipelineSpec"] SpecView.read?).bind (·.starts?)

theorem containerArguments?_toJson (container : Container) :
    containerArguments? container.toJson = some container.arguments := by
  simp [containerArguments?, Container.toJson]

/-! ## What is started -/

theorem starts?_map {definition : Definition} {step? : String → Option Step} {name : Node → String}
    {nodes : List Node}
    (steps : ∀ node ∈ nodes, ∃ waits, step? (name node) =
      some ⟨(definition.container node).toJson, waits⟩) :
    starts? step? (nodes.map name) = some (nodes.map definition.containerArguments) := by
  rw [starts?, List.mapM_map]
  refine Sequence.mapM_eq_pure_map fun node member => ?_
  obtain ⟨waits, found⟩ := steps node member
  rw [Function.comp_apply, found, Option.bind_some, containerArguments?_toJson]
  rfl

theorem Workflow.starts?_view {definition : Definition} {name : String → String}
    (naming : IsNaming definition.nodes (templateName definition.name) name) :
    (outline definition name).view.starts? =
      some (definition.nodes.map definition.containerArguments) := by
  rw [WorkflowView.starts?, names_tasks_outline]
  exact starts?_map fun node member => ⟨_, step?_outline naming member⟩

/-- The tasks stand in another order than the nodes. -/
theorem PipelineSpec.starts?_view (definition : Definition)
    (distinct : Graph.Distinct definition.nodes) :
    ∃ nodes : List Node, nodes.Perm definition.nodes ∧
      (ofDefinition definition).view.starts? = some (nodes.map definition.containerArguments) := by
  have same := (tasks_perm distinct).map (·.1)
  rw [List.map_map] at same
  obtain ⟨nodes, listed, permuted⟩ :=
    (congrFun (congrFun (List.eq_map_comp_perm fun node : Node => node.id) _) _).mpr same
  refine ⟨nodes, permuted, ?_⟩
  rw [SpecView.starts?, listed]
  exact starts?_map fun node member => ⟨_, step?_view distinct (permuted.mem_iff.1 member)⟩

theorem Manifest.at?_job {β : Type} (read : Json → Option β) (specification : Json)
    (displayName : String) :
    (job specification displayName).at? ["pipelineSpec"] read = read specification := by
  simp [job]

/-- The tasks of a document start the containers of the nodes of its graph, each once. -/
theorem Manifest.starts?_document {nodes sorted : List Node} {settings : Settings}
    {arguments : List String} {manifest : Json} (ordered : Graph.order nodes = .ok sorted)
    (built : Backend.build settings.executionMode (definition settings sorted arguments) =
      .ok manifest) :
    ∃ started, starts? settings.executionMode (document settings manifest) = some started ∧
      started.Perm (nodes.map (definition settings nodes arguments).containerArguments) := by
  obtain ⟨same, distinct, first⟩ := Graph.perm_of_order ordered
  unfold document
  cases mode : settings.executionMode with
  | v1 =>
    rw [mode, Workflow.build_eq_outline first] at built
    cases built
    refine ⟨_, ?_, same.map _⟩
    have naming := Workflow.isNaming_templateNames distinct
      (Workflow.templateName settings.sanitizedName)
    rw [starts?, WorkflowView.read?_toJson, Option.bind_some]
    exact Workflow.starts?_view naming
  | v2 =>
    rw [mode] at built
    cases built
    obtain ⟨listed, permuted, started⟩ := PipelineSpec.starts?_view
      (definition settings sorted arguments) distinct
    refine ⟨_, ?_, (permuted.trans same).map _⟩
    rw [starts?, at?_job, SpecView.read?_toJson, Option.bind_some]
    exact started

end PipelineManifest
