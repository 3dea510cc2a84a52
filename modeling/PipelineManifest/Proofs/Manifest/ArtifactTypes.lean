import PipelineManifest.Proofs.Graph.Expansion
import PipelineManifest.Proofs.Manifest.PipelineSpec

/-!
# Artifact types along the edges of a specification

A task takes an output of another task under the name of an input, and the components of both
declare a schema title for it. The title of the input is made from the channel that the node
consumes, the title of the output from the channel that its producer hands out. An order asks only
that there is such an output, so a channel that is written by hand can have another type.

Results:
1. `Graph.handedOut_iff`: what it takes for a channel to be the one that its producer hands out.
2. `PipelineSpec.component?_typedView`: the titles that are declared for the task of a node.
3. `PipelineSpec.consistent_iff_faithful`: the titles agree along every edge exactly if each channel
   that is consumed is one that is handed out.
4. `PipelineSpec.mistyped_titles`: a graph with an order in which they do not.
5. `Graph.faithful_expand`: what a repair adds to a graph consumes only what is handed out.
-/

namespace PipelineManifest

/-! ## Channels that are handed out -/

namespace Graph

/-- A channel is the one that a node of the graph has for the output. -/
def HandedOut (nodes : List Node) (channel : Channel) : Prop :=
  ∃ producer ∈ nodes, producer.output? channel.output = some channel

/-- All channels that are consumed are handed out. -/
def Faithful (nodes : List Node) : Prop :=
  ∀ node ∈ nodes, ∀ channel ∈ node.inputs.values, HandedOut nodes channel

instance (nodes : List Node) : Decidable (Faithful nodes) :=
  inferInstanceAs (Decidable (∀ node ∈ nodes, ∀ channel ∈ node.inputs.values,
    ∃ producer ∈ nodes, producer.output? channel.output = some channel))

theorem exists_declared {nodes : List Node} {channel : Channel} (offered : Offered nodes channel) :
    ∃ producer ∈ nodes, producer.id = channel.producer ∧
      ∃ declared, producer.output? channel.output = some declared := by
  obtain ⟨producer, member, named, declares⟩ := offered
  exact ⟨producer, member, named, Option.isSome_iff_exists.1 declares⟩

/-- All that can be different is the artifact type. -/
theorem handedOut_iff {nodes : List Node} (distinct : Distinct nodes) {channel declared : Channel}
    {producer : Node} (member : producer ∈ nodes) (named : producer.id = channel.producer)
    (found : producer.output? channel.output = some declared) :
    HandedOut nodes channel ↔ channel.artifactType = declared.artifactType := by
  constructor
  · rintro ⟨other, otherMember, hands⟩
    have same : other.id = producer.id := (other.owned _ _ hands).1.symm.trans named.symm
    rw [distinct.eq otherMember member same, found] at hands
    rw [Option.some.inj hands]
  · intro sameType
    obtain ⟨producer', output'⟩ := producer.owned _ _ found
    have same : declared = channel := calc
      declared = ⟨declared.producer, declared.output, declared.artifactType⟩ := rfl
      _ = ⟨channel.producer, channel.output, channel.artifactType⟩ := by
        rw [producer', output', named, sameType]
      _ = channel := rfl
    exact ⟨producer, member, same ▸ found⟩

end Graph

/-! ## Types as they are read -/

/-- The schema titles of a component. -/
structure ComponentTypesView where
  inputs : List (String × String)
  outputs : List (String × String)

/-- The tasks of a specification, and the types that its components declare. -/
structure TypedView where
  tasks : List (String × SpecTaskView)
  components : List (String × ComponentTypesView)

def schemaTitle? (value : Json) : Option String :=
  value.at? ["artifactType", "schemaTitle"] Json.text?

def ComponentTypesView.read? (value : Json) : Option ComponentTypesView := do
  let inputs ← value.at? ["inputDefinitions", "artifacts"] (Json.table? schemaTitle?)
  let outputs ← value.at? ["outputDefinitions", "artifacts"] (Json.table? schemaTitle?)
  return ⟨inputs, outputs⟩

namespace TypedView

def read? (document : Json) : Option TypedView := do
  let tasks ← document.at? ["root", "dag", "tasks"] (Json.table? SpecTaskView.read?)
  let components ← document.at? ["components"] (Json.table? ComponentTypesView.read?)
  return ⟨tasks, components⟩

/-- The types of the component of a task. -/
def component? (view : TypedView) (task : String) : Option ComponentTypesView := do
  let seen ← view.tasks.lookup task
  view.components.lookup seen.component

def inputTitle? (view : TypedView) (task input : String) : Option String := do
  (← view.component? task).inputs.lookup input

def outputTitle? (view : TypedView) (output : TaskOutput) : Option String := do
  (← view.component? output.producerTask).outputs.lookup output.outputKey

/-- A task takes an output of another under the name of an input. -/
def Takes (view : TypedView) (task input : String) (output : TaskOutput) : Prop :=
  ∃ seen, (task, seen) ∈ view.tasks ∧ (input, output) ∈ seen.artifacts

/-- Along every edge one title is declared on both sides. -/
def Consistent (view : TypedView) : Prop :=
  ∀ task input output, view.Takes task input output →
    view.inputTitle? task input = view.outputTitle? output

end TypedView

/-! ## Types as they are written -/

def SpecComponent.typesView (component : SpecComponent) : ComponentTypesView where
  inputs := (component.inputArtifacts.mapValues fun _ type => "tfx." ++ type).entries
  outputs := (component.outputArtifacts.mapValues fun _ type => "tfx." ++ type).entries

def PipelineSpec.typedView (spec : PipelineSpec) : TypedView where
  tasks := spec.view.tasks
  components := spec.components.entries.map fun entry => (entry.1, entry.2.typesView)

theorem table?_artifactTypes (types : Dictionary String) :
    Json.table? schemaTitle? (artifactTypes types) =
      some (types.mapValues fun _ type => "tfx." ++ type).entries := by
  refine Json.table?_ofDictionary (fun type => ?_) types
  simp [schemaTitle?]

theorem ComponentTypesView.read?_toJson (component : SpecComponent) :
    ComponentTypesView.read? component.toJson = some component.typesView := by
  simp [ComponentTypesView.read?, SpecComponent.toJson, SpecComponent.typesView,
    table?_artifactTypes]

theorem TypedView.read?_toJson (spec : PipelineSpec) :
    TypedView.read? spec.toJson = some spec.typedView := by
  have tasks := Json.table?_ofDictionary SpecTaskView.read?_toJson spec.tasks
  have components := Json.table?_ofDictionary ComponentTypesView.read?_toJson spec.components
  simp [TypedView.read?, PipelineSpec.toJson, PipelineSpec.typedView, PipelineSpec.view,
    tasks, components]

/-! ## Titles along an edge -/

namespace TypedView

/-- What the components of tasks declare about the inputs of the nodes of a list. -/
structure Declares (view : TypedView) (nodes : List Node) : Prop where
  /-- The edges are the inputs of the nodes. -/
  edges : ∀ task input output, view.Takes task input output ↔
    ∃ node ∈ nodes, node.id = task ∧ ∃ channel, (input, channel) ∈ node.inputs.entries ∧
      TaskOutput.mk channel.producer channel.output = output
  /-- Either side of an edge has a title, that of the input from the channel that is consumed and
  that of the output from the channel that the producer hands out. -/
  titles : ∀ node ∈ nodes, ∀ input channel, (input, channel) ∈ node.inputs.entries →
    view.inputTitle? node.id input = some ("tfx." ++ channel.artifactType) ∧
    ∃ producer ∈ nodes, producer.id = channel.producer ∧
      ∃ declared, producer.output? channel.output = some declared ∧
        view.outputTitle? ⟨channel.producer, channel.output⟩ =
          some ("tfx." ++ declared.artifactType)
  /-- The titles agree exactly if these are one channel. -/
  agree : ∀ node ∈ nodes, ∀ input channel, (input, channel) ∈ node.inputs.entries →
    (view.inputTitle? node.id input = view.outputTitle? ⟨channel.producer, channel.output⟩ ↔
      Graph.HandedOut nodes channel)

end TypedView

namespace PipelineSpec

section

variable {definition : Definition} (distinct : Graph.Distinct definition.nodes)

include distinct

theorem component?_typedView {node : Node} (member : node ∈ definition.nodes) :
    (ofDefinition definition).typedView.component? node.id = some (component node).typesView := by
  have task : (ofDefinition definition).typedView.tasks.lookup node.id =
      some (task node).view := by
    refine (Dictionary.lookup_eq_some_iff (nodup_view _).1).2 ?_
    exact (mem_tasks_iff distinct).2 ⟨node, member, rfl, rfl⟩
  have listed : (ofDefinition definition).components.find? (componentName node.id) =
      some (component node) := by
    have keys := nodup_keys distinct componentName_injective component
    refine Dictionary.find?_eq_some_iff.2 ((Dictionary.mem_entries_ofList keys).2 ?_)
    exact List.mem_map_of_mem (f := fun node => (componentName node.id, component node)) member
  have types : (ofDefinition definition).typedView.components.lookup (componentName node.id) =
      some (component node).typesView := by
    refine (Dictionary.find?_mapValues (fun _ => SpecComponent.typesView) _ _).trans ?_
    rw [listed]
    rfl
  rw [TypedView.component?, task]
  exact types

theorem inputTitle?_typedView {node : Node} (member : node ∈ definition.nodes) (input : String) :
    (ofDefinition definition).typedView.inputTitle? node.id input =
      (node.inputs.find? input).map fun channel => "tfx." ++ channel.artifactType := by
  rw [TypedView.inputTitle?, component?_typedView distinct member]
  refine (Dictionary.find?_mapValues (fun _ type => "tfx." ++ type) _ _).trans ?_
  rw [component, Dictionary.find?_mapValues, Option.map_map]
  rfl

theorem outputTitle?_typedView {node : Node} (member : node ∈ definition.nodes) (output : String) :
    (ofDefinition definition).typedView.outputTitle? ⟨node.id, output⟩ =
      (node.output? output).map fun channel => "tfx." ++ channel.artifactType := by
  rw [TypedView.outputTitle?, component?_typedView distinct member]
  refine (Dictionary.find?_mapValues (fun _ type => "tfx." ++ type) _ _).trans ?_
  rw [component, Dictionary.find?_mapValues, Option.map_map]
  rfl

theorem takes_typedView_iff {id input : String} {output : TaskOutput} :
    (ofDefinition definition).typedView.Takes id input output ↔
      ∃ node ∈ definition.nodes, node.id = id ∧ ∃ channel, (input, channel) ∈ node.inputs.entries ∧
        TaskOutput.mk channel.producer channel.output = output := by
  constructor
  · rintro ⟨seen, listed, taken⟩
    obtain ⟨node, member, rfl, rfl⟩ := (mem_tasks_iff distinct).1 listed
    exact ⟨node, member, rfl, mem_artifacts_iff.1 taken⟩
  · rintro ⟨node, member, rfl, consumed⟩
    exact ⟨_, (mem_tasks_iff distinct).2 ⟨node, member, rfl, rfl⟩, mem_artifacts_iff.2 consumed⟩

theorem titles_typedView (resolved : Graph.Resolved definition.nodes) {node : Node}
    (member : node ∈ definition.nodes) {input : String} {channel : Channel}
    (consumed : (input, channel) ∈ node.inputs.entries) :
    (ofDefinition definition).typedView.inputTitle? node.id input =
        some ("tfx." ++ channel.artifactType) ∧
      ∃ producer ∈ definition.nodes, producer.id = channel.producer ∧
        ∃ declared, producer.output? channel.output = some declared ∧
          (ofDefinition definition).typedView.outputTitle? ⟨channel.producer, channel.output⟩ =
            some ("tfx." ++ declared.artifactType) := by
  obtain ⟨producer, produces, named, declared, found⟩ :=
    Graph.exists_declared (resolved node member channel (List.mem_map_of_mem consumed))
  refine ⟨?_, producer, produces, named, declared, found, ?_⟩
  · rw [inputTitle?_typedView distinct member, Dictionary.find?_eq_some_iff.2 consumed]
    rfl
  · rw [← named, outputTitle?_typedView distinct produces, found]
    rfl

theorem declares_typedView (resolved : Graph.Resolved definition.nodes) :
    (ofDefinition definition).typedView.Declares definition.nodes where
  edges := fun _ _ _ => takes_typedView_iff distinct
  titles := fun _ member _ _ consumed => titles_typedView distinct resolved member consumed
  agree := by
    intro node member input channel consumed
    obtain ⟨taken, producer, produces, named, declared, found, given⟩ :=
      titles_typedView distinct resolved member consumed
    rw [taken, given, Graph.handedOut_iff distinct produces named found, Option.some.injEq,
      String.append_right_inj]

end

/-- The specification of a graph that has an order declares a title on either side of every edge.
The titles agree along all edges exactly if the nodes consume only channels that are handed out. -/
theorem consistent_iff_faithful {nodes : List Node} {definition : Definition}
    (ordered : Graph.HasOrder nodes) (same : definition.nodes.Perm nodes) :
    ∃ manifest view, Backend.build .v2 definition = .ok manifest ∧
      TypedView.read? manifest = some view ∧ view.Declares definition.nodes ∧
      (view.Consistent ↔ Graph.Faithful definition.nodes) := by
  obtain ⟨distinct, resolved, -⟩ := Graph.hasOrder_iff.1 (ordered.perm same)
  have declares := declares_typedView distinct resolved
  refine ⟨_, _, rfl, TypedView.read?_toJson _, declares, ?_⟩
  constructor
  · intro consistent node member channel consumed
    obtain ⟨⟨input, _⟩, listed, rfl⟩ := List.mem_map.1 consumed
    refine (declares.agree node member input _ listed).1 (consistent _ _ _ ?_)
    exact (declares.edges _ _ _).2 ⟨node, member, rfl, _, listed, rfl⟩
  · intro faithful task input output takes
    obtain ⟨node, member, rfl, channel, listed, rfl⟩ := (declares.edges _ _ _).1 takes
    refine (declares.agree node member input channel listed).2 ?_
    exact faithful node member channel (List.mem_map_of_mem listed)

/-- A trainer that is listed ahead of the node that hands out its examples. -/
def handed : Definition where
  name := "taxi"
  displayName := "taxi"
  root := "root"
  image := "image:1"
  nodes := [
    .consume (.ofType "Trainer" .producer) "examples" ⟨"Gen", "examples", "Examples"⟩,
    .declare (.ofType "Gen" .other) "examples" "Examples"]
  engineArguments := []
  enableCache := false

theorem consistent_iff_faithful_handed :
    ∃ manifest view, Graph.HasOrder handed.nodes ∧ Backend.build .v2 handed = .ok manifest ∧
      TypedView.read? manifest = some view ∧ view.Declares handed.nodes ∧
      Graph.Faithful handed.nodes ∧ view.Consistent ∧
      view.components.map (fun component => (component.2.inputs, component.2.outputs)) = [
        ([], [("examples", "tfx.Examples")]), ([("examples", "tfx.Examples")], [])] := by
  have hasOrder : (Graph.order handed.nodes).toOption.map (·.map (·.id)) =
      some ["Gen", "Trainer"] := by
    rw [Graph.order_eq_visit (by decide +kernel) (by decide +kernel)]
    cbv
  obtain ⟨sorted, ordered, -⟩ := Sequence.exists_ok_of_toOption hasOrder
  obtain ⟨manifest, view, built, read, declares, agree⟩ :=
    consistent_iff_faithful ⟨sorted, ordered⟩ (.refl _)
  have faithful : Graph.Faithful handed.nodes := by decide +kernel
  have seen : ((Backend.build .v2 handed).toOption.bind TypedView.read?).map (fun view =>
      view.components.map fun component => (component.2.inputs, component.2.outputs)) = some [
        ([], [("examples", "tfx.Examples")]), ([("examples", "tfx.Examples")], [])] := by
    decide +kernel
  have titles := Sequence.look_eq_of_bind built read seen
  exact ⟨manifest, view, ⟨sorted, ordered⟩, built, read, declares, faithful, agree.2 faithful,
    titles⟩

/-- A trainer that takes examples for a model. -/
def mistyped : Definition :=
  { handed with
    nodes := [
      .declare (.ofType "Gen" .other) "examples" "Examples",
      .consume (.ofType "Trainer" .producer) "examples" ⟨"Gen", "examples", "Model"⟩] }

/-- The order does not ask for types, and the titles on the two sides of the edge are different. -/
theorem mistyped_titles :
    Graph.order mistyped.nodes = .ok mistyped.nodes ∧
      ∃ manifest view, Backend.build .v2 mistyped = .ok manifest ∧
        TypedView.read? manifest = some view ∧
        view.Takes "Trainer" "examples" ⟨"Gen", "examples"⟩ ∧
        view.inputTitle? "Trainer" "examples" = some "tfx.Model" ∧
        view.outputTitle? ⟨"Gen", "examples"⟩ = some "tfx.Examples" ∧ ¬ view.Consistent := by
  have ordered : Graph.order mistyped.nodes = .ok mistyped.nodes := by
    rw [Graph.order_eq_visit (by decide +kernel) (by decide +kernel)]
    cbv
  obtain ⟨distinct, -, -⟩ := Graph.hasOrder_iff.1 ⟨_, ordered⟩
  have taken : (ofDefinition mistyped).typedView.inputTitle? "Trainer" "examples" =
      some "tfx.Model" := by decide +kernel
  have given : (ofDefinition mistyped).typedView.outputTitle? ⟨"Gen", "examples"⟩ =
      some "tfx.Examples" := by decide +kernel
  have takes : (ofDefinition mistyped).typedView.Takes "Trainer" "examples" ⟨"Gen", "examples"⟩ :=
    (takes_typedView_iff distinct).2 ⟨_, List.mem_cons_of_mem _ List.mem_cons_self, rfl, _,
      List.mem_cons_self, rfl⟩
  refine ⟨ordered, _, _, rfl, TypedView.read?_toJson _, takes, taken, given, fun consistent => ?_⟩
  have same := consistent _ _ _ takes
  rw [taken, given] at same
  exact absurd (Option.some.inj same) (by decide)

end PipelineSpec

/-! ## Repaired graphs -/

namespace Graph

theorem handedOut_of_output? {nodes : List Node} {node : Node} {name : String} {channel : Channel}
    (member : node ∈ nodes) (found : node.output? name = some channel) : HandedOut nodes channel :=
  ⟨node, member, (node.owned _ _ found).2.symm ▸ found⟩

theorem HandedOut.append {nodes : List Node} {channel : Channel} (handed : HandedOut nodes channel)
    (more : List Node) : HandedOut (nodes ++ more) channel := by
  obtain ⟨producer, member, found⟩ := handed
  exact ⟨producer, List.mem_append_left _ member, found⟩

/-- A deployment consumes the model and the blessing as they are handed out, so a repair leaves the
types on all edges as they are. -/
theorem faithful_expand {nodes : List Node} {target : String} {expansion : Expansion}
    (faithful : Faithful nodes) (repaired : expand nodes target = .ok expansion) :
    Faithful expansion.nodes := by
  cases expanded : expansion.expanded with
  | false => exact (expand_unexpanded repaired expanded).symm ▸ faithful
  | true =>
    obtain ⟨producer, model, blessing, producers, blessings, appended⟩ :=
      expand_expanded repaired expanded
    rw [appended]
    intro node member channel consumed
    rcases List.mem_append.1 member with old | last
    · exact (faithful node old channel consumed).append _
    · obtain rfl := List.mem_singleton.1 last
      refine HandedOut.append ?_ _
      rcases mem_inputs_deployment consumed with rfl | rfl
      · have produces : (producer, channel) ∈ modelProducers nodes :=
          producers ▸ List.mem_singleton_self _
        obtain ⟨inNodes, -, found⟩ := mem_modelProducers_iff.1 produces
        exact handedOut_of_output? inNodes found
      · have blessed : channel ∈ (blessors nodes).map (·.2) :=
          blessings ▸ List.mem_singleton_self _
        obtain ⟨⟨judge, _⟩, blesses, rfl⟩ := List.mem_map.1 blessed
        obtain ⟨inNodes, found⟩ := mem_blessors_iff.1 blesses
        exact handedOut_of_output? inNodes found

end Graph

end PipelineManifest
