import PipelineManifest.Proofs.Compilation.Files
import PipelineManifest.Proofs.Graph.Expansion
import PipelineManifest.Proofs.Manifest.Tasks

/-!
# The report of a compilation

A compilation that succeeds reports how many nodes there are, whether a deployment was added, and
which name and engine arguments the pipeline has. All of it is settled before the nodes are put in
order and the manifest is built, written and read again, and it is what the manifest says in the
end.

Results:
1. `Report.describes_of_perm`: what a report says of the nodes that are compiled.
2. `prepare_eq_intended`: the document of a compilation is the one that its nodes call for.
3. `report_of_run`: the report of a compilation describes the manifest that is found at its output.
-/

namespace PipelineManifest

/-- A report says of a manifest what its tasks start, given as the arguments of each. The nodes are
those that the graph-building function lists. -/
structure Report.Describes (report : Report) (nodes : List Node) (started : List (List String)) :
    Prop where
  count : started.length = report.nodeCount
  name : ∀ arguments ∈ started, arguments[0]? = some "--pipeline_name" ∧
    arguments[1]? = some report.pipelineName
  engine : ∀ arguments ∈ started, arguments[10]? = some "--beam_pipeline_args" ∧
    (arguments[11]?.bind Json.read).bind (Json.list? Json.text?) = some report.arguments.flags
  node : ∀ arguments ∈ started, arguments[4]? = some "--node_id"
  /-- There is a deployment if one task, and only one, is for no node of the list. -/
  expanded : report.expanded = true ↔
    started.countP (fun arguments => arguments[5]? ∉ nodes.map fun node => some node.id) = 1
  unexpanded : report.expanded = false ↔
    (started.map fun arguments => arguments[5]?).Perm (nodes.map fun node => some node.id)

/-! ## The nodes that are compiled -/

theorem Json.read_strings (texts : List String) :
    (read (strings texts).compactText).bind (list? text?) = some texts := by
  rw [read_compactText (textual_strings 0 texts) (by decide), Option.bind_some, list?_strings]

namespace Graph

/-- A repaired graph has one node that was not there before, and any other graph has none. -/
theorem countP_expand {nodes : List Node} {target : String} {expansion : Expansion}
    (repaired : expand nodes target = .ok expansion) :
    expansion.nodes.countP (fun node => node.id ∉ nodes.map (·.id)) =
      if expansion.expanded then 1 else 0 := by
  have none : nodes.countP (fun node => node.id ∉ nodes.map (·.id)) = 0 :=
    List.countP_eq_zero.2 fun node member absent =>
      of_decide_eq_true absent (List.mem_map_of_mem member)
  cases expanded : expansion.expanded with
  | false =>
    rw [expand_unexpanded repaired expanded, none]
    rfl
  | true =>
    obtain ⟨_, model, blessing, _, _, appended⟩ := expand_expanded repaired expanded
    have new := deployment_id_notMem nodes model blessing target
    rw [appended, List.countP_append, none, List.countP_singleton, if_pos (decide_eq_true new)]
    rfl

end Graph

theorem Report.describes_of_perm {report : Report} {definition : Definition} {target : String}
    {nodes : List Node} {expansion : Expansion} {started : List (List String)}
    (repaired : Graph.expand nodes target = .ok expansion)
    (same : started.Perm (expansion.nodes.map definition.containerArguments))
    (count : report.nodeCount = expansion.nodes.length)
    (expanded : report.expanded = expansion.expanded)
    (name : report.pipelineName = definition.name)
    (flags : report.arguments.flags = definition.engineArguments) :
    report.Describes nodes started := by
  have each : ∀ arguments ∈ started, ∃ node, definition.containerArguments node = arguments := by
    intro arguments member
    obtain ⟨node, _, same⟩ := List.mem_map.1 (same.mem_iff.1 member)
    exact ⟨node, same⟩
  have ids : (started.map fun arguments => arguments[5]?).Perm
      (expansion.nodes.map fun node => some node.id) := by
    have permuted := same.map fun arguments => arguments[5]?
    rwa [List.map_map] at permuted
  have new : started.countP (fun arguments => arguments[5]? ∉ nodes.map fun node => some node.id) =
      if report.expanded then 1 else 0 := by
    rw [expanded, ← Graph.countP_expand repaired, same.countP_eq, List.countP_map]
    refine List.countP_congr fun node _ => ?_
    simp [Definition.containerArguments]
  refine ⟨?_, ?_, ?_, ?_, ?_, ?_⟩
  · rw [same.length_eq, List.length_map, count]
  · intro arguments member
    obtain ⟨node, rfl⟩ := each arguments member
    exact ⟨rfl, name ▸ rfl⟩
  · intro arguments member
    obtain ⟨node, rfl⟩ := each arguments member
    exact ⟨rfl, flags ▸ Json.read_strings _⟩
  · intro arguments member
    obtain ⟨node, rfl⟩ := each arguments member
    rfl
  · rw [new]
    cases report.expanded <;> simp
  · rw [expanded]
    cases added : expansion.expanded with
    | false =>
      rw [Graph.expand_unexpanded repaired added] at ids
      exact iff_of_true rfl ids
    | true =>
      obtain ⟨_, _, _, _, _, appended⟩ := Graph.expand_expanded repaired added
      refine iff_of_false Bool.noConfusion fun unchanged => ?_
      have lengths := (ids.symm.trans unchanged).length_eq
      simp [appended] at lengths

/-! ## The document -/

namespace Compilation

variable {σ : Type} [HasEnvironment σ]

/-- The document that the nodes of a pipeline call for, before it is written anywhere. -/
def intended (compilation : Compilation) (registry : Registry) (workspace : Workspace σ) :
    Except CompileError Json := do
  let settings ← compilation.settings workspace
  let nodes ← (buildNodes registry settings workspace.environment).2
  let expansion ← Graph.expand nodes settings.servingDirectory
  let manifest ← Backend.buildGraph settings.executionMode
    (Manifest.definition settings expansion.nodes settings.arguments.flags) expansion.nodes
  return Manifest.document settings manifest

theorem intended_eq_ok {compilation : Compilation} {registry : Registry} {workspace : Workspace σ}
    {settings : Settings} {nodes sorted : List Node} {expansion : Expansion} {manifest : Json}
    (settled : compilation.settings workspace = .ok settings)
    (builds : (buildNodes registry settings workspace.environment).2 = .ok nodes)
    (expands : Graph.expand nodes settings.servingDirectory = .ok expansion)
    (ordered : Graph.order expansion.nodes = .ok sorted)
    (built : Backend.build settings.executionMode
      (Manifest.definition settings sorted settings.arguments.flags) = .ok manifest) :
    compilation.intended registry workspace = .ok (Manifest.document settings manifest) := by
  rw [intended, settled, Sequence.ok_bind, builds, Sequence.ok_bind, expands, Sequence.ok_bind,
    Manifest.buildGraph_of_order ordered, built]
  rfl

/-- What a compilation makes is what its nodes call for. -/
theorem prepare_eq_intended {compilation : Compilation} {registry : Registry}
    {workspace : Workspace σ} {document : Json} {report : Report}
    (prepares : (compilation.prepare registry none workspace).2 = .ok (document, report))
    (yaml : ∀ document, compilation.intended registry workspace = .ok document →
      report.executionMode = .v1 → ManifestFormat.yaml.ReadsBack document) :
    compilation.intended registry workspace = .ok document ∧
      document.Textual Json.depthLimit ∧
    ∃ settings nodes started, compilation.settings workspace = .ok settings ∧
      (buildNodes registry settings workspace.environment).2 = .ok nodes ∧
      Manifest.starts? report.executionMode document = some started ∧
      report.Describes nodes started := by
  obtain ⟨format, settings, nodes, formatted, settled, builds, assembles⟩ := prepare_eq_ok prepares
  obtain ⟨expansion, expands, compiles, rfl⟩ := assemble_eq_ok_iff.1 assembles
  obtain ⟨sorted, ordered⟩ := Manifest.exists_order_of_compile compiles
  obtain ⟨manifest, built⟩ := Manifest.build_of_order
    (Manifest.definition settings sorted settings.arguments.flags) ordered
    settings.executionMode
  have intends := intended_eq_ok settled builds expands ordered built
  have compiled := Manifest.compile_eq_document settings _ ordered built fun workflow => by
    have reads := yaml _ intends workflow
    rwa [Manifest.document, workflow] at reads
  rw [Option.getD_none, compiled] at compiles
  cases compiles
  obtain ⟨started, starts, same⟩ := Manifest.starts?_document ordered built
  exact ⟨intends, Manifest.textual_document built, settings, nodes, started, settled, builds,
    starts, Report.describes_of_perm expands same rfl rfl rfl rfl⟩

/-- The report of a compilation with the backend of its mode describes the manifest that it leaves
at its output. Of YAML it is assumed that the document is read back, if YAML is written at all. -/
theorem report_of_run (compilation : Compilation) (registry : Registry)
    (workspace after : Workspace σ) (report : Report)
    (runs : compilation.run registry none workspace = (after, .ok report))
    (yaml : ∀ document, compilation.intended registry workspace = .ok document →
      report.executionMode = .v1 ∨ report.format = .yaml →
        ManifestFormat.yaml.ReadsBack document) :
    ∃ settings nodes document started, compilation.settings workspace = .ok settings ∧
      (buildNodes registry settings workspace.environment).2 = .ok nodes ∧
      Manifest.readAt after.files workspace.directory compilation.outputPath = .ok document ∧
      Manifest.starts? report.executionMode document = some started ∧
      report.Describes nodes started := by
  obtain ⟨formatted, document, prepares, writes⟩ := run_eq_ok runs
  obtain ⟨intends, textual, settings, nodes, started, settled, builds, starts, describes⟩ :=
    prepare_eq_intended prepares fun document intends workflow =>
      yaml document intends (.inl workflow)
  refine ⟨settings, nodes, document, started, settled, builds, ?_, starts, describes⟩
  refine Manifest.readAt_writeAt formatted writes ?_
  cases format : report.format with
  | json => exact ManifestFormat.readsBack_json textual
  | yaml => exact yaml document intends (.inr format)

theorem run_shelf {outputPath : String} {format : ManifestFormat} {executionMode : ExecutionMode}
    {nodes : List Node} {expansion : Expansion} {document : Json}
    (formatted : ManifestFormat.ofPath outputPath = .ok format)
    (expands : Graph.expand nodes Manifest.parcel.servingDirectory = .ok expansion)
    (compiles : Manifest.compile (Backend.ofMode executionMode)
      { Manifest.parcel with executionMode } expansion.nodes Manifest.parcel.arguments.flags =
        .ok document)
    (writes :
      (Manifest.writeAt shelf.files shelf.directory outputPath format document).2 = .ok ()) :
    ∃ after, (shelved outputPath executionMode).run (listing nodes) none shelf =
      (after, .ok (shelfReport outputPath format executionMode expansion)) := by
  have written : Manifest.writeAt shelf.files shelf.directory outputPath format document =
      (_, .ok ()) := Prod.ext rfl writes
  exact ⟨_, run_of_prepare (prepare_shelf none formatted expands compiles) written⟩

theorem eq_of_buildNodes_shelf {outputPath : String} {executionMode : ExecutionMode}
    {settings : Settings} {nodes built : List Node}
    (settled : (shelved outputPath executionMode).settings shelf = .ok settings)
    (builds : (buildNodes (listing nodes) settings shelf.environment).2 = .ok built) :
    built = nodes := by
  cases (settings_shelf outputPath executionMode).symm.trans settled
  rw [buildNodes_shelf] at builds
  exact (Except.ok.inj builds).symm

/-- A pipeline of one node is written as YAML and reported as it is, and one whose model is deployed
is written as JSON and reported with the deployment. -/
theorem report_of_run_shelf :
    (∃ after report document started,
      (shelved "out.yml" .v1).run (listing [Manifest.weighed Manifest.mixed]) none shelf =
        (after, .ok report) ∧
      Manifest.readAt after.files [] "out.yml" = .ok document ∧
      Manifest.starts? .v1 document = some started ∧
      report.Describes [Manifest.weighed Manifest.mixed] started ∧ report.expanded = false) ∧
    ∃ after report document started,
      (shelved "out.json" .v2).run (listing Graph.backwards) none shelf = (after, .ok report) ∧
      Manifest.readAt after.files [] "out.json" = .ok document ∧
      Manifest.starts? .v2 document = some started ∧
      report.Describes Graph.backwards started ∧ report.expanded = true ∧ started.length = 5 := by
  constructor
  · have formatted : ManifestFormat.ofPath "out.yml" = .ok .yaml := by decide +kernel
    have expands : Graph.expand [Manifest.weighed Manifest.mixed] Manifest.parcel.servingDirectory =
        .ok ⟨[Manifest.weighed Manifest.mixed], false⟩ := rfl
    have ordered := Manifest.order_weighed Manifest.mixed
    obtain ⟨manifest, built, yaml⟩ := Manifest.readsBack_parcel
    have compiles := Manifest.compile_eq_document { Manifest.parcel with executionMode := .v1 } _
      ordered built fun _ => yaml
    obtain ⟨after, runs⟩ := run_shelf formatted expands compiles rfl
    have intends := intended_eq_ok (settings_shelf "out.yml" .v1)
      (congrArg Prod.snd (buildNodes_shelf _ .v1)) expands ordered built
    obtain ⟨settings, nodes, document, started, settled, builds, reads, starts, describes⟩ :=
      report_of_run _ _ _ _ _ runs fun document same _ => by
        rw [intends] at same
        cases same
        exact yaml
    cases eq_of_buildNodes_shelf settled builds
    exact ⟨after, _, document, started, runs, reads, starts, describes, rfl⟩
  · have formatted : ManifestFormat.ofPath "out.json" = .ok .json := by decide +kernel
    have expands := Graph.expand_backwards Manifest.parcel.servingDirectory
    have repaired : (Graph.order (Graph.backwardsRepair
        Manifest.parcel.servingDirectory).nodes).toOption.map (·.map (·.id)) =
        some ["CsvExampleGen", "Trainer", "Evaluator", "Notifier", "Pusher"] := by
      rw [Graph.order_eq_visit (by decide +kernel) (by decide +kernel)]
      cbv
    obtain ⟨sorted, ordered, -⟩ := Sequence.exists_ok_of_toOption repaired
    have compiles := Manifest.compile_eq_document { Manifest.parcel with executionMode := .v2 }
      Manifest.parcel.arguments.flags ordered rfl fun impossible => by cases impossible
    obtain ⟨after, runs⟩ := run_shelf formatted expands compiles rfl
    obtain ⟨settings, nodes, document, started, settled, builds, reads, starts, describes⟩ :=
      report_of_run _ _ _ _ _ runs fun _ _ impossible => by
        rcases impossible with impossible | impossible <;> cases impossible
    cases eq_of_buildNodes_shelf settled builds
    exact ⟨after, _, document, started, runs, reads, starts, describes, rfl, describes.count⟩

end Compilation

end PipelineManifest
