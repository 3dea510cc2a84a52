import PipelineManifest.Proofs.Graph.Expansion
import PipelineManifest.Proofs.Manifest.RoundTrip

/-!
# The order in which nodes are listed

A graph-building function lists the nodes of a pipeline in some order. The order in which they can
run depends on it, and so does the error of a graph that has none, but a specification lists what it
is made of by name. So two lists of the same nodes have one specification or none.

Results:
1. `Graph.expand_perm`: a graph is repaired alike in whatever order its nodes are listed.
2. `Graph.order_perm`: it has an order of the same nodes or has none.
3. `PipelineSpec.ofDefinition_perm`: the specification of the nodes is the same.
4. `Manifest.ofNodes_perm`: so is the document, if there is one.
-/

namespace PipelineManifest

/-! ## Repaired graphs -/

namespace Graph

theorem deployment_perm {nodes other : List Node} (same : nodes.Perm other) (model : Channel)
    (blessing : Option Channel) (target : String) :
    deployment nodes model blessing target = deployment other model blessing target := by
  rw [deployment, deployment, freshName_perm (same.map _)]

theorem expand_perm {nodes other : List Node} (same : nodes.Perm other) (target : String) :
    Option.Rel (fun first second : Expansion =>
        first.nodes.Perm second.nodes ∧ first.expanded = second.expanded)
      (expand nodes target).toOption (expand other target).toOption := by
  have producers : (modelProducers nodes).Perm (modelProducers other) := same.filterMap _
  have blessings : (blessors nodes).Perm (blessors other) := same.filterMap _
  have deployed : ∀ model blessing, (nodes ++ [deployment nodes model blessing target]).Perm
      (other ++ [deployment other model blessing target]) := by
    intro model blessing
    rw [deployment_perm same]
    exact same.append_right _
  unfold expand
  -- all that is asked of the nodes is how many producers and blessors there are
  rw [same.any_eq]
  split
  · exact .some ⟨same, rfl⟩
  · obtain ⟨none, none'⟩ | ⟨producer, one, one'⟩ | ⟨_, _, _, _, _, _, more, more'⟩ :=
      Sequence.none_one_or_more producers
    · rw [none, none']
      exact .some ⟨same, rfl⟩
    · rw [one, one']
      obtain ⟨none, none'⟩ | ⟨judge, one, one'⟩ | ⟨_, _, _, _, _, _, more, more'⟩ :=
        Sequence.none_one_or_more blessings
      · rw [none, none']
        exact .some ⟨deployed _ _, rfl⟩
      · rw [one, one']
        exact .some ⟨deployed _ _, rfl⟩
      · rw [more, more']
        exact .none
    · rw [more, more']
      exact .none

/-! ## Orders -/

theorem order_perm {nodes other : List Node} (same : nodes.Perm other) :
    Option.Rel List.Perm (order nodes).toOption (order other).toOption := by
  -- one list has an order if the other one has
  have hasOrder : ∀ {first second}, first.Perm second → (order second).toOption = none →
      (order first).toOption = none := by
    intro first second same none
    cases ordered : order first with
    | error error => rfl
    | ok sorted =>
      obtain ⟨_, ordered'⟩ := HasOrder.perm ⟨sorted, ordered⟩ same.symm
      rw [ordered'] at none
      cases none
  cases ordered : order nodes with
  | error error =>
    rw [hasOrder same.symm (by rw [ordered]; rfl)]
    exact .none
  | ok sorted =>
    cases ordered' : order other with
    | error error =>
      have none := hasOrder same (by rw [ordered']; rfl)
      rw [ordered] at none
      cases none
    | ok sorted' =>
      exact .some ((perm_of_order ordered).1.trans (same.trans (perm_of_order ordered').1.symm))

end Graph

/-! ## Specifications -/

/-- A specification does not depend on the order of the nodes. -/
theorem PipelineSpec.ofDefinition_perm {definition : Definition} {nodes other : List Node}
    (distinct : Graph.Distinct nodes) (same : nodes.Perm other) :
    ofDefinition { definition with nodes } = ofDefinition { definition with nodes := other } := by
  have components := Dictionary.ofList_perm (nodup_keys distinct componentName_injective component)
    (same.map _)
  have executors := Dictionary.ofList_perm
    (nodup_keys distinct executorLabel_injective definition.container) (same.map _)
  have tasks := Dictionary.ofList_perm (nodup_keys distinct id task) (same.map _)
  show PipelineSpec.mk _ _ _ (.ofList (nodes.map fun node =>
    (executorLabel node.id, definition.container node))) _ = _
  rw [components, executors, tasks]
  rfl

theorem Backend.buildGraph_perm {nodes other : List Node} (same : nodes.Perm other)
    (definition : Definition) :
    (buildGraph .v2 definition nodes).toOption = (buildGraph .v2 definition other).toOption := by
  have orders := Graph.order_perm same
  unfold buildGraph
  cases ordered : Graph.order nodes with
  | error error =>
    cases ordered' : Graph.order other with
    | error error' => rfl
    | ok sorted' =>
      rw [ordered, ordered'] at orders
      cases orders
  | ok sorted =>
    cases ordered' : Graph.order other with
    | error error' =>
      rw [ordered, ordered'] at orders
      cases orders
    | ok sorted' =>
      rw [ordered, ordered'] at orders
      cases orders with
      | some sameSorted =>
        have distinct := (Graph.perm_of_order ordered).2.1
        dsimp only [build]
        rw [PipelineSpec.ofDefinition_perm distinct sameSorted]

/-! ## Documents -/

namespace Manifest

/-- The document of the nodes that a graph-building function lists: the graph is repaired, with
deployments into `target`, and compiled. -/
def ofNodes (backend : Backend) (target : String) (settings : Settings) (arguments : List String)
    (nodes : List Node) : Except CompileError Json := do
  let expansion ← Graph.expand nodes target
  compile backend settings expansion.nodes arguments

theorem compile_perm {nodes other : List Node} (same : nodes.Perm other) (settings : Settings)
    (arguments : List String) :
    (compile (Backend.ofMode .v2) settings nodes arguments).toOption =
      (compile (Backend.ofMode .v2) settings other arguments).toOption := by
  rw [compile_ofMode, compile_ofMode, Sequence.toOption_bind, Sequence.toOption_bind]
  rw [show Backend.buildGraph .v2 (definition settings nodes arguments) nodes =
    Backend.buildGraph .v2 (definition settings other arguments) nodes from rfl,
    Backend.buildGraph_perm same]

/-- The document of a pipeline in the second mode is the same, or there is none, in whatever order
its nodes are listed. -/
theorem ofNodes_perm {nodes other : List Node} (same : nodes.Perm other) (target : String)
    (settings : Settings) (arguments : List String) :
    (ofNodes (Backend.ofMode .v2) target settings arguments nodes).toOption =
      (ofNodes (Backend.ofMode .v2) target settings arguments other).toOption := by
  have expansions := Graph.expand_perm same target
  rw [ofNodes, ofNodes, Sequence.toOption_bind, Sequence.toOption_bind]
  generalize (Graph.expand nodes target).toOption = first at expansions ⊢
  generalize (Graph.expand other target).toOption = second at expansions ⊢
  cases expansions with
  | none => rfl
  | some sameExpansion => exact compile_perm sameExpansion.1 settings arguments

/-- Listed from its end or from its beginning, a pipeline has one document, though the nodes do not
run in the same order. -/
theorem ofNodes_perm_backwards :
    ∃ document, Graph.backwards.Perm Graph.backwards.reverse ∧
      (Graph.order Graph.backwards).toOption.map (·.map (·.id)) =
        some ["CsvExampleGen", "Trainer", "Evaluator", "Notifier"] ∧
      (Graph.order Graph.backwards.reverse).toOption.map (·.map (·.id)) =
        some ["Notifier", "CsvExampleGen", "Trainer", "Evaluator"] ∧
      ofNodes (Backend.ofMode .v2) "s" { parcel with executionMode := .v2 } [] Graph.backwards =
        .ok document ∧
      ofNodes (Backend.ofMode .v2) "s" { parcel with executionMode := .v2 } []
        Graph.backwards.reverse = .ok document := by
  have same := Graph.backwards.reverse_perm.symm
  have fromEnd : (Graph.order Graph.backwards).toOption.map (·.map (·.id)) =
      some ["CsvExampleGen", "Trainer", "Evaluator", "Notifier"] := by
    rw [Graph.order_eq_visit (by decide +kernel) (by decide +kernel)]
    cbv
  have fromStart : (Graph.order Graph.backwards.reverse).toOption.map (·.map (·.id)) =
      some ["Notifier", "CsvExampleGen", "Trainer", "Evaluator"] := by
    rw [Graph.order_eq_visit (by decide +kernel) (by decide +kernel)]
    cbv
  have repaired : (Graph.order (Graph.backwardsRepair "s").nodes).toOption.map (·.map (·.id)) =
      some ["CsvExampleGen", "Trainer", "Evaluator", "Notifier", "Pusher"] := by
    rw [Graph.order_eq_visit (by decide +kernel) (by decide +kernel)]
    cbv
  obtain ⟨sorted, ordered, -⟩ := Sequence.exists_ok_of_toOption repaired
  have compiles := compile_eq_document { parcel with executionMode := .v2 } [] ordered rfl
    fun impossible => by cases impossible
  have succeeds : ofNodes (Backend.ofMode .v2) "s" { parcel with executionMode := .v2 } []
      Graph.backwards = .ok _ := Sequence.bind_eq_ok_iff.2
        ⟨_, Graph.expand_backwards "s", compiles⟩
  have agree := ofNodes_perm same "s" { parcel with executionMode := .v2 } []
  rw [succeeds] at agree
  cases other : ofNodes (Backend.ofMode .v2) "s" { parcel with executionMode := .v2 } []
      Graph.backwards.reverse with
  | error error =>
    rw [other] at agree
    cases agree
  | ok document =>
    rw [other] at agree
    cases agree
    exact ⟨_, same, fromEnd, fromStart, succeeds, rfl⟩

end Manifest

end PipelineManifest
