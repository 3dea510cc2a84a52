import PipelineManifest.Graph.Expansion
import PipelineManifest.Proofs.FreshName
import PipelineManifest.Proofs.Graph.Order

/-!
# The repair of a graph

A node under a new name that consumes only what a graph offers comes last in the order of the larger
graph, and nothing else in the order changes (`order_concat`). The deployment that `Graph.expand`
adds is such a node.

Results:
1. `expand_expanded`: what a repaired graph consists of.
2. `offered_of_output?`: the channel of an output is offered by every graph with the node.
3. `order_expand`: the order of a repaired graph is the old one with the deployment behind it.
-/

namespace PipelineManifest

/-! ## Channels of outputs -/

theorem Node.output?_spec {node : Node} {name : String} {channel : Channel}
    (found : node.output? name = some channel) :
    channel.producer = node.id ∧ node.hasOutput channel.output := by
  obtain ⟨producer, output⟩ := node.owned name channel found
  refine ⟨producer, ?_⟩
  rw [output]
  exact Option.isSome_iff_exists.2 ⟨channel, found⟩

namespace Graph

theorem offered_of_output? {nodes : List Node} {node : Node} (member : node ∈ nodes)
    {name : String} {channel : Channel} (found : node.output? name = some channel) :
    Offered nodes channel := by
  obtain ⟨producer, declared⟩ := Node.output?_spec found
  exact ⟨node, member, producer.symm, declared⟩

theorem mem_modelProducers_iff {nodes : List Node} {node : Node} {channel : Channel} :
    (node, channel) ∈ modelProducers nodes ↔
      node ∈ nodes ∧ node.role = .producer ∧ node.output? Node.modelOutput = some channel := by
  rw [modelProducers, List.mem_filterMap]
  constructor
  · rintro ⟨other, member, accepted⟩
    by_cases trains : other.role = .producer
    · rw [if_pos trains] at accepted
      obtain ⟨model, found, same⟩ := Option.map_eq_some_iff.1 accepted
      cases same
      exact ⟨member, trains, found⟩
    · rw [if_neg trains] at accepted
      cases accepted
  · rintro ⟨member, trains, found⟩
    exact ⟨node, member, by rw [if_pos trains, found]; rfl⟩

theorem mem_blessors_iff {nodes : List Node} {node : Node} {channel : Channel} :
    (node, channel) ∈ blessors nodes ↔
      node ∈ nodes ∧ node.output? Node.blessingOutput = some channel := by
  rw [blessors, List.mem_filterMap]
  constructor
  · rintro ⟨other, member, accepted⟩
    obtain ⟨blessing, found, same⟩ := Option.map_eq_some_iff.1 accepted
    cases same
    exact ⟨member, found⟩
  · rintro ⟨member, found⟩
    exact ⟨node, member, by rw [found]; rfl⟩

theorem offered_of_mem_modelProducers {nodes : List Node} {node : Node} {channel : Channel}
    (member : (node, channel) ∈ modelProducers nodes) : Offered nodes channel := by
  obtain ⟨inNodes, _, found⟩ := mem_modelProducers_iff.1 member
  exact offered_of_output? inNodes found

theorem offered_of_mem_blessors {nodes : List Node} {node : Node} {channel : Channel}
    (member : (node, channel) ∈ blessors nodes) : Offered nodes channel := by
  obtain ⟨inNodes, found⟩ := mem_blessors_iff.1 member
  exact offered_of_output? inNodes found

/-! ## The deployment -/

/-- A graph is repaired by one deployment of its only model behind its only blessing, if any. -/
theorem expand_expanded {nodes : List Node} {target : String} {expansion : Expansion}
    (repaired : expand nodes target = .ok expansion) (expanded : expansion.expanded = true) :
    ∃ producer model blessing, modelProducers nodes = [(producer, model)] ∧
      (blessors nodes).map (·.2) = blessing.toList ∧
      expansion.nodes = nodes ++ [deployment nodes model blessing target] := by
  unfold expand at repaired
  split at repaired
  · cases repaired
    cases expanded
  · split at repaired
    · cases repaired
      cases expanded
    next producer model producers =>
      refine ⟨producer, model, ?_⟩
      split at repaired
      next blessings =>
        cases repaired
        exact ⟨none, producers, by rw [blessings]; rfl, rfl⟩
      next judge blessing blessings =>
        cases repaired
        exact ⟨some blessing, producers, by rw [blessings]; rfl, rfl⟩
      · cases repaired
    · cases repaired

theorem expand_unexpanded {nodes : List Node} {target : String} {expansion : Expansion}
    (repaired : expand nodes target = .ok expansion) (unexpanded : expansion.expanded = false) :
    expansion.nodes = nodes := by
  unfold expand at repaired
  split at repaired
  · cases repaired
    rfl
  · split at repaired
    · cases repaired
      rfl
    · split at repaired
      · cases repaired
        cases unexpanded
      · cases repaired
        cases unexpanded
      · cases repaired
    · cases repaired

theorem deployment_id (nodes : List Node) (model : Channel) (blessing : Option Channel)
    (target : String) :
    (deployment nodes model blessing target).id = freshName (nodes.map (·.id)) "Pusher" := by
  cases blessing <;> rfl

theorem deployment_id_notMem (nodes : List Node) (model : Channel) (blessing : Option Channel)
    (target : String) : (deployment nodes model blessing target).id ∉ nodes.map (·.id) :=
  freshName_notMem _ _

theorem mem_inputs_deployment {nodes : List Node} {model channel : Channel}
    {blessing : Option Channel} {target : String}
    (member : channel ∈ (deployment nodes model blessing target).inputs.values) :
    channel = model ∨ blessing = some channel := by
  cases blessing with
  | none =>
    rcases Dictionary.mem_values_insert member with same | impossible
    · exact .inl same
    · cases impossible
  | some blessing =>
    rcases Dictionary.mem_values_insert member with same | inModel
    · exact .inr (congrArg some same.symm)
    · rcases Dictionary.mem_values_insert inModel with same | impossible
      · exact .inl same
      · cases impossible

/-- What a deployment consumes was there before. -/
theorem offered_of_mem_inputs_deployment {nodes : List Node} {target : String} {producer : Node}
    {model : Channel} {blessing : Option Channel}
    (producers : modelProducers nodes = [(producer, model)])
    (blessings : (blessors nodes).map (·.2) = blessing.toList) {channel : Channel}
    (input : channel ∈ (deployment nodes model blessing target).inputs.values) :
    Offered nodes channel := by
  rcases mem_inputs_deployment input with rfl | rfl
  · exact offered_of_mem_modelProducers (producers ▸ List.mem_singleton_self _)
  · have member : channel ∈ (blessors nodes).map (·.2) := by
      rw [blessings]
      exact List.mem_singleton_self _
    obtain ⟨⟨judge, _⟩, blesses, rfl⟩ := List.mem_map.1 member
    exact offered_of_mem_blessors blesses

/-- What a repair adds is one node, under a new name, that consumes only what was there before. -/
theorem exists_deployment {nodes : List Node} {target : String} {expansion : Expansion}
    (repaired : expand nodes target = .ok expansion) (expanded : expansion.expanded = true) :
    ∃ node, expansion.nodes = nodes ++ [node] ∧ node.id ∉ nodes.map (·.id) ∧
      ∀ channel ∈ node.inputs.values, Offered nodes channel := by
  obtain ⟨producer, model, blessing, producers, blessings, appended⟩ :=
    expand_expanded repaired expanded
  exact ⟨_, appended, deployment_id_notMem nodes model blessing target,
    fun _ input => offered_of_mem_inputs_deployment producers blessings input⟩

/-! ## The order with one more node -/

theorem Offered.append {nodes : List Node} {channel : Channel} (offered : Offered nodes channel)
    (more : List Node) : Offered (nodes ++ more) channel := by
  obtain ⟨producer, member, named, declared⟩ := offered
  exact ⟨producer, List.mem_append_left _ member, named, declared⟩

theorem Resolved.concat {nodes : List Node} (resolved : Resolved nodes) {node : Node}
    (offered : ∀ channel ∈ node.inputs.values, Offered nodes channel) :
    Resolved (nodes ++ [node]) := by
  intro other member channel input
  rcases List.mem_append.1 member with old | last
  · exact (resolved other old channel input).append _
  · cases List.mem_singleton.1 last
    exact (offered channel input).append _

/-- A node that is new to a graph and consumes only what the graph offers stands behind all others.
The search has listed the whole graph when it comes to the node. -/
theorem order_concat {nodes sorted : List Node} {node : Node} (ordered : order nodes = .ok sorted)
    (fresh : node.id ∉ nodes.map (·.id))
    (offered : ∀ channel ∈ node.inputs.values, Offered nodes channel) :
    order (nodes ++ [node]) = .ok (sorted ++ [node]) := by
  obtain ⟨distinct, resolved, ended⟩ := order_eq_ok_iff.1 ordered
  obtain ⟨same, _⟩ := perm_of_order ordered
  have listed : ∀ {id}, id ∈ sorted.map (·.id) ↔ id ∈ nodes.map (·.id) :=
    (same.map _).mem_iff
  refine order_eq_ok_iff.2 ⟨distinct.concat fresh, resolved.concat offered, ?_⟩
  have before : Search (nodes ++ [node]) (nodes.length + 1) [] [] (nodes.map (·.id))
      (.ok sorted) := by
    rw [← ended]
    refine (search_visit nodes [] [] _ _ ?_).extend resolved (fun _ known => known) [node]
    exact Nat.le_succ_of_le (List.length_filter_le _ _)
  have found : node? (nodes ++ [node]) node.id = some node :=
    (node?_eq_some_iff (distinct.concat fresh)).2 ⟨by simp, rfl⟩
  have produced : ∀ id ∈ node.producerIds, id ∈ sorted.map (·.id) := by
    intro id consumed
    obtain ⟨channel, input, rfl⟩ := mem_producerIds.1 consumed
    exact listed.2 (offered channel input).known
  have last : Search (nodes ++ [node]) (nodes.length + 1) [] sorted [node.id]
      (.ok (sorted ++ [node])) :=
    .node (fun present => fresh (listed.1 present)) List.not_mem_nil found
      (search_of_listed produced) .finished
  rw [List.map_append]
  exact visit_of_search (before.append last)

/-- The repair of a graph that has an order keeps the order and puts the deployment at its end. -/
theorem order_expand {nodes sorted : List Node} {target : String} {expansion : Expansion}
    (ordered : order nodes = .ok sorted) (repaired : expand nodes target = .ok expansion)
    (expanded : expansion.expanded = true) :
    ∃ node, expansion.nodes = nodes ++ [node] ∧
      order expansion.nodes = .ok (sorted ++ [node]) := by
  obtain ⟨producer, model, blessing, producers, blessings, appended⟩ :=
    expand_expanded repaired expanded
  refine ⟨_, appended, ?_⟩
  rw [appended]
  exact order_concat ordered (deployment_id_notMem nodes model blessing target) fun _ input =>
    offered_of_mem_inputs_deployment producers blessings input

/-- A graph in which the name of a pusher is taken by a node that deploys nothing. -/
def crowded : List Node := .ofType "Pusher" .other :: backwards

theorem order_expand_crowded :
    ∃ sorted expansion node, order crowded = .ok sorted ∧
      expand crowded "serving_model" = .ok expansion ∧ expansion.expanded = true ∧
      expansion.nodes = crowded ++ [node] ∧ order expansion.nodes = .ok (sorted ++ [node]) ∧
      expansion.nodes.map (·.id) =
        ["Pusher", "Evaluator", "Trainer", "CsvExampleGen", "Notifier", "Pusher-2"] := by
  have hasOrder : (order crowded).toOption.map (·.map (·.id)) =
      some ["Pusher", "CsvExampleGen", "Trainer", "Evaluator", "Notifier"] := by
    rw [order_eq_visit (by decide +kernel) (by decide +kernel)]
    cbv
  have isRepaired : (expand crowded "serving_model").toOption.map
      (fun expansion => (expansion.expanded, expansion.nodes.map (·.id))) =
      some (true, ["Pusher", "Evaluator", "Trainer", "CsvExampleGen", "Notifier", "Pusher-2"]) := by
    decide +kernel
  obtain ⟨sorted, ordered, -⟩ := Sequence.exists_ok_of_toOption hasOrder
  obtain ⟨expansion, repaired, seen⟩ := Sequence.exists_ok_of_toOption isRepaired
  obtain ⟨expanded, names⟩ := Prod.mk.inj seen
  obtain ⟨node, appended, ordered'⟩ := order_expand ordered repaired expanded
  exact ⟨sorted, expansion, node, ordered, repaired, expanded, appended, ordered', names⟩

/-- The nodes that are listed from their end, with their deployment. -/
def backwardsRepair (target : String) : Expansion where
  nodes := backwards ++ [deployment backwards ⟨"Trainer", "model", "Model"⟩
    (some ⟨"Evaluator", "blessing", "ModelBlessing"⟩) target]
  expanded := true

theorem expand_backwards (target : String) :
    expand backwards target = .ok (backwardsRepair target) := rfl

end Graph

end PipelineManifest
