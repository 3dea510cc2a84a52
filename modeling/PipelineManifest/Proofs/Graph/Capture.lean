import PipelineManifest.Proofs.Graph.Expansion

/-!
# References to the name of a deployment

The name of a deployment is new among the nodes of a graph, but it need not be new among the names
that their inputs refer to. An input may lead to a node that is not there, and if that node has just
the name of the deployment, the deployment takes its place.

Results:
1. `hasOrder_concat_iff`: when a graph with one more node at its end has an order.
2. `hasOrder_concat_of_terminal`: a node that nothing consumes from makes no difference to it.
3. `hasOrder_expand_iff`: the repair of a graph changes whether it has an order only if an input
   already refers to the name of the deployment.
4. `expand_captures_reference`: the repair of a graph that does, and that has an order only then.
-/

namespace PipelineManifest

/-! ## Outputs of nodes that are built -/

namespace Node

@[simp] theorem hasOutput_ofType (componentType : String) (role : Role) (output : String) :
    (ofType componentType role).hasOutput output = false := rfl

@[simp] theorem hasOutput_rename (node : Node) (id output : String) :
    (node.rename id).hasOutput output = node.hasOutput output := by
  rw [hasOutput, rename, Dictionary.contains, Dictionary.find?_mapValues, Option.isSome_map]
  rfl

@[simp] theorem hasOutput_consume (node : Node) (input : String) (channel : Channel)
    (output : String) : (node.consume input channel).hasOutput output = node.hasOutput output := rfl

@[simp] theorem hasOutput_setParameter (node : Node) (name : String) (value : Json)
    (output : String) : (node.setParameter name value).hasOutput output = node.hasOutput output :=
  rfl

@[simp] theorem hasOutput_declare (node : Node) (name artifactType output : String) :
    (node.declare name artifactType).hasOutput output =
      (decide (name = output) || node.hasOutput output) :=
  Dictionary.contains_insert node.outputs name output _

theorem hasOutput_pusher (model : Channel) (blessing : Option Channel) (directory output : String) :
    (pusher model blessing directory).hasOutput output = decide (pushedModelOutput = output) := by
  cases blessing <;> simp [pusher, consumeBlessing]

end Node

namespace Graph

/-! ## Definitions -/

/-- No node consumes from the name. -/
def Terminal (nodes : List Node) (id : String) : Prop :=
  ∀ node ∈ nodes, ∀ channel ∈ node.inputs.values, channel.producer ≠ id

instance (nodes : List Node) (id : String) : Decidable (Terminal nodes id) :=
  inferInstanceAs (Decidable (∀ node ∈ nodes, ∀ channel ∈ node.inputs.values, _))

/-! ## One more node -/

theorem distinct_concat_iff {nodes : List Node} {node : Node} (fresh : node.id ∉ nodes.map (·.id)) :
    Distinct (nodes ++ [node]) ↔ Distinct nodes := by
  refine ⟨fun distinct => ?_, fun distinct => distinct.concat fresh⟩
  rw [Distinct, List.map_append] at distinct
  exact distinct.of_append_left

theorem offered_concat_iff {nodes : List Node} {node : Node} {channel : Channel} :
    Offered (nodes ++ [node]) channel ↔
      Offered nodes channel ∨ channel.producer = node.id ∧ node.hasOutput channel.output := by
  constructor
  · rintro ⟨producer, member, named, declared⟩
    rcases List.mem_append.1 member with old | last
    · exact .inl ⟨producer, old, named, declared⟩
    · cases List.mem_singleton.1 last
      exact .inr ⟨named.symm, declared⟩
  · rintro (offered | ⟨named, declared⟩)
    · exact offered.append [node]
    · exact ⟨node, List.mem_append_right _ (List.mem_singleton_self _), named.symm, declared⟩

theorem needs_concat_iff {nodes : List Node} {node : Node} {consumer producer : String} :
    Needs (nodes ++ [node]) consumer producer ↔
      Needs nodes consumer producer ∨ node.id = consumer ∧ producer ∈ node.producerIds := by
  constructor
  · rintro ⟨other, member, named, input⟩
    rcases List.mem_append.1 member with old | last
    · exact .inl ⟨other, old, named, input⟩
    · cases List.mem_singleton.1 last
      exact .inr ⟨named, mem_producerIds.2 input⟩
  · rintro (⟨other, member, named, input⟩ | ⟨named, input⟩)
    · exact ⟨other, List.mem_append_left _ member, named, input⟩
    · exact ⟨node, List.mem_append_right _ (List.mem_singleton_self _), named,
        mem_producerIds.1 input⟩

section

variable {nodes : List Node} {node : Node} (fresh : node.id ∉ nodes.map (·.id))
  (offered : ∀ channel ∈ node.inputs.values, Offered nodes channel)

include fresh offered

theorem hasOrder_concat_iff :
    HasOrder (nodes ++ [node]) ↔ Distinct nodes ∧
      (∀ other ∈ nodes, ∀ channel ∈ other.inputs.values,
        Offered nodes channel ∨ channel.producer = node.id ∧ node.hasOutput channel.output) ∧
      Acyclic (nodes ++ [node]) := by
  rw [hasOrder_iff, distinct_concat_iff fresh]
  refine and_congr_right fun _ => and_congr_left fun _ => ⟨?_, ?_⟩
  · exact fun resolved other member channel input =>
      offered_concat_iff.1 (resolved other (List.mem_append_left _ member) channel input)
  · intro resolved other member channel input
    rcases List.mem_append.1 member with old | last
    · exact offered_concat_iff.2 (resolved other old channel input)
    · cases List.mem_singleton.1 last
      exact (offered channel input).append [node]

/-- From an old name only old names are reached, and nothing leads from the new one to itself. -/
theorem acyclic_concat_of_terminal (terminal : Terminal nodes node.id) :
    Acyclic (nodes ++ [node]) ↔ Acyclic nodes := by
  -- no old node needs the new one, and what the new one consumes is offered by old nodes
  have unneeded : ∀ {consumer}, ¬ Needs (nodes ++ [node]) consumer node.id := by
    intro consumer needs
    rcases needs_concat_iff.1 needs with ⟨other, member, _, channel, input, leads⟩ | ⟨_, consumed⟩
    · exact terminal other member channel input leads
    · obtain ⟨channel, input, leads⟩ := mem_producerIds.1 consumed
      exact fresh (leads ▸ (offered channel input).known)
  have old : ∀ {consumer producer}, Reaches (nodes ++ [node]) consumer producer →
      consumer ≠ node.id → Reaches nodes consumer producer := by
    intro consumer producer reaches other
    -- on the way from its beginning, which is the end that stays at an old name
    induction reaches using Relation.TransGen.head_induction_on with
    | single needs =>
      exact .single ((needs_concat_iff.1 needs).resolve_right fun last => other last.1.symm)
    | head needs _ ih =>
      have first := (needs_concat_iff.1 needs).resolve_right fun last => other last.1.symm
      exact .head first (ih fun same => unneeded (same ▸ needs))
  constructor
  · intro acyclic other member cycle
    exact acyclic other (List.mem_append_left _ member)
      (Relation.TransGen.mono (fun _ _ needs => needs_concat_iff.2 (.inl needs)) _ _ cycle)
  · intro acyclic other member cycle
    have apart : other.id ≠ node.id := by
      intro same
      obtain ⟨_, _, needs⟩ := Relation.TransGen.tail'_iff.1 cycle
      exact unneeded (same ▸ needs)
    rcases List.mem_append.1 member with inNodes | last
    · exact acyclic other inNodes (old cycle apart)
    · exact apart (congrArg Node.id (List.mem_singleton.1 last))

theorem hasOrder_concat_of_terminal (terminal : Terminal nodes node.id) :
    HasOrder (nodes ++ [node]) ↔ HasOrder nodes := by
  rw [hasOrder_concat_iff fresh offered, acyclic_concat_of_terminal fresh offered terminal,
    hasOrder_iff]
  refine and_congr_right fun _ => and_congr_left fun _ => ⟨?_, ?_⟩
  · intro resolved other member channel input
    exact (resolved other member channel input).resolve_right fun captured =>
      terminal other member channel input captured.1
  · exact fun resolved other member channel input => .inl (resolved other member channel input)

end

theorem not_hasOrder_of_dangling {nodes : List Node} {id : String}
    (unknown : id ∉ nodes.map (·.id)) (mentioned : ¬ Terminal nodes id) : ¬ HasOrder nodes := by
  intro ordered
  obtain ⟨_, resolved, _⟩ := hasOrder_iff.1 ordered
  refine mentioned fun other member channel input leads => unknown ?_
  exact leads ▸ (resolved other member channel input).known

/-! ## Deployments -/

theorem hasOutput_deployment_iff {nodes : List Node} {model : Channel} {blessing : Option Channel}
    {target output : String} :
    (deployment nodes model blessing target).hasOutput output ↔
      output = Node.pushedModelOutput := by
  rw [deployment, Node.hasOutput_rename, Node.hasOutput_pusher, decide_eq_true_iff, eq_comm]

/-- A graph and its repair both have an order or both have none, if no input refers to the name that
the deployment gets. If one does, the graph has no order, and its repair has one if all else in the
graph is right and the deployment closes no cycle. -/
theorem hasOrder_expand_iff {nodes : List Node} {target : String} {expansion : Expansion}
    (repaired : expand nodes target = .ok expansion) (expanded : expansion.expanded = true) :
    ∃ node, expansion.nodes = nodes ++ [node] ∧
      node.id = freshName (nodes.map (·.id)) "Pusher" ∧
      (Terminal nodes node.id → (HasOrder expansion.nodes ↔ HasOrder nodes)) ∧
      (¬ Terminal nodes node.id → ¬ HasOrder nodes ∧
        (HasOrder expansion.nodes ↔ Distinct nodes ∧
          (∀ other ∈ nodes, ∀ channel ∈ other.inputs.values, Offered nodes channel ∨
            channel.producer = node.id ∧ channel.output = Node.pushedModelOutput) ∧
          Acyclic expansion.nodes)) := by
  obtain ⟨producer, model, blessing, producers, blessings, appended⟩ :=
    expand_expanded repaired expanded
  have fresh := deployment_id_notMem nodes model blessing target
  have offered : ∀ channel ∈ (deployment nodes model blessing target).inputs.values,
      Offered nodes channel := fun _ input =>
    offered_of_mem_inputs_deployment producers blessings input
  refine ⟨_, appended, deployment_id .., fun terminal => ?_, fun mentioned => ⟨?_, ?_⟩⟩
  · rw [appended]
    exact hasOrder_concat_of_terminal fresh offered terminal
  · exact not_hasOrder_of_dangling fresh mentioned
  · rw [appended, hasOrder_concat_iff fresh offered]
    simp only [hasOutput_deployment_iff]

/-- A node that takes what a pusher has pushed. -/
def auditor : Node :=
  .consume (.ofType "Auditor" .other) "pushed" ⟨"Pusher", Node.pushedModelOutput, "PushedModel"⟩

/-- An auditor behind a pusher that deploys nothing, and a trainer without examples. -/
def unfinished : List Node :=
  [.declare (.ofType "Pusher" .other) Node.pushedModelOutput "PushedModel", auditor,
    .trainer ⟨"CsvExampleGen", "examples", "Examples"⟩ "taxi.run_fn" 2 1]

theorem hasOrder_expand_iff_unfinished :
    ∃ expansion node, expand unfinished "serving_model" = .ok expansion ∧
      expansion.expanded = true ∧ expansion.nodes = unfinished ++ [node] ∧ node.id = "Pusher-2" ∧
      Terminal unfinished node.id ∧ ¬ HasOrder expansion.nodes := by
  have isRepaired : (expand unfinished "serving_model").toOption.map (·.expanded) = some true := by
    decide +kernel
  obtain ⟨expansion, repaired, expanded⟩ := Sequence.exists_ok_of_toOption isRepaired
  obtain ⟨node, appended, named, same, _⟩ := hasOrder_expand_iff repaired expanded
  have renamed : node.id = "Pusher-2" := by
    rw [named]
    decide +kernel
  have terminal : Terminal unfinished node.id := by
    rw [renamed]
    decide +kernel
  refine ⟨expansion, node, repaired, expanded, appended, renamed, terminal, fun ordered => ?_⟩
  obtain ⟨_, resolved, _⟩ := hasOrder_iff.1 ((same terminal).1 ordered)
  exact absurd resolved (by decide +kernel)

/-- An auditor behind a pusher that is not there. -/
def dangling : List Node :=
  [.csvExampleGen "/data",
    .trainer ⟨"CsvExampleGen", "examples", "Examples"⟩ "taxi.run_fn" 2 1, auditor]

/-- The auditor consumes from the deployment. The graph has an order with it and none without. -/
theorem expand_captures_reference :
    ∃ expansion node, expand dangling "serving_model" = .ok expansion ∧
      expansion.expanded = true ∧ expansion.nodes = dangling ++ [node] ∧
      ¬ Terminal dangling node.id ∧ ¬ HasOrder dangling ∧ HasOrder expansion.nodes := by
  let node := deployment dangling ⟨"Trainer", "model", "Model"⟩ none "serving_model"
  have repaired : expand dangling "serving_model" = .ok ⟨dangling ++ [node], true⟩ := rfl
  have listed : (order (dangling ++ [node])).toOption.map (·.map (·.id)) =
      some ["CsvExampleGen", "Trainer", "Pusher", "Auditor"] := by
    rw [order_eq_visit (by decide +kernel) (by decide +kernel)]
    cbv
  obtain ⟨sorted, ordered, -⟩ := Sequence.exists_ok_of_toOption listed
  refine ⟨_, node, repaired, rfl, rfl, by decide +kernel, fun without => ?_, sorted, ordered⟩
  obtain ⟨_, resolved, _⟩ := hasOrder_iff.1 without
  exact absurd resolved (by decide +kernel)

end Graph

end PipelineManifest
