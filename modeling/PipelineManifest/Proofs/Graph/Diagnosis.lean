import PipelineManifest.Proofs.Graph.Grouping

/-!
# What is wrong with a graph

A graph without an order is refused for one of three faults: a name that is given twice, an input
that does not resolve, or a cycle. `Fault` says which error stands for which fault of a graph, and
which fault goes first where there are several.

Results:
1. `firstRepeat?_eq_some`, `firstBadInput?_eq_some`: what the two checks ahead of the search find.
2. `refused_for_fault`: the error of a graph names its first fault.
-/

namespace PipelineManifest

namespace Graph

/-! ## Faults -/

/-- By the order of the nodes and, in a node, by that of the names of its inputs, this is the first
input with a channel that no node offers. -/
structure FirstUnresolved (nodes : List Node) (node : Node) (input : String) (channel : Channel) :
    Prop where
  found : node.inputs.find? input = some channel
  unoffered : ¬ Offered nodes channel
  nodesAhead : ∃ before after, nodes = before ++ node :: after ∧
    ∀ other ∈ before, ∀ held ∈ other.inputs.values, Offered nodes held
  inputsAhead : ∀ name held, name < input → node.inputs.find? name = some held →
    Offered nodes held

/-- `Fault nodes error`: the first fault of a graph is the one that the error names. A name that is
given twice goes before an input that does not resolve, and that before a cycle. -/
inductive Fault (nodes : List Node) : GraphError → Prop
  | repeated {before after : List Node} {node : Node} :
      nodes = before ++ node :: after → Distinct before → node.id ∈ before.map (·.id) →
      Fault nodes (.duplicateId node.id)
  | nowhere {node : Node} {input : String} {channel : Channel} :
      Distinct nodes → FirstUnresolved nodes node input channel →
      channel.producer ∉ nodes.map (·.id) →
      Fault nodes (.unknownProducer node.id input channel.producer)
  | undeclared {node producer : Node} {input : String} {channel : Channel} :
      Distinct nodes → FirstUnresolved nodes node input channel →
      producer ∈ nodes → producer.id = channel.producer → ¬ producer.hasOutput channel.output →
      Fault nodes (.unknownOutput node.id input channel.producer channel.output)
  | cyclic {id : String} :
      Distinct nodes → Resolved nodes → Reaches nodes id id →
      Fault nodes (.circularDependency id)

/-! ## The checks ahead of the search -/

theorem firstRepeat?_go_eq_some {id : String} (ids : List String) :
    ∀ seen, firstRepeat?.go seen ids = some id → ∃ before after, ids = before ++ id :: after ∧
      before.Nodup ∧ (∀ other ∈ before, other ∉ seen) ∧ (id ∈ seen ∨ id ∈ before) := by
  induction ids with
  | nil =>
    intro seen found
    cases found
  | cons head rest ih =>
    intro seen found
    rw [firstRepeat?.go] at found
    by_cases repeated : head ∈ seen
    · rw [if_pos repeated] at found
      cases found
      exact ⟨[], rest, rfl, List.nodup_nil, by simp, .inl repeated⟩
    · rw [if_neg repeated] at found
      obtain ⟨before, after, rfl, nodup, fresh, again⟩ := ih (head :: seen) found
      refine ⟨head :: before, after, rfl, List.nodup_cons.2 ⟨?_, nodup⟩, ?_, ?_⟩
      · exact fun member => fresh head member List.mem_cons_self
      · intro other member
        rcases List.mem_cons.1 member with rfl | inBefore
        · exact repeated
        · exact fun inSeen => fresh other inBefore (List.mem_cons_of_mem _ inSeen)
      · rcases again with inSeen | inBefore
        · rcases List.mem_cons.1 inSeen with rfl | earlier
          · exact .inr List.mem_cons_self
          · exact .inl earlier
        · exact .inr (List.mem_cons_of_mem _ inBefore)

/-- The name that is found is that of the first node with a name given before. -/
theorem firstRepeat?_eq_some {nodes : List Node} {id : String}
    (found : firstRepeat? (nodes.map (·.id)) = some id) :
    ∃ before node after, nodes = before ++ node :: after ∧ node.id = id ∧ Distinct before ∧
      id ∈ before.map (·.id) := by
  obtain ⟨names, others, split, nodup, _, again⟩ := firstRepeat?_go_eq_some _ [] found
  obtain ⟨before, rest, rfl, rfl, behind⟩ := List.map_eq_append_iff.1 split
  obtain ⟨node, after, rfl, rfl, _⟩ := List.map_eq_cons_iff.1 behind
  exact ⟨before, node, after, rfl, rfl, nodup, again.resolve_left List.not_mem_nil⟩

theorem fault_of_inputError? {nodes : List Node} {node : Node} {input : String} {channel : Channel}
    {error : GraphError} (distinct : Distinct nodes)
    (first : FirstUnresolved nodes node input channel)
    (wrong : inputError? nodes node input channel = some error) : Fault nodes error := by
  unfold inputError? at wrong
  split at wrong
  next unknown =>
    cases wrong
    exact .nowhere distinct first (node?_eq_none_iff.1 unknown)
  next producer known =>
    obtain ⟨member, named⟩ := mem_of_node? known
    by_cases declared : producer.hasOutput channel.output
    · exact absurd ⟨producer, member, named, declared⟩ first.unoffered
    · rw [if_neg declared] at wrong
      cases wrong
      exact .undeclared distinct first member named declared

/-- The input that is found is the first one that does not resolve. -/
theorem firstBadInput?_eq_some {nodes : List Node} (distinct : Distinct nodes) {error : GraphError}
    (found : firstBadInput? nodes = some error) :
    ∃ node input channel, FirstUnresolved nodes node input channel ∧
      inputError? nodes node input channel = some error := by
  obtain ⟨before, node, after, split, inNode, ahead⟩ := List.findSome?_eq_some_iff.1 found
  obtain ⟨earlier, ⟨input, channel⟩, later, entries, wrong, resolved⟩ :=
    List.findSome?_eq_some_iff.1 inNode
  have wrong : inputError? nodes node input channel = some error := wrong
  refine ⟨node, input, channel, ⟨?_, ?_, ⟨before, after, split, ?_⟩, ?_⟩, wrong⟩
  · rw [Dictionary.find?_eq_some_iff, entries]
    exact List.mem_append_right _ List.mem_cons_self
  · intro offered
    rw [(inputError?_eq_none_iff distinct).2 offered] at wrong
    cases wrong
  · intro other inBefore held input
    obtain ⟨entry, member, rfl⟩ := List.mem_map.1 input
    exact (inputError?_eq_none_iff distinct).1
      (List.findSome?_eq_none_iff.1 (ahead other inBefore) entry member)
  · -- inputs are listed by their names, so one of a smaller name stands ahead
    intro name held below bound
    have sorted := node.inputs.sorted
    rw [entries, List.pairwise_append, List.pairwise_cons] at sorted
    have member := Dictionary.find?_eq_some_iff.1 bound
    rw [entries, List.mem_append, List.mem_cons] at member
    rcases member with inEarlier | same | inLater
    · exact (inputError?_eq_none_iff distinct).1 (resolved _ inEarlier)
    · cases same
      exact absurd below (String.lt_irrefl _)
    · exact absurd below (String.lt_asymm (sorted.2.1.1 _ inLater))

/-! ## The error -/

/-- A graph without an order is refused for the first of its faults. -/
theorem refused_for_fault {nodes : List Node} {error : GraphError}
    (refused : order nodes = .error error) : Fault nodes error := by
  unfold order at refused
  split at refused
  next id found =>
    cases refused
    obtain ⟨before, node, after, split, rfl, distinct, again⟩ := firstRepeat?_eq_some found
    exact .repeated split distinct again
  next unrepeated =>
    have distinct : Distinct nodes := firstRepeat?_eq_none_iff.1 unrepeated
    split at refused
    next bad found =>
      cases refused
      obtain ⟨node, input, channel, first, wrong⟩ := firstBadInput?_eq_some distinct found
      exact fault_of_inputError? distinct first wrong
    next none =>
      have resolved := (firstBadInput?_eq_none_iff distinct).1 none
      obtain ⟨id, rfl, cycle⟩ := visit_error [] [] _ (fun _ onPath => nomatch onPath) error refused
      exact .cyclic distinct resolved cycle

/-- A trainer and a tuner that wait for each other, behind a publisher of the model. -/
def entangled : List Node :=
  [.consume (.ofType "Publisher" .other) "model" ⟨"Trainer", "model", "Model"⟩,
    .consume (.declare (.ofType "Trainer" .producer) "model" "Model") "hints"
      ⟨"Tuner", "hints", "Hints"⟩,
    .consume (.declare (.ofType "Tuner" .other) "hints" "Hints") "model"
      ⟨"Trainer", "model", "Model"⟩]

/-- The search meets the publisher first, but the error names the trainer. -/
theorem refused_for_fault_entangled :
    order entangled = .error (.circularDependency "Trainer") ∧
      Fault entangled (.circularDependency "Trainer") ∧
      Reaches entangled "Trainer" "Trainer" ∧ ¬ Reaches entangled "Publisher" "Publisher" := by
  have refused : order entangled = .error (.circularDependency "Trainer") := by
    rw [order_eq_visit (by decide +kernel) (by decide +kernel)]
    cbv
  have fault := refused_for_fault refused
  refine ⟨refused, fault, ?_, not_reaches_of_terminal (by decide +kernel)⟩
  cases fault with
  | cyclic _ _ cycle => exact cycle

end Graph

end PipelineManifest
