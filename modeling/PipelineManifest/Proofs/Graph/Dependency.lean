import Mathlib.Data.List.Nodup
import Mathlib.Logic.Relation
import PipelineManifest.Graph.Order

/-!
# Dependencies between the nodes of a graph

What it takes for a graph to have an order, said without the search that looks for one: distinct
names, inputs that lead to declared outputs (`Resolved`) and no node that needs itself (`Acyclic`).
An order is right if it puts producers first (`ProducersFirst`).

Results:
1. `firstRepeat?_eq_none_iff`, `firstBadInput?_eq_none_iff`: what the two checks ahead of the search
   decide.
2. `ProducersFirst.idxOf_lt`: along a dependency the position in an order falls, so a graph that
   has an order has no cycle (`acyclic_of_producersFirst`).
-/

namespace PipelineManifest

namespace Graph

/-! ## Definitions -/

/-- No two nodes have one name. -/
def Distinct (nodes : List Node) : Prop :=
  (nodes.map (·.id)).Nodup

instance (nodes : List Node) : Decidable (Distinct nodes) :=
  inferInstanceAs (Decidable (List.Nodup _))

/-- A channel comes from an output that a node of the graph declares. -/
def Offered (nodes : List Node) (channel : Channel) : Prop :=
  ∃ producer ∈ nodes, producer.id = channel.producer ∧ producer.hasOutput channel.output

instance (nodes : List Node) (channel : Channel) : Decidable (Offered nodes channel) :=
  inferInstanceAs (Decidable (∃ producer ∈ nodes, _))

/-- Every input has a channel that the graph offers. -/
def Resolved (nodes : List Node) : Prop :=
  ∀ node ∈ nodes, ∀ channel ∈ node.inputs.values, Offered nodes channel

instance (nodes : List Node) : Decidable (Resolved nodes) :=
  inferInstanceAs (Decidable (∀ node ∈ nodes, ∀ channel ∈ node.inputs.values, _))

/-- A node named `consumer` has an input that comes from `producer`. -/
def Needs (nodes : List Node) (consumer producer : String) : Prop :=
  ∃ node ∈ nodes, node.id = consumer ∧ ∃ channel ∈ node.inputs.values, channel.producer = producer

/-- `Needs` in one or more steps. -/
abbrev Reaches (nodes : List Node) : String → String → Prop :=
  Relation.TransGen (Needs nodes)

/-- No node gets back to itself from its inputs to their producers and on. -/
def Acyclic (nodes : List Node) : Prop :=
  ∀ node ∈ nodes, ¬ Reaches nodes node.id node.id

/-- Each node stands behind all nodes that it consumes from. -/
def ProducersFirst (sorted : List Node) : Prop :=
  ∀ before node after, sorted = before ++ node :: after →
    ∀ id ∈ node.producerIds, id ∈ before.map (·.id)

/-! ## Names and producers -/

theorem mem_producerIds {node : Node} {id : String} :
    id ∈ node.producerIds ↔ ∃ channel ∈ node.inputs.values, channel.producer = id := by
  unfold Node.producerIds
  rw [Dictionary.mem_keys_ofList, List.map_map, List.mem_map]
  rfl

theorem needs_of_mem_producerIds {nodes : List Node} {node : Node} {id : String}
    (member : node ∈ nodes) (consumed : id ∈ node.producerIds) : Needs nodes node.id id :=
  ⟨node, member, rfl, mem_producerIds.1 consumed⟩

theorem Distinct.eq {nodes : List Node} (distinct : Distinct nodes) {first second : Node}
    (mem₁ : first ∈ nodes) (mem₂ : second ∈ nodes) (same : first.id = second.id) :
    first = second :=
  List.inj_on_of_nodup_map distinct mem₁ mem₂ same

theorem Distinct.concat {nodes : List Node} (distinct : Distinct nodes) {node : Node}
    (fresh : node.id ∉ nodes.map (·.id)) : Distinct (nodes ++ [node]) := by
  rw [Distinct, List.map_append, List.map_singleton]
  refine List.nodup_append.2 ⟨distinct, List.nodup_singleton _, ?_⟩
  rintro _ member _ last rfl
  exact fresh (List.mem_singleton.1 last ▸ member)

/-- No node has the name of one that stands ahead of it. -/
theorem Distinct.notMem_ahead {nodes before after : List Node} {node : Node}
    (distinct : Distinct nodes) (split : nodes = before ++ node :: after) :
    node.id ∉ before.map (·.id) := by
  rw [Distinct, split, List.map_append, List.map_cons] at distinct
  intro ahead
  exact (List.nodup_append.1 distinct).2.2 _ ahead _ List.mem_cons_self rfl

theorem mem_of_node? {nodes : List Node} {id : String} {node : Node}
    (found : node? nodes id = some node) : node ∈ nodes ∧ node.id = id := by
  refine ⟨List.mem_of_find?_eq_some found, ?_⟩
  have accepted := List.find?_some found
  exact of_decide_eq_true accepted

theorem exists_node? {nodes : List Node} {id : String} (known : id ∈ nodes.map (·.id)) :
    ∃ node, node? nodes id = some node := by
  obtain ⟨node, member, named⟩ := List.mem_map.1 known
  have found : (node? nodes id).isSome := by
    rw [node?, List.find?_isSome]
    exact ⟨node, member, decide_eq_true named⟩
  exact Option.isSome_iff_exists.1 found

theorem node?_eq_none_iff {nodes : List Node} {id : String} :
    node? nodes id = none ↔ id ∉ nodes.map (·.id) := by
  rw [node?, List.find?_eq_none, List.mem_map]
  simp

theorem node?_eq_some_iff {nodes : List Node} (distinct : Distinct nodes) {id : String}
    {node : Node} : node? nodes id = some node ↔ node ∈ nodes ∧ node.id = id := by
  refine ⟨mem_of_node?, fun ⟨member, named⟩ => ?_⟩
  obtain ⟨other, found⟩ := exists_node? (List.mem_map.2 ⟨node, member, named⟩)
  have ⟨otherMember, otherNamed⟩ := mem_of_node? found
  rw [found, distinct.eq otherMember member (otherNamed.trans named.symm)]

theorem Offered.known {nodes : List Node} {channel : Channel} (offered : Offered nodes channel) :
    channel.producer ∈ nodes.map (·.id) := by
  obtain ⟨producer, member, named, _⟩ := offered
  exact List.mem_map.2 ⟨producer, member, named⟩

theorem Resolved.known {nodes : List Node} (resolved : Resolved nodes) {node : Node}
    (member : node ∈ nodes) {id : String} (consumed : id ∈ node.producerIds) :
    id ∈ nodes.map (·.id) := by
  obtain ⟨channel, input, rfl⟩ := mem_producerIds.1 consumed
  exact (resolved node member channel input).known

/-! ## The checks ahead of the search -/

theorem firstRepeat?_go_eq_none_iff (ids : List String) :
    ∀ seen, firstRepeat?.go seen ids = none ↔ ids.Nodup ∧ ∀ id ∈ ids, id ∉ seen := by
  induction ids with
  | nil => simp [firstRepeat?.go]
  | cons id rest ih =>
    intro seen
    rw [firstRepeat?.go]
    by_cases repeated : id ∈ seen
    · simp [repeated]
    · rw [if_neg repeated, ih, List.nodup_cons]
      constructor
      · rintro ⟨nodup, fresh⟩
        have apart : id ∉ rest := fun member => fresh id member List.mem_cons_self
        refine ⟨⟨apart, nodup⟩, fun other member => ?_⟩
        rcases List.mem_cons.1 member with rfl | inRest
        · exact repeated
        · exact fun before => fresh other inRest (List.mem_cons_of_mem _ before)
      · rintro ⟨⟨apart, nodup⟩, fresh⟩
        refine ⟨nodup, fun other member before => ?_⟩
        rcases List.mem_cons.1 before with rfl | inSeen
        · exact apart member
        · exact fresh other (List.mem_cons_of_mem _ member) inSeen

theorem firstRepeat?_eq_none_iff {ids : List String} : firstRepeat? ids = none ↔ ids.Nodup := by
  rw [firstRepeat?, firstRepeat?_go_eq_none_iff]
  simp

theorem inputError?_eq_none_iff {nodes : List Node} (distinct : Distinct nodes) {node : Node}
    {input : String} {channel : Channel} :
    inputError? nodes node input channel = none ↔ Offered nodes channel := by
  unfold inputError? Offered
  cases found : node? nodes channel.producer with
  | none =>
    rw [node?_eq_none_iff] at found
    constructor
    · intro impossible
      cases impossible
    · rintro ⟨producer, member, named, _⟩
      exact absurd (List.mem_map.2 ⟨producer, member, named⟩) found
  | some producer =>
    have ⟨member, named⟩ := mem_of_node? found
    by_cases declared : producer.hasOutput channel.output
    · simp only [declared, if_true, true_iff]
      exact ⟨producer, member, named, declared⟩
    · simp only [declared, if_false, reduceCtorEq, false_iff]
      rintro ⟨other, otherMember, otherNamed, otherDeclared⟩
      have same := distinct.eq otherMember member (otherNamed.trans named.symm)
      exact declared (same ▸ otherDeclared)

theorem firstBadInput?_eq_none_iff {nodes : List Node} (distinct : Distinct nodes) :
    firstBadInput? nodes = none ↔ Resolved nodes := by
  unfold firstBadInput? Resolved Dictionary.values
  simp only [List.findSome?_eq_none_iff, inputError?_eq_none_iff distinct, List.mem_map]
  constructor
  · rintro none node member _ ⟨entry, input, rfl⟩
    exact none node member entry input
  · intro resolved node member entry input
    exact resolved node member entry.2 ⟨entry, input, rfl⟩

/-! ## Positions in an order -/

theorem producersFirst_nil : ProducersFirst [] := by
  intro before node after split
  cases before <;> cases split

theorem ProducersFirst.known {sorted : List Node} (first : ProducersFirst sorted) {node : Node}
    (member : node ∈ sorted) {id : String} (consumed : id ∈ node.producerIds) :
    id ∈ sorted.map (·.id) := by
  obtain ⟨before, after, rfl⟩ := List.append_of_mem member
  rw [List.map_append]
  exact List.mem_append_left _ (first before node after rfl id consumed)

theorem ProducersFirst.concat {sorted : List Node} (first : ProducersFirst sorted) {node : Node}
    (produced : ∀ id ∈ node.producerIds, id ∈ sorted.map (·.id)) :
    ProducersFirst (sorted ++ [node]) := by
  intro before other after split
  rcases List.append_eq_append_iff.1 split with ⟨middle, inBefore, rest⟩ | ⟨middle, inSorted, rest⟩
  · -- the new node is all that stands behind the old ones, so it is the one that is asked about
    cases middle with
    | nil =>
      obtain ⟨rfl, -⟩ := List.cons.inj rest
      rw [List.append_nil] at inBefore
      exact inBefore ▸ produced
    | cons head tail =>
      have impossible := (List.cons.inj rest).2
      cases tail <;> cases impossible
  · cases middle with
    | nil =>
      obtain ⟨rfl, -⟩ := List.cons.inj rest
      rw [List.append_nil] at inSorted
      exact inSorted ▸ produced
    | cons head tail =>
      obtain ⟨rfl, -⟩ := List.cons.inj rest
      exact first before _ tail inSorted

theorem ProducersFirst.idxOf_lt {nodes sorted : List Node} (first : ProducersFirst sorted)
    (distinct : Distinct sorted) (same : sorted.Perm nodes) {consumer producer : String}
    (needs : Needs nodes consumer producer) :
    (sorted.map (·.id)).idxOf producer < (sorted.map (·.id)).idxOf consumer := by
  obtain ⟨node, member, rfl, input⟩ := needs
  obtain ⟨before, after, split⟩ := List.append_of_mem (same.mem_iff.2 member)
  have produced := first before node after split producer (mem_producerIds.2 input)
  have apart := distinct.notMem_ahead split
  rw [split, List.map_append, List.map_cons, List.idxOf_append_of_mem produced,
    List.idxOf_append_of_notMem apart, List.idxOf_cons_self, Nat.add_zero]
  exact List.idxOf_lt_length_of_mem produced

theorem acyclic_of_producersFirst {nodes sorted : List Node} (first : ProducersFirst sorted)
    (distinct : Distinct sorted) (same : sorted.Perm nodes) : Acyclic nodes := by
  have falls : ∀ {consumer producer}, Reaches nodes consumer producer →
      (sorted.map (·.id)).idxOf producer < (sorted.map (·.id)).idxOf consumer := by
    intro consumer producer reaches
    induction reaches with
    | single needs => exact first.idxOf_lt distinct same needs
    | tail _ needs ih => exact Nat.lt_trans (first.idxOf_lt distinct same needs) ih
  exact fun node _ cycle => Nat.lt_irrefl _ (falls cycle)

end Graph

end PipelineManifest
