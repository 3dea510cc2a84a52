import Mathlib.Data.List.Permutation
import PipelineManifest.Graph.Catalogue
import PipelineManifest.Proofs.Graph.Search
import PipelineManifest.Proofs.Sequence

/-!
# The order of a graph

What the search finds. It keeps one invariant of the nodes that are listed and of those that wait
for others (`Listing`), and what it fails on is a cycle.

Results:
1. `visit_listing`: what is listed at any time is a right order of some of the nodes, without those
   that wait.
2. `visit_error`: the search fails only on a cycle.
3. `order_spec`: a graph has an order if and only if its names are distinct, its inputs resolve and
   it has no cycle, and the order is one of all nodes with producers first.
-/

namespace PipelineManifest

namespace Graph

/-! ## What is listed -/

/-- What the search has listed while the nodes of `path` wait. -/
structure Listing (nodes : List Node) (path : List String) (listed : List Node) : Prop where
  members : ∀ node ∈ listed, node ∈ nodes
  distinct : Distinct listed
  producersFirst : ProducersFirst listed
  offPath : ∀ id ∈ path, id ∉ listed.map (·.id)

theorem listing_nil (nodes : List Node) (path : List String) : Listing nodes path [] where
  members := by simp
  distinct := .nil
  producersFirst := producersFirst_nil
  offPath := by simp

theorem Listing.descend {nodes : List Node} {path : List String} {listed : List Node}
    (listing : Listing nodes path listed) {id : String} (missing : id ∉ listed.map (·.id)) :
    Listing nodes (id :: path) listed where
  members := listing.members
  distinct := listing.distinct
  producersFirst := listing.producersFirst
  offPath := by
    intro other member
    rcases List.mem_cons.1 member with rfl | onPath
    · exact missing
    · exact listing.offPath other onPath

/-- A node that waits no longer is listed. -/
theorem Listing.concat {nodes : List Node} {path : List String} {before : List Node} {node : Node}
    (listing : Listing nodes (node.id :: path) before) (member : node ∈ nodes)
    (fresh : node.id ∉ path) (produced : ∀ id ∈ node.producerIds, id ∈ before.map (·.id)) :
    Listing nodes path (before ++ [node]) where
  members := by
    intro other inListed
    rcases List.mem_append.1 inListed with old | new
    · exact listing.members other old
    · exact List.mem_singleton.1 new ▸ member
  distinct := listing.distinct.concat (listing.offPath node.id List.mem_cons_self)
  producersFirst := listing.producersFirst.concat produced
  offPath := by
    intro id onPath inListed
    rw [List.map_append, List.mem_append, List.map_singleton, List.mem_singleton] at inListed
    rcases inListed with old | rfl
    · exact listing.offPath id (List.mem_cons_of_mem _ onPath) old
    · exact fresh onPath

/-- The search keeps what is listed, adds to its end and lists all that it is to list. -/
theorem visit_listing {nodes : List Node} (resolved : Resolved nodes) (path : List String)
    (listed : List Node) (ids : List String) :
    Listing nodes path listed → (∀ id ∈ ids, id ∈ nodes.map (·.id)) →
      ∀ result, visit nodes path listed ids = .ok result →
        Listing nodes path result ∧ listed <+: result ∧ ∀ id ∈ ids, id ∈ result.map (·.id) := by
  fun_induction visit nodes path listed ids with
  | case1 path listed =>
    intro listing _ result ended
    cases ended
    exact ⟨listing, List.prefix_rfl, by simp⟩
  | case2 path listed id rest present ih =>
    intro listing known result ended
    obtain ⟨listing', extends', reached⟩ :=
      ih listing (fun other member => known other (List.mem_cons_of_mem _ member)) result ended
    refine ⟨listing', extends', List.forall_mem_cons.2 ⟨?_, reached⟩⟩
    exact (extends'.map _).subset (any_id_iff.1 present)
  | case3 path listed id rest absent waits =>
    intro _ _ result ended
    cases ended
  | case4 path listed id rest absent fresh unknown ih =>
    intro _ known
    exact absurd (known id List.mem_cons_self) (node?_eq_none_iff.1 unknown)
  | case5 path listed id rest absent fresh node found ihBelow ihRest =>
    intro listing known result ended
    obtain ⟨before, inner, outer⟩ := Sequence.bind_eq_ok_iff.1 ended
    obtain ⟨member, rfl⟩ := mem_of_node? found
    have missing : node.id ∉ listed.map (·.id) := fun present => absent (any_id_iff.2 present)
    -- while its producers are listed the node waits, so none of them can have put it there
    obtain ⟨below, keeps, produced⟩ := ihBelow (listing.descend missing)
      (fun producer consumed => resolved.known member consumed) before inner
    obtain ⟨listing', extends', reached⟩ := ihRest before (below.concat member fresh produced)
      (fun other inRest => known other (List.mem_cons_of_mem _ inRest)) result outer
    refine ⟨listing', (keeps.trans (List.prefix_append _ _)).trans extends',
      List.forall_mem_cons.2 ⟨?_, reached⟩⟩
    exact (extends'.map _).subset (List.mem_map_of_mem (by simp))

/-! ## When the search fails -/

/-- The search fails only on a cycle, if all nodes that wait need those that are looked for. -/
theorem visit_error {nodes : List Node} (path : List String) (listed : List Node)
    (ids : List String) :
    (∀ waiting ∈ path, ∀ id ∈ ids, Reaches nodes waiting id) →
      ∀ error, visit nodes path listed ids = .error error →
        ∃ id, error = .circularDependency id ∧ Reaches nodes id id := by
  fun_induction visit nodes path listed ids with
  | case1 path listed =>
    intro _ error ended
    cases ended
  | case2 path listed id rest present ih =>
    intro waits
    exact ih fun waiting onPath other member => waits waiting onPath other
      (List.mem_cons_of_mem _ member)
  | case3 path listed id rest absent onPath =>
    intro waits error ended
    cases ended
    exact ⟨id, rfl, waits id onPath id List.mem_cons_self⟩
  | case4 path listed id rest absent fresh unknown ih =>
    intro waits
    exact ih fun waiting onPath other member => waits waiting onPath other
      (List.mem_cons_of_mem _ member)
  | case5 path listed id rest absent fresh node found ihBelow ihRest =>
    intro waits error ended
    obtain ⟨member, rfl⟩ := mem_of_node? found
    rcases Sequence.bind_eq_error_iff.1 ended with inner | ⟨before, _, outer⟩
    · refine ihBelow ?_ error inner
      -- what the node consumes is needed by the node itself and so by all that wait for it
      intro waiting onPath producer consumed
      have needs := needs_of_mem_producerIds member consumed
      rcases List.mem_cons.1 onPath with rfl | above
      · exact .single needs
      · exact .tail (waits waiting above node.id List.mem_cons_self) needs
    · exact ihRest before (fun waiting onPath other inRest => waits waiting onPath other
        (List.mem_cons_of_mem _ inRest)) error outer

/-! ## Orders of a whole graph -/

theorem order_eq_visit {nodes : List Node} (distinct : Distinct nodes)
    (resolved : Resolved nodes) : order nodes = visit nodes [] [] (nodes.map (·.id)) := by
  rw [order, firstRepeat?_eq_none_iff.2 distinct, (firstBadInput?_eq_none_iff distinct).2 resolved]

theorem order_eq_ok_iff {nodes sorted : List Node} :
    order nodes = .ok sorted ↔ Distinct nodes ∧ Resolved nodes ∧
      visit nodes [] [] (nodes.map (·.id)) = .ok sorted := by
  constructor
  · intro ordered
    unfold order at ordered
    split at ordered
    next => cases ordered
    next unrepeated =>
      have distinct : Distinct nodes := firstRepeat?_eq_none_iff.1 unrepeated
      split at ordered
      next => cases ordered
      next none => exact ⟨distinct, (firstBadInput?_eq_none_iff distinct).1 none, ordered⟩
  · rintro ⟨distinct, resolved, ended⟩
    rw [order_eq_visit distinct resolved, ended]

theorem perm_of_order {nodes sorted : List Node} (ordered : order nodes = .ok sorted) :
    sorted.Perm nodes ∧ Distinct sorted ∧ ProducersFirst sorted := by
  obtain ⟨distinct, resolved, ended⟩ := order_eq_ok_iff.1 ordered
  obtain ⟨listing, _, reached⟩ :=
    visit_listing resolved [] [] _ (listing_nil nodes []) (fun _ known => known) sorted ended
  refine ⟨?_, listing.distinct, listing.producersFirst⟩
  refine (List.perm_ext_iff_of_nodup listing.distinct.of_map distinct.of_map).2 fun node => ?_
  refine ⟨listing.members node, fun member => ?_⟩
  obtain ⟨other, inSorted, named⟩ := List.mem_map.1 (reached _ (List.mem_map_of_mem member))
  exact distinct.eq (listing.members other inSorted) member named ▸ inSorted

theorem exists_order {nodes : List Node} (distinct : Distinct nodes) (resolved : Resolved nodes)
    (acyclic : Acyclic nodes) : ∃ sorted, order nodes = .ok sorted := by
  cases ended : visit nodes [] [] (nodes.map (·.id)) with
  | ok sorted => exact ⟨sorted, order_eq_ok_iff.2 ⟨distinct, resolved, ended⟩⟩
  | error error =>
    obtain ⟨id, _, cycle⟩ := visit_error [] [] _ (fun _ onPath => nomatch onPath) error ended
    obtain ⟨_, ⟨node, member, rfl, _⟩, _⟩ := Relation.TransGen.head'_iff.1 cycle
    exact absurd cycle (acyclic node member)

def HasOrder (nodes : List Node) : Prop :=
  ∃ sorted, order nodes = .ok sorted

theorem hasOrder_iff {nodes : List Node} :
    HasOrder nodes ↔ Distinct nodes ∧ Resolved nodes ∧ Acyclic nodes := by
  constructor
  · rintro ⟨sorted, ordered⟩
    obtain ⟨distinct, resolved, _⟩ := order_eq_ok_iff.1 ordered
    obtain ⟨same, distinctSorted, first⟩ := perm_of_order ordered
    exact ⟨distinct, resolved, acyclic_of_producersFirst first distinctSorted same⟩
  · rintro ⟨distinct, resolved, acyclic⟩
    exact exists_order distinct resolved acyclic

/-- Whether a graph has an order does not depend on the order in which its nodes are listed. -/
theorem HasOrder.perm {nodes other : List Node} (ordered : HasOrder nodes)
    (same : other.Perm nodes) : HasOrder other := by
  obtain ⟨distinct, resolved, acyclic⟩ := hasOrder_iff.1 ordered
  have needs : ∀ consumer producer, Needs other consumer producer →
      Needs nodes consumer producer := fun _ _ ⟨node, member, input⟩ =>
    ⟨node, same.mem_iff.1 member, input⟩
  refine hasOrder_iff.2 ⟨(same.map _).nodup_iff.2 distinct, ?_, ?_⟩
  · intro node member channel input
    obtain ⟨producer, offers, declared⟩ := resolved node (same.mem_iff.1 member) channel input
    exact ⟨producer, same.mem_iff.2 offers, declared⟩
  · intro node member cycle
    exact acyclic node (same.mem_iff.1 member) (Relation.TransGen.mono needs _ _ cycle)

/-- A graph has an order if and only if its names are distinct, its inputs resolve and no node gets
back to itself. The order has the nodes of the graph, each once, and each behind its producers. The
search for it ends on every graph, and it goes no deeper than there are nodes. -/
theorem order_spec (nodes : List Node) :
    ((∃ sorted, order nodes = .ok sorted) ↔
      Distinct nodes ∧ Resolved nodes ∧ Acyclic nodes) ∧
    (∀ sorted, order nodes = .ok sorted → sorted.Perm nodes ∧ ProducersFirst sorted) ∧
    Search nodes nodes.length [] [] (nodes.map (·.id)) (visit nodes [] [] (nodes.map (·.id))) := by
  refine ⟨⟨?_, ?_⟩, ?_, ?_⟩
  · rintro ⟨sorted, ordered⟩
    obtain ⟨distinct, resolved, _⟩ := order_eq_ok_iff.1 ordered
    obtain ⟨same, distinctSorted, first⟩ := perm_of_order ordered
    exact ⟨distinct, resolved, acyclic_of_producersFirst first distinctSorted same⟩
  · rintro ⟨distinct, resolved, acyclic⟩
    exact exists_order distinct resolved acyclic
  · intro sorted ordered
    obtain ⟨same, _, first⟩ := perm_of_order ordered
    exact ⟨same, first⟩
  · exact search_visit nodes [] [] _ _ (List.length_filter_le _ _)

/-- A pipeline listed from its end, with a node that has nothing to do with the others. -/
def backwards : List Node :=
  [.evaluator ⟨"CsvExampleGen", "examples", "Examples"⟩ ⟨"Trainer", "model", "Model"⟩,
    .trainer ⟨"CsvExampleGen", "examples", "Examples"⟩ "taxi.run_fn" 2 1,
    .csvExampleGen "/data",
    .ofType "Notifier" .other]

theorem order_spec_backwards :
    Acyclic backwards ∧ ∃ sorted, order backwards = .ok sorted ∧
      sorted.map (·.id) = ["CsvExampleGen", "Trainer", "Evaluator", "Notifier"] ∧
      sorted.Perm backwards ∧ ProducersFirst sorted := by
  have listed : (order backwards).toOption.map (·.map (·.id)) =
      some ["CsvExampleGen", "Trainer", "Evaluator", "Notifier"] := by
    rw [order_eq_visit (by decide +kernel) (by decide +kernel)]
    cbv
  obtain ⟨decides, right, -⟩ := order_spec backwards
  obtain ⟨sorted, ordered, names⟩ := Sequence.exists_ok_of_toOption listed
  exact ⟨(decides.1 ⟨sorted, ordered⟩).2.2, sorted, ordered, names, right sorted ordered⟩

end Graph

end PipelineManifest
