import PipelineManifest.Proofs.Graph.Capture

/-!
# The groups of an order

The search takes the nodes as they are listed, and ahead of each of them it lists what the node
requires and is not there yet. So an order is made of groups, one for each node of the list, and a
node stands in the group of the earliest one that requires it (`firstUse`).

Results:
1. `mem_visit_iff`, `group_of_visit`: a search lists what the names that it looks for require, and
   nothing else.
2. `exists_prefix_of_order`: an order begins with all that the first nodes of the list require.
3. `order_of_producersFirst`: a list with producers first is its own order.
4. `order_grouped`: of two nodes the one of the earlier group stands first, and a second ordering
   changes nothing.
-/

namespace PipelineManifest

namespace Graph

/-! ## Definitions -/

/-- A run of a node requires the node itself and all that it reaches. -/
def Requires (nodes : List Node) (id other : String) : Prop :=
  other = id ∨ Reaches nodes id other

/-- Where a name stands in a list of nodes. -/
def position (nodes : List Node) (id : String) : Nat :=
  (nodes.map (·.id)).idxOf id

open Classical in
/-- Where the earliest node stands that requires a name: the node of that name, or one that reaches
it. -/
noncomputable def firstUse (nodes : List Node) (id : String) : Nat :=
  nodes.findIdx fun node => Requires nodes node.id id

/-! ## What is required -/

theorem Requires.of_needs {nodes : List Node} {consumer producer other : String}
    (needs : Needs nodes consumer producer) (requires : Requires nodes producer other) :
    Requires nodes consumer other := by
  rcases requires with rfl | reaches
  · exact .inr (.single needs)
  · exact .inr (.head needs reaches)

/-- What a node reaches is what its producers require. -/
theorem reaches_iff {nodes : List Node} (distinct : Distinct nodes) {node : Node}
    (member : node ∈ nodes) {other : String} :
    Reaches nodes node.id other ↔ ∃ id ∈ node.producerIds, Requires nodes id other := by
  constructor
  · intro reaches
    obtain ⟨id, ⟨same, inNodes, named, input⟩, onwards⟩ := Relation.TransGen.head'_iff.1 reaches
    cases distinct.eq inNodes member named
    exact ⟨id, mem_producerIds.2 input, (Relation.reflTransGen_iff_eq_or_transGen.1 onwards)⟩
  · rintro ⟨id, consumed, rfl | onwards⟩
    · exact .single (needs_of_mem_producerIds member consumed)
    · exact .head (needs_of_mem_producerIds member consumed) onwards

theorem not_reaches_of_terminal {nodes : List Node} {id other : String}
    (terminal : Terminal nodes other) : ¬ Reaches nodes id other := by
  intro reaches
  obtain ⟨_, _, node, member, _, channel, input, leads⟩ := Relation.TransGen.tail'_iff.1 reaches
  exact terminal node member channel input leads

theorem Listing.mem_of_needs {nodes : List Node} (distinct : Distinct nodes) {path : List String}
    {listed : List Node} (listing : Listing nodes path listed) {consumer producer : String}
    (present : consumer ∈ listed.map (·.id)) (needs : Needs nodes consumer producer) :
    producer ∈ listed.map (·.id) := by
  obtain ⟨node, inListed, rfl⟩ := List.mem_map.1 present
  obtain ⟨other, member, named, input⟩ := needs
  cases distinct.eq member (listing.members node inListed) named
  exact listing.producersFirst.known inListed (mem_producerIds.2 input)

/-- With a node all that it requires is listed. -/
theorem Listing.mem_of_requires {nodes : List Node} (distinct : Distinct nodes)
    {path : List String} {listed : List Node} (listing : Listing nodes path listed)
    {id other : String} (present : id ∈ listed.map (·.id)) (requires : Requires nodes id other) :
    other ∈ listed.map (·.id) := by
  rcases requires with rfl | reaches
  · exact present
  · induction reaches with
    | single needs => exact listing.mem_of_needs distinct present needs
    | tail _ needs ih => exact listing.mem_of_needs distinct ih needs

theorem required_of_visit {nodes : List Node} (path : List String) (listed : List Node)
    (ids : List String) :
    ∀ result, visit nodes path listed ids = .ok result → ∀ other ∈ result.map (·.id),
      other ∈ listed.map (·.id) ∨ ∃ id ∈ ids, Requires nodes id other := by
  fun_induction visit nodes path listed ids with
  | case1 path listed =>
    intro result ended other present
    cases ended
    exact .inl present
  | case2 path listed id rest _ ih =>
    intro result ended other present
    refine (ih result ended other present).imp_right ?_
    rintro ⟨name, inRest, requires⟩
    exact ⟨name, List.mem_cons_of_mem _ inRest, requires⟩
  | case3 path listed id rest _ waits =>
    intro result ended
    cases ended
  | case4 path listed id rest _ fresh unknown ih =>
    intro result ended other present
    refine (ih result ended other present).imp_right ?_
    rintro ⟨name, inRest, requires⟩
    exact ⟨name, List.mem_cons_of_mem _ inRest, requires⟩
  | case5 path listed id rest _ fresh node found ihBelow ihRest =>
    intro result ended other present
    obtain ⟨before, inner, outer⟩ := Sequence.bind_eq_ok_iff.1 ended
    obtain ⟨member, rfl⟩ := mem_of_node? found
    rcases ihRest before result outer other present with reached | ⟨name, inRest, requires⟩
    · -- it was listed for the node: before all of this, as one of its producers, or as itself
      rw [List.map_append, List.mem_append, List.map_singleton, List.mem_singleton] at reached
      rcases reached with below | rfl
      · rcases ihBelow before inner other below with old | ⟨producer, consumed, requires⟩
        · exact .inl old
        · exact .inr ⟨node.id, List.mem_cons_self,
            .of_needs (needs_of_mem_producerIds member consumed) requires⟩
      · exact .inr ⟨node.id, List.mem_cons_self, .inl rfl⟩
    · exact .inr ⟨name, List.mem_cons_of_mem _ inRest, requires⟩

/-- What is listed in the end was listed before or is required by a name that is looked for. -/
theorem mem_visit_iff {nodes : List Node} (distinct : Distinct nodes) (resolved : Resolved nodes)
    {path : List String} {listed result : List Node} {ids : List String}
    (listing : Listing nodes path listed) (known : ∀ id ∈ ids, id ∈ nodes.map (·.id))
    (ended : visit nodes path listed ids = .ok result) {other : String} :
    other ∈ result.map (·.id) ↔
      other ∈ listed.map (·.id) ∨ ∃ id ∈ ids, Requires nodes id other := by
  obtain ⟨listing', extends', reached⟩ :=
    visit_listing resolved path listed ids listing known result ended
  constructor
  · exact required_of_visit path listed ids result ended other
  · rintro (old | ⟨id, member, requires⟩)
    · exact (extends'.map _).subset old
    · exact listing'.mem_of_requires distinct (reached id member) requires

/-- What the search for a node's producers adds is what the node reaches. With the node behind it,
it is what the node requires. -/
theorem group_of_visit {nodes : List Node} (distinct : Distinct nodes) (resolved : Resolved nodes)
    {path : List String} {listed before : List Node} (listing : Listing nodes path listed)
    {node : Node} (member : node ∈ nodes) (missing : node.id ∉ listed.map (·.id))
    (fresh : node.id ∉ path)
    (ended : visit nodes (node.id :: path) listed node.producerIds = .ok before) :
    Listing nodes path (before ++ [node]) ∧ ∀ other, other ∉ listed.map (·.id) →
      (other ∈ before.map (·.id) ↔ Reaches nodes node.id other) ∧
      (other ∈ (before ++ [node]).map (·.id) ↔ Requires nodes node.id other) := by
  have waiting := listing.descend missing
  have known : ∀ id ∈ node.producerIds, id ∈ nodes.map (·.id) := fun id consumed =>
    resolved.known member consumed
  obtain ⟨below, _, produced⟩ := visit_listing resolved _ _ _ waiting known before ended
  refine ⟨below.concat member fresh produced, fun other unlisted => ?_⟩
  have reached : other ∈ before.map (·.id) ↔ Reaches nodes node.id other := by
    rw [mem_visit_iff distinct resolved waiting known ended, reaches_iff distinct member,
      or_iff_right unlisted]
  refine ⟨reached, ?_⟩
  rw [List.map_append, List.mem_append, List.map_singleton, List.mem_singleton, reached, or_comm,
    Requires]

/-! ## The beginnings of an order -/

theorem visit_append (nodes : List Node) (path : List String) (listed : List Node)
    (ids rest : List String) :
    visit nodes path listed (ids ++ rest) =
      (visit nodes path listed ids).bind fun before => visit nodes path before rest := by
  fun_induction visit nodes path listed ids with
  | case1 path listed => rfl
  | case2 path listed id others present ih => rw [List.cons_append, visit, if_pos present, ih]
  | case3 path listed id others absent waits =>
    rw [List.cons_append, visit, if_neg absent, dif_pos waits]
    rfl
  | case4 path listed id others absent fresh unknown ih =>
    rw [List.cons_append, visit_of_unknown (fun present => absent (any_id_iff.2 present)) fresh
      unknown, ih]
  | case5 path listed id others absent fresh node found _ ihRest =>
    rw [List.cons_append, visit_of_known (fun present => absent (any_id_iff.2 present)) fresh found]
    cases visit nodes (id :: path) listed node.producerIds with
    | error error => rfl
    | ok before => exact ihRest before

/-- An order begins with what the first nodes of the list require, and with nothing else. -/
theorem exists_prefix_of_order {nodes sorted front back : List Node}
    (ordered : order nodes = .ok sorted) (split : nodes = front ++ back) :
    ∃ before, before <+: sorted ∧ ∀ other,
      other ∈ before.map (·.id) ↔ ∃ node ∈ front, Requires nodes node.id other := by
  obtain ⟨distinct, resolved, ended⟩ := order_eq_ok_iff.1 ordered
  have names : nodes.map (·.id) = front.map (·.id) ++ back.map (·.id) := by
    rw [split, List.map_append]
  rw [names, visit_append] at ended
  obtain ⟨before, inner, outer⟩ := Sequence.bind_eq_ok_iff.1 ended
  have knownFront : ∀ id ∈ front.map (·.id), id ∈ nodes.map (·.id) := by
    intro id member
    exact names ▸ List.mem_append_left _ member
  have knownBack : ∀ id ∈ back.map (·.id), id ∈ nodes.map (·.id) := by
    intro id member
    exact names ▸ List.mem_append_right _ member
  have listing := visit_listing resolved [] [] _ (listing_nil nodes []) knownFront before inner
  have extended := visit_listing resolved [] before _ listing.1 knownBack sorted outer
  refine ⟨before, extended.2.1, fun other => ?_⟩
  rw [mem_visit_iff distinct resolved (listing_nil nodes []) knownFront inner]
  simp

theorem position_lt_of_prefix {before sorted : List Node} (begins : before <+: sorted)
    {first second : String} (present : first ∈ before.map (·.id))
    (absent : second ∉ before.map (·.id)) : position sorted first < position sorted second := by
  obtain ⟨after, rfl⟩ := begins
  rw [position, position, List.map_append, List.idxOf_append_of_mem present,
    List.idxOf_append_of_notMem absent]
  exact Nat.lt_add_right _ (List.idxOf_lt_length_of_mem present)

theorem position_of_prefix {before sorted : List Node} (begins : before <+: sorted) {id : String}
    (present : id ∈ before.map (·.id)) : position sorted id = position before id := by
  obtain ⟨after, rfl⟩ := begins
  rw [position, position, List.map_append, List.idxOf_append_of_mem present]

/-! ## Groups -/

theorem firstUse_lt_iff {nodes : List Node} {id : String} {count : Nat}
    (bound : count ≤ nodes.length) :
    firstUse nodes id < count ↔ ∃ node ∈ nodes.take count, Requires nodes node.id id := by
  classical
  have among : (nodes.take count).findIdx (fun node => decide (Requires nodes node.id id)) <
      (nodes.take count).length ↔ ∃ node ∈ nodes.take count, Requires nodes node.id id := by
    rw [List.findIdx_lt_length]
    simp only [decide_eq_true_eq]
  rw [← among, List.findIdx_take, List.length_take, firstUse]
  omega

theorem position_lt_of_firstUse_lt {nodes sorted : List Node} (ordered : order nodes = .ok sorted)
    {first second : String} (earlier : firstUse nodes first < firstUse nodes second) :
    position sorted first < position sorted second := by
  classical
  have bound : firstUse nodes first + 1 ≤ nodes.length :=
    Nat.lt_of_lt_of_le earlier List.findIdx_le_length
  -- the search is done with the group of the first node and has not come to that of the second
  obtain ⟨before, begins, listed⟩ :=
    exists_prefix_of_order ordered (List.take_append_drop (firstUse nodes first + 1) nodes).symm
  refine position_lt_of_prefix begins ((listed first).2 ?_) fun present => ?_
  · exact (firstUse_lt_iff bound).1 (Nat.lt_succ_self _)
  · have late := (firstUse_lt_iff bound).2 ((listed second).1 present)
    omega

theorem search_of_producersFirst {nodes : List Node} (distinct : Distinct nodes)
    (producersFirst : ProducersFirst nodes) (before after : List Node)
    (split : nodes = before ++ after) :
    Search nodes 1 [] before (after.map (·.id)) (.ok nodes) := by
  induction after generalizing before with
  | nil =>
    rw [List.append_nil] at split
    rw [split]
    exact .finished
  | cons node rest ih =>
    have member : node ∈ nodes := split ▸ List.mem_append_right _ List.mem_cons_self
    have found : node? nodes node.id = some node := (node?_eq_some_iff distinct).2 ⟨member, rfl⟩
    exact .node (distinct.notMem_ahead split) List.not_mem_nil found
      (search_of_listed (producersFirst before node rest split))
      (ih (before ++ [node]) (by rw [split, List.append_assoc, List.singleton_append]))

/-- A list with producers first is its own order. -/
theorem order_of_producersFirst {nodes : List Node} (distinct : Distinct nodes)
    (resolved : Resolved nodes) (producersFirst : ProducersFirst nodes) :
    order nodes = .ok nodes := by
  have search := search_of_producersFirst distinct producersFirst [] nodes rfl
  exact order_eq_ok_iff.2 ⟨distinct, resolved, visit_of_search search⟩

/-- Of two nodes the one that is required earlier in the list stands first in the order. A list in
which every producer stands ahead of its consumers is left as it is, and so is an order that is put
in order again. -/
theorem order_grouped {nodes sorted : List Node} (ordered : order nodes = .ok sorted) :
    (∀ first second, firstUse nodes first < firstUse nodes second →
      position sorted first < position sorted second) ∧
    (ProducersFirst nodes → sorted = nodes) ∧ order sorted = .ok sorted := by
  obtain ⟨distinct, resolved, _⟩ := order_eq_ok_iff.1 ordered
  obtain ⟨same, distinctSorted, producersFirst⟩ := perm_of_order ordered
  refine ⟨fun first second => position_lt_of_firstUse_lt ordered, fun unchanged => ?_, ?_⟩
  · have kept := order_of_producersFirst distinct resolved unchanged
    exact Except.ok.inj (ordered.symm.trans kept)
  · obtain ⟨_, resolvedSorted, _⟩ := hasOrder_iff.1 (HasOrder.perm ⟨sorted, ordered⟩ same)
    exact order_of_producersFirst distinctSorted resolvedSorted producersFirst

/-- A pipeline listed from its end, with a node in it that has nothing to do with the others. -/
def interrupted : List Node :=
  [.evaluator ⟨"CsvExampleGen", "examples", "Examples"⟩ ⟨"Trainer", "model", "Model"⟩,
    .ofType "Notifier" .other,
    .trainer ⟨"CsvExampleGen", "examples", "Examples"⟩ "taxi.run_fn" 2 1,
    .csvExampleGen "/data"]

theorem order_grouped_interrupted :
    ∃ sorted, order interrupted = .ok sorted ∧
      firstUse interrupted "CsvExampleGen" < firstUse interrupted "Notifier" ∧
      position interrupted "Notifier" < position interrupted "CsvExampleGen" ∧
      position sorted "CsvExampleGen" < position sorted "Notifier" ∧
      order sorted = .ok sorted := by
  have listed : (order interrupted).toOption.map (·.map (·.id)) =
      some ["CsvExampleGen", "Trainer", "Evaluator", "Notifier"] := by
    rw [order_eq_visit (by decide +kernel) (by decide +kernel)]
    cbv
  obtain ⟨sorted, ordered, -⟩ := Sequence.exists_ok_of_toOption listed
  have examples : firstUse interrupted "CsvExampleGen" < 1 := by
    refine (firstUse_lt_iff (by decide)).2 ⟨_, List.mem_cons_self, .inr (.single ?_)⟩
    exact needs_of_mem_producerIds List.mem_cons_self (by decide +kernel)
  have notifier : ¬ firstUse interrupted "Notifier" < 1 := by
    rw [firstUse_lt_iff (by decide)]
    rintro ⟨node, member, same | reaches⟩
    · cases List.mem_singleton.1 member
      exact absurd same (by decide)
    · exact not_reaches_of_terminal (by decide +kernel) reaches
  have earlier : firstUse interrupted "CsvExampleGen" < firstUse interrupted "Notifier" := by omega
  obtain ⟨grouped, -, again⟩ := order_grouped ordered
  exact ⟨sorted, ordered, earlier, by decide +kernel, grouped _ _ earlier, again⟩

end Graph

end PipelineManifest
