import PipelineManifest.Proofs.Graph.Dependency

/-!
# The search for an order

`Graph.visit` lists nodes depth first. Its rules are given once more as a relation (`Search`), in
which nothing is said about why the search ends. A search can be put together by these rules where
the function could only be unfolded.

Results:
1. `search_visit`, `visit_of_search`: the function follows the rules, and nothing else does.
2. `Search.append`: a search goes on where another one ends.
3. `Search.extend`: nodes that nothing leads to make no difference.
-/

namespace PipelineManifest

namespace Graph

/-! ## The rules -/

/-- `Search nodes depth path listed ids result`: the search for `ids` behind the nodes of `listed`
ends with `result`, and it goes at most `depth` nodes deeper than `path`. -/
inductive Search (nodes : List Node) :
    Nat → List String → List Node → List String → Except GraphError (List Node) → Prop
  | finished {depth : Nat} {path : List String} {listed : List Node} :
      Search nodes depth path listed [] (.ok listed)
  | again {depth : Nat} {path : List String} {listed : List Node} {id : String}
      {rest : List String} {result : Except GraphError (List Node)} :
      id ∈ listed.map (·.id) → Search nodes depth path listed rest result →
      Search nodes depth path listed (id :: rest) result
  | cycle {depth : Nat} {path : List String} {listed : List Node} {id : String}
      {rest : List String} :
      id ∉ listed.map (·.id) → id ∈ path →
      Search nodes depth path listed (id :: rest) (.error (.circularDependency id))
  | unknown {depth : Nat} {path : List String} {listed : List Node} {id : String}
      {rest : List String} {result : Except GraphError (List Node)} :
      id ∉ listed.map (·.id) → id ∉ path → node? nodes id = none →
      Search nodes depth path listed rest result →
      Search nodes depth path listed (id :: rest) result
  | failed {depth : Nat} {path : List String} {listed : List Node} {id : String}
      {rest : List String} {node : Node} {error : GraphError} :
      id ∉ listed.map (·.id) → id ∉ path → node? nodes id = some node →
      Search nodes depth (id :: path) listed node.producerIds (.error error) →
      Search nodes (depth + 1) path listed (id :: rest) (.error error)
  | node {depth : Nat} {path : List String} {listed before : List Node} {id : String}
      {rest : List String} {node : Node} {result : Except GraphError (List Node)} :
      id ∉ listed.map (·.id) → id ∉ path → node? nodes id = some node →
      Search nodes depth (id :: path) listed node.producerIds (.ok before) →
      Search nodes (depth + 1) path (before ++ [node]) rest result →
      Search nodes (depth + 1) path listed (id :: rest) result

theorem any_id_iff {listed : List Node} {id : String} :
    listed.any (·.id = id) = true ↔ id ∈ listed.map (·.id) := by
  rw [List.any_eq_true, List.mem_map]
  simp

/-- The search comes to an end from wherever it begins, and it goes no deeper than there are nodes
that it does not wait for yet. -/
theorem search_visit (nodes : List Node) (path : List String) (listed : List Node)
    (ids : List String) :
    ∀ depth, (nodes.filter (·.id ∉ path)).length ≤ depth →
      Search nodes depth path listed ids (visit nodes path listed ids) := by
  fun_induction visit nodes path listed ids with
  | case1 path listed => exact fun depth _ => .finished
  | case2 path listed id rest present ih =>
    exact fun depth enough => .again (any_id_iff.1 present) (ih depth enough)
  | case3 path listed id rest absent waits =>
    exact fun depth _ => .cycle (fun present => absent (any_id_iff.2 present)) waits
  | case4 path listed id rest absent fresh unknown ih =>
    exact fun depth enough =>
      .unknown (fun present => absent (any_id_iff.2 present)) fresh unknown (ih depth enough)
  | case5 path listed id rest absent fresh node found ihBelow ihRest =>
    intro depth enough
    have missing : id ∉ listed.map (·.id) := fun present => absent (any_id_iff.2 present)
    have fewer := length_filter_lt found fresh
    obtain ⟨below, rfl⟩ : ∃ below, depth = below + 1 := ⟨depth - 1, by omega⟩
    have descends := ihBelow below (by omega)
    cases inner : visit nodes (id :: path) listed node.producerIds with
    | error error =>
      rw [inner] at descends
      exact .failed missing fresh found descends
    | ok before =>
      rw [inner] at descends
      exact .node missing fresh found descends (ihRest before (below + 1) enough)

theorem visit_of_unknown {nodes : List Node} {path : List String} {listed : List Node} {id : String}
    {rest : List String} (missing : id ∉ listed.map (·.id)) (fresh : id ∉ path)
    (absent : node? nodes id = none) :
    visit nodes path listed (id :: rest) = visit nodes path listed rest := by
  rw [visit, if_neg fun present => missing (any_id_iff.1 present), dif_neg fresh]
  split
  · rfl
  next found =>
    rw [absent] at found
    cases found

theorem visit_of_known {nodes : List Node} {path : List String} {listed : List Node} {id : String}
    {rest : List String} {node : Node} (missing : id ∉ listed.map (·.id)) (fresh : id ∉ path)
    (found : node? nodes id = some node) :
    visit nodes path listed (id :: rest) =
      (visit nodes (id :: path) listed node.producerIds).bind fun before =>
        visit nodes path (before ++ [node]) rest := by
  rw [visit, if_neg fun present => missing (any_id_iff.1 present), dif_neg fresh]
  split
  next absent =>
    rw [absent] at found
    cases found
  next other same =>
    cases found.symm.trans same
    rfl

/-- What the rules derive is what the search returns. -/
theorem visit_of_search {nodes : List Node} {depth : Nat} {path : List String}
    {listed : List Node} {ids : List String} {result : Except GraphError (List Node)}
    (search : Search nodes depth path listed ids result) :
    visit nodes path listed ids = result := by
  induction search with
  | finished => rw [visit]
  | again present _ ih => rw [visit, if_pos (any_id_iff.2 present), ih]
  | cycle missing waits =>
    rw [visit, if_neg fun present => missing (any_id_iff.1 present), dif_pos waits]
  | unknown missing fresh absent _ ih => rw [visit_of_unknown missing fresh absent, ih]
  | failed missing fresh found _ ih =>
    rw [visit_of_known missing fresh found, ih]
    rfl
  | node missing fresh found _ _ ihBelow ihRest =>
    rw [visit_of_known missing fresh found, ihBelow]
    exact ihRest

/-! ## Longer searches and larger graphs -/

theorem Search.append {nodes : List Node} {depth : Nat} {path : List String}
    {listed before : List Node} {ids rest : List String}
    {result : Except GraphError (List Node)}
    (first : Search nodes depth path listed ids (.ok before))
    (next : Search nodes depth path before rest result) :
    Search nodes depth path listed (ids ++ rest) result := by
  generalize ends : Except.ok before = reached at first
  induction first with
  | finished =>
    cases ends
    exact next
  | again present _ ih => exact .again present (ih next ends)
  | cycle => cases ends
  | unknown missing fresh absent _ ih => exact .unknown missing fresh absent (ih next ends)
  | failed => cases ends
  | node missing fresh found below _ _ ihRest =>
    exact .node missing fresh found below (ihRest next ends)

theorem search_of_listed {nodes : List Node} {depth : Nat} {path : List String}
    {listed : List Node} {ids : List String} (known : ∀ id ∈ ids, id ∈ listed.map (·.id)) :
    Search nodes depth path listed ids (.ok listed) := by
  induction ids with
  | nil => exact .finished
  | cons id rest ih =>
    exact .again (known id List.mem_cons_self)
      (ih fun other member => known other (List.mem_cons_of_mem _ member))

theorem node?_append_of_eq_some {nodes : List Node} {id : String} {node : Node}
    (found : node? nodes id = some node) (more : List Node) :
    node? (nodes ++ more) id = some node := by
  rw [node?] at found
  rw [node?, List.find?_append, found, Option.some_or]

/-- A search in a graph whose inputs resolve never meets a node that is added to the graph. -/
theorem Search.extend {nodes : List Node} (resolved : Resolved nodes) {depth : Nat}
    {path : List String} {listed : List Node} {ids : List String}
    {result : Except GraphError (List Node)}
    (search : Search nodes depth path listed ids result)
    (known : ∀ id ∈ ids, id ∈ nodes.map (·.id)) (more : List Node) :
    Search (nodes ++ more) depth path listed ids result := by
  induction search with
  | finished => exact .finished
  | again present _ ih =>
    exact .again present (ih fun other member => known other (List.mem_cons_of_mem _ member))
  | cycle missing waits => exact .cycle missing waits
  | unknown _ _ absent _ _ =>
    -- only here a larger graph could matter, and no name that is met is unknown
    exact absurd (known _ List.mem_cons_self) (node?_eq_none_iff.1 absent)
  | failed missing fresh found _ ih =>
    have member := (mem_of_node? found).1
    exact .failed missing fresh (node?_append_of_eq_some found more)
      (ih fun _ consumed => resolved.known member consumed)
  | node missing fresh found _ _ ihBelow ihRest =>
    have member := (mem_of_node? found).1
    exact .node missing fresh (node?_append_of_eq_some found more)
      (ihBelow fun _ consumed => resolved.known member consumed)
      (ihRest fun other inRest => known other (List.mem_cons_of_mem _ inRest))

end Graph

end PipelineManifest
