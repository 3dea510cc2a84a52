import PipelineManifest.Proofs.Graph.Grouping

/-!
# Nodes that have nothing to do with each other

Two nodes are unrelated if neither reaches the other. An order does not always leave them as they
are listed: what a node requires is brought forward with it, and the producers of one node are
listed by their names. Which of two unrelated nodes stands first is said by `Leads`, which follows
the names that are looked for and knows nothing of what is listed already.

Results:
1. `visit_leads`: a search puts the one of two unrelated nodes first that leads.
2. `position_lt_of_unforestalled`: nodes stay as they are listed unless something that requires the
   later one is listed ahead of the earlier one.
3. `unrelated_kept_iff`: when unrelated nodes stay as they are listed.
4. `unrelated_swapped`: two nodes that do not, though they could.
-/

namespace PipelineManifest

namespace Graph

/-! ## Definitions -/

/-- Neither of two nodes reaches the other. -/
def Unrelated (nodes : List Node) (first second : String) : Prop :=
  first ≠ second ∧ ¬ Reaches nodes first second ∧ ¬ Reaches nodes second first

/-- `Leads nodes first second ids`: of the names in `ids`, the earliest that requires one of the two
nodes requires the first one alone, or it requires both and the first one leads among its
producers. -/
inductive Leads (nodes : List Node) (first second : String) : List String → Prop
  | alone {id : String} {rest : List String} :
      Requires nodes id first → ¬ Requires nodes id second → Leads nodes first second (id :: rest)
  | within {id : String} {rest : List String} {node : Node} :
      Requires nodes id first → Requires nodes id second → node? nodes id = some node →
      Leads nodes first second node.producerIds → Leads nodes first second (id :: rest)
  | later {id : String} {rest : List String} :
      ¬ Requires nodes id first → ¬ Requires nodes id second → Leads nodes first second rest →
      Leads nodes first second (id :: rest)

/-! ## Which node leads -/

section

variable {nodes : List Node} {first second id : String} {rest : List String}

theorem leads_cons_of_neither (without : ¬ Requires nodes id first)
    (without' : ¬ Requires nodes id second) :
    Leads nodes first second (id :: rest) ↔ Leads nodes first second rest := by
  refine ⟨fun leads => ?_, .later without without'⟩
  cases leads with
  | alone requires => exact absurd requires without
  | within requires => exact absurd requires without
  | later _ _ leads => exact leads

theorem leads_cons_of_both {node : Node} (requires : Requires nodes id first)
    (requires' : Requires nodes id second) (found : node? nodes id = some node) :
    Leads nodes first second (id :: rest) ↔ Leads nodes first second node.producerIds := by
  refine ⟨fun leads => ?_, .within requires requires' found⟩
  cases leads with
  | alone _ without => exact absurd requires' without
  | within _ _ same leads =>
    cases found.symm.trans same
    exact leads
  | later without => exact absurd requires without

theorem not_leads_cons_of_second (without : ¬ Requires nodes id first)
    (requires : Requires nodes id second) : ¬ Leads nodes first second (id :: rest) := by
  intro leads
  cases leads with
  | alone requires' => exact without requires'
  | within requires' => exact without requires'
  | later _ without' => exact without' requires

/-- What requires two unrelated nodes is neither of them, so it reaches both. -/
theorem Unrelated.reaches_of_requires (unrelated : Unrelated nodes first second)
    (requires : Requires nodes id first) (requires' : Requires nodes id second) :
    Reaches nodes id first ∧ Reaches nodes id second := by
  obtain ⟨apart, unreached, unreached'⟩ := unrelated
  rcases requires with rfl | reaches
  · rcases requires' with rfl | reaches'
    · exact absurd rfl apart
    · exact absurd reaches' unreached
  · rcases requires' with rfl | reaches'
    · exact absurd reaches unreached'
    · exact ⟨reaches, reaches'⟩

end

/-- Two nodes that consume nothing have nothing to do with each other. -/
theorem unrelated_of_noProducers {nodes : List Node} (distinct : Distinct nodes)
    {first second : Node} (member : first ∈ nodes) (member' : second ∈ nodes)
    (apart : first.id ≠ second.id) (alone : first.producerIds = [])
    (alone' : second.producerIds = []) : Unrelated nodes first.id second.id := by
  refine ⟨apart, ?_, ?_⟩
  · rw [reaches_iff distinct member, alone]
    simp
  · rw [reaches_iff distinct member', alone']
    simp

/-- A search that comes to two unrelated nodes lists the one first that leads. -/
theorem visit_leads {nodes : List Node} (distinct : Distinct nodes) (resolved : Resolved nodes)
    {first second : String} (unrelated : Unrelated nodes first second) (path : List String)
    (listed : List Node) (ids : List String) :
    Listing nodes path listed → (∀ id ∈ ids, id ∈ nodes.map (·.id)) →
      first ∉ listed.map (·.id) → second ∉ listed.map (·.id) →
      ∀ result, visit nodes path listed ids = .ok result → first ∈ result.map (·.id) →
        second ∈ result.map (·.id) →
          (position result first < position result second ↔ Leads nodes first second ids) := by
  fun_induction visit nodes path listed ids with
  | case1 path listed =>
    intro _ _ missing _ result ended present
    cases ended
    exact absurd present missing
  | case2 path listed id rest listedAlready ih =>
    intro listing known missing missing' result ended present present'
    -- what is listed already does not require a node that is not
    have isListed := any_id_iff.1 listedAlready
    rw [leads_cons_of_neither
      (fun requires => missing (listing.mem_of_requires distinct isListed requires))
      (fun requires => missing' (listing.mem_of_requires distinct isListed requires))]
    exact ih listing (List.forall_mem_cons.1 known).2 missing missing' result ended present present'
  | case3 path listed id rest absent waits =>
    intro _ _ _ _ result ended
    cases ended
  | case4 path listed id rest absent fresh unknown ih =>
    intro _ known
    exact absurd (known id List.mem_cons_self) (node?_eq_none_iff.1 unknown)
  | case5 path listed id rest absent fresh node found ihBelow ihRest =>
    intro listing known missing missing' result ended present present'
    obtain ⟨before, inner, outer⟩ := Sequence.bind_eq_ok_iff.1 ended
    obtain ⟨member, rfl⟩ := mem_of_node? found
    have unlisted : node.id ∉ listed.map (·.id) := fun present => absent (any_id_iff.2 present)
    have knownRest := (List.forall_mem_cons.1 known).2
    obtain ⟨group, grows⟩ := group_of_visit distinct resolved listing member unlisted fresh inner
    obtain ⟨reached, grouped⟩ := grows first missing
    obtain ⟨reached', grouped'⟩ := grows second missing'
    obtain ⟨_, begins, _⟩ := visit_listing resolved _ _ _ group knownRest result outer
    by_cases requires : Requires nodes node.id first
    · by_cases requires' : Requires nodes node.id second
      · -- the producers of the node bring both
        obtain ⟨reaches, reaches'⟩ := unrelated.reaches_of_requires requires requires'
        have isBelow := reached.2 reaches
        have isBelow' := reached'.2 reaches'
        have begins' := (List.prefix_append before [node]).trans begins
        rw [leads_cons_of_both requires requires' found, position_of_prefix begins' isBelow,
          position_of_prefix begins' isBelow']
        exact ihBelow (listing.descend unlisted) (fun _ consumed => resolved.known member consumed)
          missing missing' before inner isBelow isBelow'
      · refine iff_of_true ?_ (.alone requires requires')
        exact position_lt_of_prefix begins (grouped.2 requires)
          fun inGroup => requires' (grouped'.1 inGroup)
    · by_cases requires' : Requires nodes node.id second
      · refine iff_of_false (Nat.lt_asymm ?_) (not_leads_cons_of_second requires requires')
        exact position_lt_of_prefix begins (grouped'.2 requires')
          fun inGroup => requires (grouped.1 inGroup)
      · rw [leads_cons_of_neither requires requires']
        exact ihRest before group knownRest (fun inGroup => requires (grouped.1 inGroup))
          (fun inGroup => requires' (grouped'.1 inGroup)) result outer present present'

/-! ## Nodes that stay as they are listed -/

/-- A node stays ahead of a later one that it does not reach, if nothing that stands ahead of it
does. -/
theorem position_lt_of_unforestalled {nodes sorted : List Node} (ordered : order nodes = .ok sorted)
    {first second : Node} (member : first ∈ nodes)
    (listed : position nodes first.id < position nodes second.id)
    (unreached : ¬ Reaches nodes first.id second.id)
    (unforestalled : ∀ other ∈ nodes, Reaches nodes other.id second.id →
      position nodes first.id < position nodes other.id) :
    position sorted first.id < position sorted second.id := by
  obtain ⟨distinct, _, _⟩ := order_eq_ok_iff.1 ordered
  obtain ⟨front, back, split⟩ := List.append_of_mem member
  have upTo : nodes = (front ++ [first]) ++ back := by rw [split, List.append_assoc]; rfl
  -- what stands in front of the first node stands at a lower position
  have lower : ∀ other ∈ front, position nodes other.id < position nodes first.id := by
    intro other inFront
    exact position_lt_of_prefix ⟨first :: back, split.symm⟩ (List.mem_map_of_mem inFront)
      (distinct.notMem_ahead split)
  obtain ⟨before, begins, required⟩ := exists_prefix_of_order ordered upTo
  refine position_lt_of_prefix begins ((required first.id).2 ⟨first, by simp, .inl rfl⟩) ?_
  intro inBefore
  obtain ⟨other, inFront, requires⟩ := (required second.id).1 inBefore
  rcases List.mem_append.1 inFront with ahead | last
  · rcases requires with same | reaches
    · exact Nat.lt_asymm listed (same ▸ lower other ahead)
    · refine Nat.lt_asymm (unforestalled other ?_ reaches) (lower other ahead)
      exact split ▸ List.mem_append_left _ ahead
  · cases List.mem_singleton.1 last
    rcases requires with same | reaches
    · exact Nat.lt_irrefl _ (same ▸ listed)
    · exact unreached reaches

/-- Unrelated nodes stay as they are listed if and only if the one that is listed first leads. They
do if everything that reaches the second one is listed behind the first one. -/
theorem unrelated_kept_iff {nodes sorted : List Node} (ordered : order nodes = .ok sorted)
    {first second : Node} (member : first ∈ nodes) (member' : second ∈ nodes)
    (unrelated : Unrelated nodes first.id second.id)
    (listed : position nodes first.id < position nodes second.id) :
    (position sorted first.id < position sorted second.id ↔
      Leads nodes first.id second.id (nodes.map (·.id))) ∧
    ((∀ other ∈ nodes, Reaches nodes other.id second.id →
        position nodes first.id < position nodes other.id) →
      position sorted first.id < position sorted second.id) := by
  obtain ⟨distinct, resolved, ended⟩ := order_eq_ok_iff.1 ordered
  have inSorted : ∀ {node}, node ∈ nodes → node.id ∈ sorted.map (·.id) := fun inNodes =>
    List.mem_map_of_mem ((perm_of_order ordered).1.mem_iff.2 inNodes)
  refine ⟨?_, position_lt_of_unforestalled ordered member listed unrelated.2.1⟩
  exact visit_leads distinct resolved unrelated [] [] _ (listing_nil nodes [])
    (fun _ known => known) List.not_mem_nil List.not_mem_nil sorted ended (inSorted member)
    (inSorted member')

def schema : Node := .declare (.ofType "Schema" .other) "schema" "Schema"

def statistics : Node := .declare (.ofType "Statistics" .other) "statistics" "Statistics"

/-- A report on the schema and the statistics of examples. -/
def report : Node :=
  Node.ofType "Report" .other
    |>.consume "found" ⟨"Schema", "schema", "Schema"⟩
    |>.consume "counted" ⟨"Statistics", "statistics", "Statistics"⟩

theorem unrelated_kept_iff_report :
    ∃ sorted, order [report, schema, statistics] = .ok sorted ∧
      Unrelated [report, schema, statistics] schema.id statistics.id ∧
      position [report, schema, statistics] schema.id <
        position [report, schema, statistics] statistics.id ∧
      Reaches [report, schema, statistics] report.id statistics.id ∧
      position sorted schema.id < position sorted statistics.id := by
  have ordered : order [report, schema, statistics] = .ok [schema, statistics, report] := by
    rw [order_eq_visit (by decide +kernel) (by decide +kernel)]
    cbv
  obtain ⟨distinct, -, -⟩ := order_eq_ok_iff.1 ordered
  have member : schema ∈ [report, schema, statistics] := by simp
  have member' : statistics ∈ [report, schema, statistics] := by simp
  have unrelated := unrelated_of_noProducers distinct member member' (by decide)
    (by decide +kernel) (by decide +kernel)
  have listed : position [report, schema, statistics] schema.id <
      position [report, schema, statistics] statistics.id := by decide +kernel
  have forward : Reaches [report, schema, statistics] report.id schema.id :=
    .single (needs_of_mem_producerIds (by simp) (by decide +kernel))
  have forward' : Reaches [report, schema, statistics] report.id statistics.id :=
    .single (needs_of_mem_producerIds (by simp) (by decide +kernel))
  obtain ⟨kept, -⟩ := unrelated_kept_iff ordered member member' unrelated listed
  -- both are brought forward by the report, among whose producers the schema comes first
  have first : report.producerIds = ["Schema", "Statistics"] := by decide +kernel
  have leads : Leads [report, schema, statistics] schema.id statistics.id report.producerIds := by
    rw [first]
    exact .alone (.inl rfl) fun requires => requires.elim unrelated.1.symm unrelated.2.1
  exact ⟨_, ordered, unrelated, listed, forward',
    kept.2 (.within (.inr forward) (.inr forward') rfl leads)⟩

/-- The report brings both of its producers forward, in the order of their names and not in that of
the list. The nodes could stay as they are listed: statistics, schema, report. -/
theorem unrelated_swapped :
    ∃ sorted, order [report, statistics, schema] = .ok sorted ∧
      Unrelated [report, statistics, schema] statistics.id schema.id ∧
      position [report, statistics, schema] statistics.id <
        position [report, statistics, schema] schema.id ∧
      position sorted schema.id < position sorted statistics.id ∧
      ∃ other, other.Perm [report, statistics, schema] ∧ ProducersFirst other ∧
        position other statistics.id < position other schema.id := by
  have ordered : order [report, statistics, schema] = .ok [schema, statistics, report] := by
    rw [order_eq_visit (by decide +kernel) (by decide +kernel)]
    cbv
  have other : order [statistics, schema, report] = .ok [statistics, schema, report] := by
    rw [order_eq_visit (by decide +kernel) (by decide +kernel)]
    cbv
  obtain ⟨distinct, -, -⟩ := order_eq_ok_iff.1 ordered
  refine ⟨_, ordered, ?_, by decide +kernel, by decide +kernel, _, ?_, (perm_of_order other).2.2,
    by decide +kernel⟩
  · exact unrelated_of_noProducers distinct (by simp) (by simp) (by decide) (by decide +kernel)
      (by decide +kernel)
  · exact (List.perm_append_comm : ([statistics, schema] ++ [report]).Perm _)

end Graph

end PipelineManifest
