import Mathlib.Data.Finset.Card
import Mathlib.Data.List.Intervals
import Mathlib.Order.Bounds.Defs
import PipelineManifest.Proofs.Graph.Expansion
import PipelineManifest.Proofs.Manifest.TemplateNames

/-!
# Searches for a free name

`freshName` looks through a list of candidates that is long enough. `Probing` is the search without
such a list: it numbers a name with a counter that may go up forever. It ends all the same, with the
name that `freshName` gives, since the numbered forms of a name are all different from each other
and from the name. A search passes a taken name at each step, so there are never more steps than
names that are taken.

Results:
1. `Probing.spec`: a search looks at all numbered forms up to the first that is free.
2. `exists_probing`: a search ends.
3. `le_of_isLeast`: how far the counter goes, by the names that are taken.
4. `find?_candidates`: the first free one is among the candidates.
5. `searches_settle`: what the searches for the names of deployments and of templates come to.
-/

namespace PipelineManifest

/-! ## Definitions -/

/-- A search with a counter that goes up without a bound. Started at `n` it looks at the `names`,
one after the other, and ends at the last of them, the first that is free. -/
inductive Probing (taken : List String) (base : String) : Nat → List String → Prop
  | stop {n : Nat} : numbered base n ∉ taken → Probing taken base n [numbered base n]
  | next {n : Nat} {names : List String} : numbered base n ∈ taken →
      Probing taken base (n + 1) names → Probing taken base n (numbered base n :: names)

/-- The counters from `n` on whose names are free. -/
def freeCounters (taken : List String) (base : String) (n : Nat) : Set Nat :=
  {k | n ≤ k ∧ numbered base k ∉ taken}

/-- `Settles taken base found`: a name that is free is kept, and for a taken one the search for the
first free number ends, with `found`. -/
structure Settles (taken : List String) (base found : String) : Prop where
  free : found ∉ taken
  kept : base ∉ taken → found = base
  least : base ∈ taken →
    ∃ k, IsLeast (freeCounters taken base 2) k ∧ found = numbered base k
  ends : ∃ names, Probing taken base 2 names
  last : base ∈ taken → ∀ names, Probing taken base 2 names → names.getLast? = some found
  /-- The name itself is looked at before its numbered forms are. -/
  short : base ∈ taken → ∀ names, Probing taken base 2 names →
    (base :: names).length ≤ taken.toFinset.card + 1

variable {taken : List String} {base : String}

/-! ## Where a search ends -/

theorem Probing.spec {n : Nat} {names : List String} (probing : Probing taken base n names) :
    ∃ k, IsLeast (freeCounters taken base n) k ∧
      names = (List.Ico n (k + 1)).map (numbered base) := by
  induction probing with
  | @stop n free =>
    refine ⟨n, ⟨⟨le_rfl, free⟩, fun _ counts => counts.1⟩, ?_⟩
    rw [List.Ico.succ_singleton]
    rfl
  | @next n names isTaken _ ih =>
    obtain ⟨k, ⟨⟨above, free⟩, least⟩, rfl⟩ := ih
    -- the counter that is passed is not free, so the least free one from here on is the same
    refine ⟨k, ⟨⟨Nat.le_of_succ_le above, free⟩, ?_⟩, ?_⟩
    · rintro m ⟨start, counts⟩
      rcases start.eq_or_lt with rfl | later
      · exact absurd isTaken counts
      · exact least ⟨later, counts⟩
    · rw [List.Ico.eq_cons (Nat.lt_succ_of_lt above), List.map_cons]

/-- A search ends at the latest where a free name is known. -/
theorem exists_probing_of_free {k : Nat} (free : numbered base k ∉ taken) {n : Nat}
    (below : n ≤ k) : ∃ names, Probing taken base n names := by
  induction below using Nat.decreasingInduction with
  | self => exact ⟨_, .stop free⟩
  | of_succ m _ ih =>
    by_cases isTaken : numbered base m ∈ taken
    · obtain ⟨names, probing⟩ := ih
      exact ⟨_, .next isTaken probing⟩
    · exact ⟨_, .stop isTaken⟩

theorem exists_probing (taken : List String) (base : String) :
    ∃ names, Probing taken base 2 names := by
  obtain ⟨name, candidate, free⟩ := exists_free taken base
  obtain ⟨n, _, rfl⟩ := List.mem_map.1 candidate
  exact exists_probing_of_free free (Nat.le_add_left 2 n)

/-! ## How far a search goes -/

theorem numbered_mem_of_lt {n k m : Nat} (least : IsLeast (freeCounters taken base n) k)
    (start : n ≤ m) (ahead : m < k) : numbered base m ∈ taken := by
  by_contra isFree
  exact Nat.not_le.2 ahead (least.2 ⟨start, isFree⟩)

theorem numbered_ne (base : String) (n : Nat) : numbered base n ≠ base := by
  intro same
  have lengths := congrArg String.length same
  rw [numbered, String.length_append, String.length_append] at lengths
  have hyphen : "-".length = 1 := rfl
  omega

/-- The counter passes numbered forms that are taken, and the name itself is a taken one that it
does not pass. -/
theorem le_of_isLeast {k : Nat} (isTaken : base ∈ taken)
    (least : IsLeast (freeCounters taken base 2) k) : k ≤ taken.toFinset.card + 1 := by
  have different : (base :: (List.Ico 2 k).map (numbered base)).Nodup := by
    refine List.nodup_cons.2 ⟨fun again => ?_, ?_⟩
    · obtain ⟨n, _, same⟩ := List.mem_map.1 again
      exact numbered_ne base n same
    · exact (List.Ico.nodup 2 k).map fun _ _ => numbered_injective
  have passed : base :: (List.Ico 2 k).map (numbered base) ⊆ taken.dedup := by
    refine List.cons_subset.2 ⟨List.mem_dedup.2 isTaken, fun name member => ?_⟩
    obtain ⟨n, between, rfl⟩ := List.mem_map.1 member
    obtain ⟨start, ahead⟩ := List.Ico.mem.1 between
    exact List.mem_dedup.2 (numbered_mem_of_lt least start ahead)
  have bound := (different.subperm passed).length_le
  rw [List.length_cons, List.length_map, List.Ico.length, ← List.card_toFinset] at bound
  omega

/-! ## The candidates -/

theorem find?_candidates {k : Nat} (isTaken : base ∈ taken)
    (least : IsLeast (freeCounters taken base 2) k) :
    (candidates taken base).find? (· ∉ taken) = some (numbered base k) := by
  have near : k ≤ taken.length + 1 := by
    have bound := le_of_isLeast isTaken least
    have fewer := taken.toFinset_card_le
    omega
  obtain ⟨start, isFree⟩ := least.1
  obtain ⟨n, rfl⟩ := Nat.exists_eq_add_of_le' start
  have found : (List.range (taken.length + 1)).find?
      ((fun name => decide (name ∉ taken)) ∘ fun n => numbered base (n + 2)) = some n := by
    refine List.find?_range_eq_some.2 ⟨decide_eq_true isFree, List.mem_range.2 (by omega), ?_⟩
    intro m ahead
    have isTaken : numbered base (m + 2) ∈ taken :=
      numbered_mem_of_lt least (Nat.le_add_left 2 m) (Nat.add_lt_add_right ahead 2)
    simp [isTaken]
  rw [candidates, List.find?_map, found]
  rfl

theorem freshName_of_isLeast {k : Nat} (isTaken : base ∈ taken)
    (least : IsLeast (freeCounters taken base 2) k) : freshName taken base = numbered base k := by
  rw [freshName, if_pos isTaken, find?_candidates isTaken least, Option.getD_some]

/-! ## Names -/

theorem settles_freshName (taken : List String) (base : String) :
    Settles taken base (freshName taken base) where
  free := freshName_notMem taken base
  kept := fun isFree => if_neg isFree
  least := by
    intro isTaken
    obtain ⟨names, probing⟩ := exists_probing taken base
    obtain ⟨k, least, -⟩ := probing.spec
    exact ⟨k, least, freshName_of_isLeast isTaken least⟩
  ends := exists_probing taken base
  last := by
    intro isTaken names probing
    obtain ⟨k, least, rfl⟩ := probing.spec
    rw [List.Ico.succ_top least.1.1, List.map_append, freshName_of_isLeast isTaken least]
    exact List.getLast?_concat
  short := by
    intro isTaken names probing
    obtain ⟨k, least, rfl⟩ := probing.spec
    have bound := le_of_isLeast isTaken least
    rw [List.length_cons, List.length_map, List.Ico.length]
    omega

/-- The template name of a node is searched for among the names that are given out before it. -/
theorem Workflow.allocate_append_cons (before : List Node) (node : Node) (after : List Node)
    (entrypoint : String) :
    ∃ later, later.map (·.1) = after.map (·.id) ∧
      allocate [entrypoint] (before ++ node :: after) = allocate [entrypoint] before ++
        (node.id, PipelineManifest.freshName
          (entrypoint :: (allocate [entrypoint] before).map (·.2)) (templateName node.id)) ::
          later := by
  have reordered : (((allocate [entrypoint] before).map (·.2)).reverse ++ [entrypoint]).Perm
      (entrypoint :: (allocate [entrypoint] before).map (·.2)) :=
    List.perm_append_comm.trans ((List.reverse_perm _).cons entrypoint)
  rw [allocate_append, allocate, freshName_perm reordered]
  exact ⟨_, ids_allocate after _, rfl⟩

/-- Whatever names are taken, the search for a free one settles and never falls back. Among the
names of the nodes of a graph it settles on that of the deployment, and among the entrypoint and the
template names given out before on the template name of a node. -/
theorem searches_settle :
    (∀ (taken : List String) (base : String), Settles taken base (freshName taken base) ∧
      (base ∈ taken →
        (candidates taken base).find? (· ∉ taken) = some (freshName taken base))) ∧
    (∀ (nodes : List Node) (model : Channel) (blessing : Option Channel) (target : String),
      Settles (nodes.map (·.id)) "Pusher" (Graph.deployment nodes model blessing target).id) ∧
    ∀ (before : List Node) (node : Node) (after : List Node) (entrypoint : String), ∃ name,
      Settles (entrypoint :: (Workflow.allocate [entrypoint] before).map (·.2))
        (Workflow.templateName node.id) name ∧
      Workflow.allocate [entrypoint] before ++ [(node.id, name)] <+:
        Workflow.allocate [entrypoint] (before ++ node :: after) ∧
      (node.id ∉ after.map (·.id) →
        (Workflow.templateNames (before ++ node :: after) entrypoint).find? node.id =
          some name) := by
  refine ⟨fun taken base => ⟨settles_freshName taken base, fun isTaken => ?_⟩, ?_, ?_⟩
  · obtain ⟨k, least, named⟩ := (settles_freshName taken base).least isTaken
    rw [find?_candidates isTaken least, named]
  · intro nodes model blessing target
    rw [Graph.deployment_id]
    exact settles_freshName _ _
  · intro before node after entrypoint
    obtain ⟨later, others, given⟩ := Workflow.allocate_append_cons before node after entrypoint
    refine ⟨_, settles_freshName _ _, ?_, fun last => ?_⟩
    · rw [given, List.prefix_append_right_inj]
      exact List.prefix_append [_] later
    · rw [Workflow.templateNames, given]
      exact Dictionary.find?_ofList_append_cons (others ▸ last)

end PipelineManifest
