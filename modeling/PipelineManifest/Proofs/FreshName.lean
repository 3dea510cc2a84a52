import Mathlib.Data.List.Nodup
import Mathlib.Data.List.Perm.Subperm
import PipelineManifest.FreshName

/-!
# Free names

The numbered forms of a name are all different, so one more of them than there are taken names
cannot all be taken. The search among them always finds one, and its fall-back is never used.
-/

namespace PipelineManifest

/-- The digits of a numeral give its number back. -/
theorem ofDigitChars_repr (n : Nat) : Nat.ofDigitChars 10 n.repr.toList 0 = n := by
  rw [Nat.toList_repr, Nat.ofDigitChars_ten_toDigits]

theorem numbered_injective {base : String} {m n : Nat} (same : numbered base m = numbered base n) :
    m = n := by
  have endings : m.repr = n.repr := (String.append_right_inj (base ++ "-")).1 same
  rw [← ofDigitChars_repr m, endings, ofDigitChars_repr]

theorem candidates_nodup (taken : List String) (base : String) :
    (candidates taken base).Nodup := by
  refine List.Nodup.map (fun m n same => ?_) List.nodup_range
  exact Nat.add_right_cancel (numbered_injective same)

/-- One of the candidates is free. -/
theorem exists_free (taken : List String) (base : String) :
    ∃ name ∈ candidates taken base, name ∉ taken := by
  apply Classical.byContradiction
  intro allTaken
  have covered : candidates taken base ⊆ taken := fun name member =>
    Classical.byContradiction fun free => allTaken ⟨name, member, free⟩
  have bound := ((candidates_nodup taken base).subperm covered).length_le
  rw [candidates, List.length_map, List.length_range] at bound
  omega

theorem freshName_notMem (taken : List String) (base : String) : freshName taken base ∉ taken := by
  unfold freshName
  by_cases isTaken : base ∈ taken
  · rw [if_pos isTaken]
    cases search : (candidates taken base).find? (· ∉ taken) with
    | none =>
      obtain ⟨name, member, free⟩ := exists_free taken base
      exact absurd (decide_eq_true free) (List.find?_eq_none.1 search name member)
    | some name =>
      have accepted := List.find?_some search
      exact of_decide_eq_true accepted
  · rw [if_neg isTaken]
    exact isTaken

/-- A name that is taken is only numbered. -/
theorem freshName_eq_or (taken : List String) (base : String) :
    freshName taken base = base ∨ ∃ n, freshName taken base = numbered base n := by
  unfold freshName
  by_cases isTaken : base ∈ taken
  · rw [if_pos isTaken]
    cases search : (candidates taken base).find? (· ∉ taken) with
    | none => exact .inl rfl
    | some name =>
      obtain ⟨n, _, numbers⟩ := List.mem_map.1 (List.mem_of_find?_eq_some search)
      exact .inr ⟨n + 2, numbers.symm⟩
  · exact .inl (if_neg isTaken)

/-- A free name does not depend on the order in which the taken ones are listed. -/
theorem freshName_perm {taken other : List String} (same : taken.Perm other) (base : String) :
    freshName taken base = freshName other base := by
  simp only [freshName, candidates, same.mem_iff, same.length_eq]

end PipelineManifest
