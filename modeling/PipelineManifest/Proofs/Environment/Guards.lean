import PipelineManifest.Dictionary
import PipelineManifest.Environment

/-!
# Guards of environment variables

A guard sets the variables of a list and later sets them back. What it sets is an overlay
(`Environment.overlay`), and what it remembers is what was there before (`Guard.Remembers`).

Results, for whatever runs in an environment:
1. `apply_spec`: a guard of valid variables can be applied, and the environment is then under their
   overlay.
2. `get?_restore`, `environment_restore`: setting back touches the variables of the guard and no
   other one, so right after applying it leaves the environment as it was.
-/

namespace PipelineManifest

open HasEnvironment

/-! ## Overlays -/

/-- The name of a variable with the value to set. -/
def Variable.binding (entry : Variable) : String × String := (entry.name, entry.value)

namespace Environment

open Dictionary (lastValue?)

theorem ext_get? {first second : Environment}
    (same : ∀ name, first.get? name = second.get? name) : first = second := by
  cases first
  cases second
  exact congrArg Environment.mk (funext same)

/-- An environment under the variables of a list, each with its last value. -/
def overlay (environment : Environment) (entries : List Variable) : Environment :=
  ⟨fun name => (lastValue? (entries.map (·.binding)) name).or (environment.get? name)⟩

theorem get?_overlay (environment : Environment) (entries : List Variable) (name : String) :
    (environment.overlay entries).get? name =
      (lastValue? (entries.map (·.binding)) name).or (environment.get? name) := rfl

/-- A variable has a last value if it is listed. -/
theorem isSome_lastValue?_iff {entries : List Variable} {name : String} :
    (lastValue? (entries.map (·.binding)) name).isSome = true ↔ name ∈ entries.map (·.name) := by
  rw [Dictionary.isSome_lastValue?_iff, List.map_map]
  rfl

theorem overlay_concat (environment : Environment) (entries : List Variable) (entry : Variable) :
    environment.overlay (entries ++ [entry]) =
      (environment.overlay entries).put entry.name (some entry.value) := by
  refine ext_get? fun name => ?_
  rw [get?_put, get?_overlay, get?_overlay, List.map_append, List.map_singleton,
    Dictionary.lastValue?_concat, Variable.binding]
  by_cases named : name = entry.name
  · rw [if_pos named.symm, if_pos named, Option.some_or]
  · rw [if_neg fun same => named same.symm, if_neg named]

theorem get?_overlay_of_notMem {environment : Environment} {entries : List Variable} {name : String}
    (untouched : name ∉ entries.map (·.name)) :
    (environment.overlay entries).get? name = environment.get? name := by
  have unset : lastValue? (entries.map (·.binding)) name = none := by
    rw [← Option.not_isSome_iff_eq_none, isSome_lastValue?_iff]
    exact untouched
  rw [get?_overlay, unset, Option.none_or]

/-- Two environments that agree on a variable still do so under one overlay. -/
theorem get?_overlay_congr {first second : Environment} {name : String}
    (same : first.get? name = second.get? name) (entries : List Variable) :
    (first.overlay entries).get? name = (second.overlay entries).get? name := by
  rw [get?_overlay, get?_overlay, same]

end Environment

/-! ## Applying a guard and setting it back -/

namespace Guard

/-- The guard knows the variables of a list and what they were in an environment. -/
structure Remembers (guard : Guard) (entries : List Variable) (before : Environment) : Prop where
  names : ∀ name, name ∈ guard.previous.map (·.1) ↔ name ∈ entries.map (·.name)
  values : ∀ saved ∈ guard.previous, saved.2 = before.get? saved.1

theorem any_name_iff {guard : Guard} {name : String} :
    guard.previous.any (·.1 = name) = true ↔ name ∈ guard.previous.map (·.1) := by
  rw [List.any_eq_true, List.mem_map]
  simp

/-- A variable is remembered as it was before the whole list, not as an earlier entry left it. -/
theorem Remembers.remember {guard : Guard} {entries : List Variable} {before : Environment}
    (remembers : guard.Remembers entries before) (entry : Variable) :
    (guard.remember (before.overlay entries) entry.name).Remembers (entries ++ [entry]) before := by
  unfold Guard.remember
  by_cases known : guard.previous.any (·.1 = entry.name)
  · rw [if_pos known]
    refine ⟨fun name => ?_, remembers.values⟩
    have listed := (remembers.names entry.name).1 (any_name_iff.1 known)
    rw [remembers.names, List.map_append, List.mem_append, List.map_singleton, List.mem_singleton]
    exact ⟨.inl, fun either => either.elim id fun same => same ▸ listed⟩
  · -- the first entry of its name, so the overlay of the earlier ones does not hide the old value
    rw [if_neg known]
    have untouched : entry.name ∉ entries.map (·.name) := fun listed =>
      known (any_name_iff.2 ((remembers.names entry.name).2 listed))
    constructor
    · intro name
      rw [List.map_append, List.mem_append, remembers.names, List.map_append, List.mem_append]
      simp
    · intro saved member
      rcases List.mem_append.1 member with old | new
      · exact remembers.values saved old
      · rw [List.mem_singleton.1 new]
        exact Environment.get?_overlay_of_notMem untouched

variable {σ : Type} [HasEnvironment σ]

theorem applyFrom_spec (before : Environment) (entries : List Variable) :
    ∀ (earlier : List Variable) (guard : Guard) (state : σ),
      (∀ entry ∈ entries, entry.isValid) → guard.Remembers earlier before →
      environment state = before.overlay earlier →
      ∃ guard', (guard.applyFrom entries state).2 = .ok guard' ∧
        guard'.Remembers (earlier ++ entries) before ∧
        environment (guard.applyFrom entries state).1 = before.overlay (earlier ++ entries) := by
  induction entries with
  | nil =>
    intro earlier guard state _ remembers now
    rw [List.append_nil]
    exact ⟨guard, rfl, remembers, now⟩
  | cons entry rest ih =>
    intro earlier guard state valid remembers now
    rw [applyFrom, if_pos (valid entry List.mem_cons_self), ← List.singleton_append,
      ← List.append_assoc]
    refine ih (earlier ++ [entry]) _ _ (fun other member => valid other
      (List.mem_cons_of_mem _ member)) ?_ ?_
    · rw [now]
      exact remembers.remember entry
    · rw [environment_put, now, Environment.overlay_concat]

/-- A list of valid variables can be set. -/
theorem apply_spec {entries : List Variable} (valid : ∀ entry ∈ entries, entry.isValid)
    (state : σ) :
    ∃ guard, (apply entries state).2 = .ok guard ∧
      guard.Remembers entries (environment state) ∧
      environment (apply entries state).1 = (environment state).overlay entries :=
  applyFrom_spec (environment state) entries [] ⟨[]⟩ state valid ⟨by simp, by simp⟩ rfl

theorem get?_foldl_put {before : Environment} (previous : List (String × Option String)) :
    ∀ state : σ, (∀ saved ∈ previous, saved.2 = before.get? saved.1) → ∀ name,
      (environment (previous.foldl (fun state saved => put state saved.1 saved.2) state)).get?
          name =
        if name ∈ previous.map (·.1) then before.get? name else (environment state).get? name := by
  induction previous with
  | nil => intro state _ name; rfl
  | cons saved rest ih =>
    intro state values name
    have ⟨value, others⟩ := List.forall_mem_cons.1 values
    rw [List.foldl_cons, ih _ others, List.map_cons, environment_put, Environment.get?_put]
    by_cases inRest : name ∈ rest.map (·.1)
    · rw [if_pos inRest, if_pos (List.mem_cons_of_mem _ inRest)]
    · rw [if_neg inRest]
      by_cases named : name = saved.1
      · rw [if_pos named, if_pos (named ▸ List.mem_cons_self), value, named]
      · rw [if_neg named, if_neg fun member => (List.mem_cons.1 member).elim named inRest]

/-- Setting back changes the variables of the guard to what they were, and no other one. -/
theorem get?_restore {guard : Guard} {entries : List Variable} {before : Environment}
    (remembers : guard.Remembers entries before) (state : σ) (name : String) :
    (environment (guard.restore state)).get? name =
      if name ∈ entries.map (·.name) then before.get? name else (environment state).get? name := by
  rw [restore, get?_foldl_put guard.previous state remembers.values name]
  simp only [remembers.names]

/-- Setting back right after applying leaves the environment as it was. -/
theorem environment_restore {guard : Guard} {entries : List Variable} {before : Environment}
    (remembers : guard.Remembers entries before) {state : σ}
    (applied : environment state = before.overlay entries) :
    environment (guard.restore state) = before := by
  refine Environment.ext_get? fun name => ?_
  rw [get?_restore remembers]
  by_cases touched : name ∈ entries.map (·.name)
  · rw [if_pos touched]
  · rw [if_neg touched, applied, Environment.get?_overlay_of_notMem touched]

end Guard

end PipelineManifest
