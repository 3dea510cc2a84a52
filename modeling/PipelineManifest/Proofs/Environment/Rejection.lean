import PipelineManifest.Proofs.Compilation.Environment

/-!
# Variables that cannot be set

A guard is to be applied as a whole or not at all. A variable that cannot be set ends the walk
through the list before there is a guard, so nothing sets back the variables in front of it.

Results, for whatever runs in an environment:
1. `apply_of_stops`, `load_of_stops`: the variables in front of the first one that cannot be set
   keep their new values.
2. `allOrNothing_apply_iff`, `allOrNothing_load_iff`: a call is all or nothing exactly if these
   variables had their new values before.
3. `allOrNothing_iff_harmless`: applying a guard and loading a function are so for the same lists.
4. `nameless_leaks`: two variables, the second of which cannot be set.
-/

namespace PipelineManifest

open HasEnvironment

/-! ## Definitions -/

/-- The first entry of a list that cannot be set, and the entries in front of it. -/
structure Variable.Stops (entries earlier : List Variable) (rejected : Variable) : Prop where
  valid : ∀ entry ∈ earlier, entry.isValid
  invalid : ¬ rejected.isValid
  split : ∃ later, entries = earlier ++ rejected :: later

/-- If a variable cannot be set, those in front of it have the values already that the list gives
them. -/
def Environment.Harmless (before : Environment) (entries : List Variable) : Prop :=
  ∀ earlier rejected, Variable.Stops entries earlier rejected →
    ∀ name ∈ earlier.map (·.name),
      Dictionary.lastValue? (earlier.map (·.binding)) name = before.get? name

/-- A call either sets all the variables of a list, and gives something that sets them back at any
later time, or fails and changes no variable. -/
structure AllOrNothing {σ : Type} [HasEnvironment σ] {ε α : Type} (undo : α → σ → σ)
    (entries : List Variable) (state : σ) (outcome : σ × Except ε α) : Prop where
  applied : ∀ made, outcome.2 = .ok made →
    environment outcome.1 = (environment state).overlay entries
  undone : ∀ made, outcome.2 = .ok made → ∀ later name,
    (environment (undo made later)).get? name =
      if name ∈ entries.map (·.name) then (environment state).get? name
      else (environment later).get? name
  unchanged : ∀ error, outcome.2 = .error error → environment outcome.1 = environment state

/-! ## Where a walk stops -/

namespace Variable

theorem valid_or_stops (entries : List Variable) :
    (∀ entry ∈ entries, entry.isValid) ∨ ∃ earlier rejected, Stops entries earlier rejected := by
  induction entries with
  | nil => exact .inl fun _ impossible => nomatch impossible
  | cons entry rest ih =>
    by_cases valid : entry.isValid
    · rcases ih with whole | ⟨earlier, rejected, stops⟩
      · exact .inl (List.forall_mem_cons.2 ⟨valid, whole⟩)
      · obtain ⟨later, rfl⟩ := stops.split
        refine .inr ⟨entry :: earlier, rejected, ?_, stops.invalid, later, rfl⟩
        exact List.forall_mem_cons.2 ⟨valid, stops.valid⟩
    · exact .inr ⟨[], entry, ⟨fun _ impossible => (nomatch impossible), valid, rest, rfl⟩⟩

end Variable

theorem Environment.overlay_eq_self_iff {before : Environment} {entries : List Variable} :
    before.overlay entries = before ↔
      ∀ name ∈ entries.map (·.name),
        Dictionary.lastValue? (entries.map (·.binding)) name = before.get? name := by
  constructor
  · intro same name listed
    have value : (Dictionary.lastValue? (entries.map (·.binding)) name).or (before.get? name) =
        before.get? name := congrArg (·.get? name) same
    obtain ⟨text, last⟩ := Option.isSome_iff_exists.1 (isSome_lastValue?_iff.2 listed)
    rwa [last] at value ⊢
  · intro same
    refine ext_get? fun name => ?_
    by_cases listed : name ∈ entries.map (·.name)
    · rw [get?_overlay, same name listed, Option.or_self]
    · exact get?_overlay_of_notMem listed

section

variable {σ : Type} [HasEnvironment σ]

namespace AllOrNothing

variable {ε α : Type} {undo : α → σ → σ} {entries : List Variable} {state : σ}
  {outcome : σ × Except ε α}

theorem of_error {error : ε} (failed : outcome.2 = .error error)
    (same : environment outcome.1 = environment state) :
    AllOrNothing undo entries state outcome where
  applied := fun _ succeeded => nomatch failed.symm.trans succeeded
  undone := fun _ succeeded => nomatch failed.symm.trans succeeded
  unchanged := fun _ _ => same

theorem of_guard {made : α} (succeeded : outcome.2 = .ok made) {guard : Guard}
    (undoes : undo made = guard.restore) (remembers : guard.Remembers entries (environment state))
    (changed : environment outcome.1 = (environment state).overlay entries) :
    AllOrNothing undo entries state outcome where
  applied := fun _ _ => changed
  undone := by
    intro other same later name
    obtain rfl : made = other := Except.ok.inj (succeeded.symm.trans same)
    rw [undoes]
    exact Guard.get?_restore remembers later name
  unchanged := fun _ failed => nomatch succeeded.symm.trans failed

end AllOrNothing

/-- Whether a call is all or nothing depends on the lists that it stops in. -/
theorem allOrNothing_iff_of_stops {ε α : Type} {undo : α → σ → σ} {entries : List Variable}
    {state : σ} {outcome : σ × Except ε α}
    (whole : (∀ entry ∈ entries, entry.isValid) → AllOrNothing undo entries state outcome)
    (broken : ∀ earlier rejected, Variable.Stops entries earlier rejected →
      (∃ error, outcome.2 = .error error) ∧
        environment outcome.1 = (environment state).overlay earlier) :
    AllOrNothing undo entries state outcome ↔ (environment state).Harmless entries := by
  constructor
  · intro either earlier rejected stops
    obtain ⟨⟨error, failed⟩, left⟩ := broken earlier rejected stops
    have unchanged := either.unchanged error failed
    exact Environment.overlay_eq_self_iff.1 (left.symm.trans unchanged)
  · intro harmless
    rcases Variable.valid_or_stops entries with valid | ⟨earlier, rejected, stops⟩
    · exact whole valid
    · obtain ⟨⟨error, failed⟩, left⟩ := broken earlier rejected stops
      have same := Environment.overlay_eq_self_iff.2 (harmless earlier rejected stops)
      exact .of_error failed (left.trans same)

/-! ## Guards -/

namespace Guard

theorem applyFrom_append {entries : List Variable} (rest : List Variable) {guard' : Guard} :
    ∀ (guard : Guard) (state : σ), (guard.applyFrom entries state).2 = .ok guard' →
      guard.applyFrom (entries ++ rest) state =
        guard'.applyFrom rest (guard.applyFrom entries state).1 := by
  induction entries with
  | nil =>
    intro guard state applied
    obtain rfl : guard = guard' := Except.ok.inj applied
    rfl
  | cons entry others ih =>
    intro guard state applied
    rw [applyFrom] at applied
    rw [List.cons_append, applyFrom, applyFrom]
    by_cases valid : entry.isValid
    · rw [if_pos valid] at applied
      rw [if_pos valid, if_pos valid]
      exact ih _ _ applied
    · rw [if_neg valid] at applied
      cases applied

/-- What a walk leaves that stops at a variable is what it leaves of the entries in front of it. -/
theorem apply_of_stops {entries earlier : List Variable} {rejected : Variable}
    (stops : Variable.Stops entries earlier rejected) (state : σ) :
    (apply entries state).2 = .error rejected ∧
      environment (apply entries state).1 = (environment state).overlay earlier := by
  obtain ⟨guard, applied, -, changed⟩ := apply_spec stops.valid state
  obtain ⟨later, rfl⟩ := stops.split
  have walk : apply (earlier ++ rejected :: later) state =
      ((apply earlier state).1, .error rejected) := by
    rw [apply, applyFrom_append _ _ _ applied, applyFrom, if_neg stops.invalid]
    rfl
  rw [walk]
  exact ⟨rfl, changed⟩

theorem allOrNothing_apply_of_valid {entries : List Variable}
    (valid : ∀ entry ∈ entries, entry.isValid) (state : σ) :
    AllOrNothing restore entries state (apply entries state) := by
  obtain ⟨guard, applied, remembers, changed⟩ := apply_spec valid state
  exact .of_guard applied rfl remembers changed

theorem allOrNothing_apply_iff (entries : List Variable) (state : σ) :
    AllOrNothing restore entries state (apply entries state) ↔
      (environment state).Harmless entries := by
  refine allOrNothing_iff_of_stops (fun valid => allOrNothing_apply_of_valid valid state) ?_
  intro earlier rejected stops
  obtain ⟨failed, left⟩ := apply_of_stops stops state
  exact ⟨⟨rejected, failed⟩, left⟩

end Guard

/-! ## Loading -/

namespace Pipeline

theorem splits_of_dot {reference : String} (dotted : '.' ∈ reference.toList) :
    ∃ path name, splitReference reference = .ok (path, name) := by
  cases split : splitReference reference with
  | error error => exact absurd dotted (splitReference_eq_error_iff.1 split).1
  | ok parts => exact ⟨parts.1, parts.2, rfl⟩

theorem load_of_stops (registry : Registry) {reference : String} (dotted : '.' ∈ reference.toList)
    {entries earlier : List Variable} {rejected : Variable}
    (stops : Variable.Stops entries earlier rejected) (state : σ) :
    (load registry reference entries state).2 = .error (.variableRejected rejected) ∧
      environment (load registry reference entries state).1 =
        (environment state).overlay earlier := by
  obtain ⟨path, name, split⟩ := splits_of_dot dotted
  obtain ⟨failed, left⟩ := Guard.apply_of_stops stops state
  have loaded : load registry reference entries state =
      ((Guard.apply entries state).1, .error (.variableRejected rejected)) := by
    rw [load, split, ← Prod.eta (Guard.apply entries state), failed]
  rw [loaded]
  exact ⟨rfl, left⟩

/-- If the function is not found, the variables are set back at once. -/
theorem allOrNothing_load_of_valid (registry : Registry) {reference : String}
    (dotted : '.' ∈ reference.toList) {entries : List Variable}
    (valid : ∀ entry ∈ entries, entry.isValid) (state : σ) :
    AllOrNothing unload entries state (load registry reference entries state) := by
  obtain ⟨path, name, split⟩ := splits_of_dot dotted
  obtain ⟨guard, applied, remembers, changed⟩ := Guard.apply_spec valid state
  rw [load_of_guard registry split applied]
  cases registry.resolve path name with
  | error error => exact .of_error rfl (Guard.environment_restore remembers changed)
  | ok function => exact .of_guard rfl rfl remembers changed

theorem allOrNothing_load_iff (registry : Registry) (reference : String) (entries : List Variable)
    (state : σ) :
    AllOrNothing unload entries state (load registry reference entries state) ↔
      '.' ∉ reference.toList ∨ (environment state).Harmless entries := by
  by_cases dotted : '.' ∈ reference.toList
  · refine (allOrNothing_iff_of_stops ?_ ?_).trans (or_iff_right (Classical.not_not.2 dotted)).symm
    · exact fun valid => allOrNothing_load_of_valid registry dotted valid state
    · intro earlier rejected stops
      obtain ⟨failed, left⟩ := load_of_stops registry dotted stops state
      exact ⟨⟨_, failed⟩, left⟩
  · rw [load_of_noDot registry dotted]
    exact ⟨fun _ => .inl dotted, fun _ => .of_error rfl rfl⟩

end Pipeline

/-- Setting variables, with or without looking up a function, is all or nothing unless a variable
cannot be set and one in front of it had another value before. Without a dot in the reference
nothing is set. -/
theorem allOrNothing_iff_harmless (entries : List Variable) (state : σ) :
    (AllOrNothing Guard.restore entries state (Guard.apply entries state) ↔
      (environment state).Harmless entries) ∧
    ∀ registry reference,
      AllOrNothing Pipeline.unload entries state
          (Pipeline.load registry reference entries state) ↔
        '.' ∉ reference.toList ∨ (environment state).Harmless entries :=
  ⟨Guard.allOrNothing_apply_iff entries state, fun registry reference =>
    Pipeline.allOrNothing_load_iff registry reference entries state⟩

end

/-- Two variables, the second of which has no name. -/
def nameless : List Variable := [⟨"A", "leaks"⟩, ⟨"", "x"⟩]

theorem stops_nameless : Variable.Stops nameless [⟨"A", "leaks"⟩] ⟨"", "x"⟩ where
  valid := by decide +kernel
  invalid := by decide +kernel
  split := ⟨[], rfl⟩

/-- The first variable stays set, although applying the guard and loading a function fail. -/
theorem nameless_leaks :
    (Guard.apply nameless Environment.empty).2 = .error ⟨"", "x"⟩ ∧
      (Guard.apply nameless Environment.empty).1.get? "A" = some "leaks" ∧
      ¬ AllOrNothing Guard.restore nameless Environment.empty
        (Guard.apply nameless Environment.empty) ∧
      ¬ AllOrNothing Pipeline.unload nameless Environment.empty
        (Pipeline.load .empty "taxi.nodes" nameless Environment.empty) := by
  obtain ⟨failed, left⟩ := Guard.apply_of_stops stops_nameless Environment.empty
  have harmful : ¬ Environment.empty.Harmless nameless := by
    intro harmless
    have same := harmless _ _ stops_nameless "A" List.mem_cons_self
    exact absurd same (by decide +kernel)
  refine ⟨failed, congrArg (·.get? "A") left, ?_, ?_⟩
  · exact fun whole => harmful ((Guard.allOrNothing_apply_iff _ _).1 whole)
  · intro whole
    rcases (Pipeline.allOrNothing_load_iff _ _ _ _).1 whole with noDot | harmless
    · exact absurd noDot (by decide +kernel)
    · exact harmful harmless

end PipelineManifest
