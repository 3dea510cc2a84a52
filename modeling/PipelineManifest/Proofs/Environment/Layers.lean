import Mathlib.Logic.Relation
import PipelineManifest.Proofs.Environment.Guards

/-!
# Guards that are alive together

Guards are applied one after the other, with or without variables in common. One may be dropped if
no younger guard that is alive has a variable of it, so they need not go in the reverse order.

Results:
1. `Stacked.drop`: the guards that stay still remember what is below them when such a guard goes.
2. `environment_eq_layered`: over every run of such steps the environment is that of the beginning
   under the overlays of the guards that are alive.
-/

namespace PipelineManifest

/-! ## Definitions -/

/-- A guard that is alive, and the list that it was applied to. -/
structure Scope where
  entries : List Variable
  guard : Guard

namespace Scope

def names (scope : Scope) : List String :=
  scope.entries.map (·.name)

/-- No variable belongs to both. -/
def Apart (first second : Scope) : Prop :=
  ∀ name ∈ first.names, name ∉ second.names

end Scope

/-- An environment under the variables of guards, the oldest guard first. -/
def layered (environment : Environment) (live : List Scope) : Environment :=
  live.foldl (fun below scope => below.overlay scope.entries) environment

/-- An environment and the guards that are alive in it, the oldest first. -/
structure Session where
  environment : Environment
  live : List Scope

/-- One step: a guard is applied to a list of valid variables, or one is dropped of which no younger
guard has a variable. -/
inductive Session.Step : Session → Session → Prop
  | apply {session : Session} {entries : List Variable} {changed : Environment} {guard : Guard} :
      (∀ entry ∈ entries, entry.isValid) →
      Guard.apply entries session.environment = (changed, .ok guard) →
      Session.Step session ⟨changed, session.live ++ [⟨entries, guard⟩]⟩
  | drop {environment : Environment} {older younger : List Scope} {scope : Scope} :
      (∀ other ∈ younger, scope.Apart other) →
      Session.Step ⟨environment, older ++ scope :: younger⟩
        ⟨scope.guard.restore environment, older ++ younger⟩

/-- Each guard remembers its variables as they were under the older ones. -/
def Stacked : Environment → List Scope → Prop
  | _, [] => True
  | environment, scope :: younger =>
    scope.guard.Remembers scope.entries environment ∧
      Stacked (environment.overlay scope.entries) younger

/-! ## Layers -/

theorem layered_append (environment : Environment) (older younger : List Scope) :
    layered environment (older ++ younger) = layered (layered environment older) younger :=
  List.foldl_append

theorem get?_layered_congr {name : String} (live : List Scope) :
    ∀ {first second : Environment}, first.get? name = second.get? name →
      (layered first live).get? name = (layered second live).get? name := by
  induction live with
  | nil => exact fun same => same
  | cons scope younger ih =>
    intro first second same
    exact ih (Environment.get?_overlay_congr same scope.entries)

theorem get?_layered_of_notMem {name : String} {live : List Scope} :
    ∀ {environment : Environment}, (∀ scope ∈ live, name ∉ scope.names) →
      (layered environment live).get? name = environment.get? name := by
  induction live with
  | nil => exact fun _ => rfl
  | cons scope younger ih =>
    intro environment untouched
    have ⟨here, above⟩ := List.forall_mem_cons.1 untouched
    exact (ih above).trans (Environment.get?_overlay_of_notMem here)

/-! ## What the guards remember -/

theorem stacked_append {older younger : List Scope} :
    ∀ {environment : Environment}, Stacked environment (older ++ younger) ↔
      Stacked environment older ∧ Stacked (layered environment older) younger := by
  induction older with
  | nil => exact ⟨fun stacked => ⟨trivial, stacked⟩, And.right⟩
  | cons scope rest ih =>
    intro environment
    show _ ∧ Stacked _ (rest ++ younger) ↔ (_ ∧ Stacked _ rest) ∧ _
    rw [ih, and_assoc]
    rfl

/-- What the guards remember depends only on the variables that they have. -/
theorem Stacked.congr {live : List Scope} :
    ∀ {first second : Environment},
      (∀ scope ∈ live, ∀ name ∈ scope.names, first.get? name = second.get? name) →
      Stacked first live → Stacked second live := by
  induction live with
  | nil => exact fun _ _ => trivial
  | cons scope younger ih =>
    intro first second same stacked
    have ⟨here, above⟩ := List.forall_mem_cons.1 same
    obtain ⟨remembers, rest⟩ := stacked
    refine ⟨⟨remembers.names, fun saved member => ?_⟩, ih ?_ rest⟩
    · have listed := (remembers.names saved.1).1 (List.mem_map_of_mem member)
      rw [remembers.values saved member, here saved.1 listed]
    · intro other inYounger name touched
      exact Environment.get?_overlay_congr (above other inYounger name touched) scope.entries

/-- A guard goes: the environment loses its layer, and the younger ones still remember what is
below them. -/
theorem Stacked.drop {initial : Environment} {older younger : List Scope} {scope : Scope}
    (stacked : Stacked initial (older ++ scope :: younger))
    (apart : ∀ other ∈ younger, scope.Apart other) :
    Stacked initial (older ++ younger) ∧
      scope.guard.restore (layered initial (older ++ scope :: younger)) =
        layered initial (older ++ younger) := by
  obtain ⟨below, remembers, above⟩ := stacked_append.1 stacked
  constructor
  · refine stacked_append.2 ⟨below, above.congr fun other member name touched => ?_⟩
    exact Environment.get?_overlay_of_notMem fun shared => apart other member name shared touched
  · refine Environment.ext_get? fun name => ?_
    have restored :=
      Guard.get?_restore remembers (layered initial (older ++ scope :: younger)) name
    rw [layered_append] at restored ⊢
    rw [layered_append]
    by_cases touched : name ∈ scope.names
    · -- no younger guard has the variable, so what is below the guard shows through
      have bare : (layered (layered initial older) younger).get? name =
          (layered initial older).get? name :=
        get?_layered_of_notMem fun other member => apart other member name touched
      rw [bare]
      exact restored.trans (if_pos touched)
    · have same : (layered (layered initial older) (scope :: younger)).get? name =
          (layered (layered initial older) younger).get? name :=
        get?_layered_congr younger (Environment.get?_overlay_of_notMem touched)
      rw [← same]
      exact restored.trans (if_neg touched)

/-! ## Runs -/

/-- A session as it is at any time of a run from an environment without guards. -/
structure Session.Sound (initial : Environment) (session : Session) : Prop where
  environment : session.environment = layered initial session.live
  stacked : Stacked initial session.live

theorem Session.Sound.apply {initial : Environment} {session : Session}
    (sound : session.Sound initial) {entries : List Variable}
    (valid : ∀ entry ∈ entries, entry.isValid) :
    ∃ changed guard, Guard.apply entries session.environment = (changed, .ok guard) ∧
      Session.Sound initial ⟨changed, session.live ++ [⟨entries, guard⟩]⟩ := by
  obtain ⟨guard, applied, remembers, changed⟩ := Guard.apply_spec valid session.environment
  refine ⟨_, guard, Prod.ext rfl applied, ⟨?_, ?_⟩⟩
  · rw [layered_append, ← sound.environment]
    exact changed
  · refine stacked_append.2 ⟨sound.stacked, ?_, trivial⟩
    rw [← sound.environment]
    exact remembers

theorem Session.Sound.step {initial : Environment} {session next : Session}
    (sound : session.Sound initial) (step : Session.Step session next) : next.Sound initial := by
  cases step with
  | apply valid applied =>
    obtain ⟨changed, guard, result, next⟩ := sound.apply valid
    cases applied.symm.trans result
    exact next
  | @drop environment older younger scope apart =>
    -- the step names its environment, which is the layered one only by the invariant
    obtain ⟨now, stacked⟩ := sound
    obtain ⟨stays, restored⟩ := stacked.drop apart
    refine ⟨?_, stays⟩
    show scope.guard.restore environment = _
    rw [show environment = _ from now, restored]

/-- At every moment of a run the environment is that of the beginning under the guards that are
alive, in the order of their application; without any it is that of the beginning. And a guard can
be applied at every moment. -/
theorem environment_eq_layered {initial : Environment} {session : Session}
    (run : Relation.ReflTransGen Session.Step ⟨initial, []⟩ session) :
    session.environment = layered initial session.live ∧
      (session.live = [] → session.environment = initial) ∧
      ∀ entries : List Variable, (∀ entry ∈ entries, entry.isValid) →
        ∃ changed guard, Session.Step session ⟨changed, session.live ++ [⟨entries, guard⟩]⟩ := by
  have sound : session.Sound initial := by
    induction run with
    | refl => exact ⟨rfl, trivial⟩
    | tail _ step ih => exact ih.step step
  refine ⟨sound.environment, fun none => ?_, fun entries valid => ?_⟩
  · rw [sound.environment, none]
    rfl
  · obtain ⟨changed, guard, applied, _⟩ := sound.apply valid
    exact ⟨changed, guard, .apply valid applied⟩

/-- The older of two guards goes first: its variables are as in the beginning, one of them unset,
and that of the younger guard is still set. -/
theorem environment_eq_layered_out_of_order :
    ∃ session : Session,
      Relation.ReflTransGen Session.Step ⟨Environment.empty.put "A" (some "a"), []⟩ session ∧
      session.live.length = 1 ∧ session.environment.get? "A" = some "a" ∧
      session.environment.get? "B" = none ∧ session.environment.get? "C" = some "4" := by
  have start : Relation.ReflTransGen Session.Step ⟨Environment.empty.put "A" (some "a"), []⟩
      ⟨Environment.empty.put "A" (some "a"), []⟩ := .refl
  obtain ⟨_, older, first⟩ := (environment_eq_layered start).2.2
    [⟨"A", "1"⟩, ⟨"B", "2"⟩, ⟨"A", "3"⟩] (by decide +kernel)
  obtain ⟨now, younger, second⟩ := (environment_eq_layered (start.tail first)).2.2 [⟨"C", "4"⟩]
    (by decide +kernel)
  have apart : ∀ other ∈ [(⟨[⟨"C", "4"⟩], younger⟩ : Scope)],
      Scope.Apart ⟨[⟨"A", "1"⟩, ⟨"B", "2"⟩, ⟨"A", "3"⟩], older⟩ other := by
    simp [Scope.Apart, Scope.names]
  have third : Session.Step ⟨now, [] ++ ⟨_, older⟩ :: [⟨_, younger⟩]⟩ _ := .drop apart
  have run := ((start.tail first).tail second).tail third
  refine ⟨_, run, rfl, ?_⟩
  rw [(environment_eq_layered run).1]
  exact ⟨rfl, rfl, rfl⟩

end PipelineManifest
