import PipelineManifest.Compilation
import PipelineManifest.Proofs.Environment.Guards
import PipelineManifest.Proofs.Sequence

/-!
# The environment of a compilation

A compilation sets the variables of its pipeline for as long as it looks up and runs the function
that builds the nodes. What is said here holds for whatever runs in an environment; a `History` is
one that forgets nothing, so to leave it as it is means to change no variable at any moment.

Results:
1. `buildNodes_spec`: the function runs under the variables of the pipeline, and what is left of the
   environment is the same whether it is found, fails or succeeds.
2. `environment_run`, `run_congr`: nothing else in a compilation has to do with the environment.
3. `environment_of_run`: every compilation leaves the environment as it was.
-/

namespace PipelineManifest

open HasEnvironment

/-- An environment with all that it has been, the latest first. -/
structure History where
  now : Environment
  past : List Environment

instance : HasEnvironment History where
  environment := History.now
  put history name value := ⟨history.now.put name value, history.now :: history.past⟩
  environment_put := fun _ _ _ => rfl

/-! ## References -/

theorem splitLast_eq_none_iff {c : Char} {text : List Char} :
    splitLast c text = none ↔ c ∉ text := by
  induction text with
  | nil => simp [splitLast]
  | cons first rest ih =>
    rw [splitLast, List.mem_cons, not_or]
    cases later : splitLast c rest with
    | some parts =>
      have present : ¬ c ∉ rest := fun absent => by
        rw [ih.2 absent] at later
        cases later
      simp [present]
    | none =>
      have absent := ih.1 later
      by_cases same : first = c
      · simp [same]
      · simp [same, absent, Ne.symm same]

theorem splitReference_eq_error_iff {reference : String} {error : CompileError} :
    splitReference reference = .error error ↔
      '.' ∉ reference.toList ∧ error = .invalidReference reference := by
  unfold splitReference
  cases parts : splitLast '.' reference.toList with
  | none =>
    have absent := splitLast_eq_none_iff.1 parts
    exact ⟨fun same => ⟨absent, (Except.error.inj same).symm⟩, fun ⟨_, same⟩ => same ▸ rfl⟩
  | some pair =>
    constructor
    · intro impossible
      cases impossible
    · rintro ⟨absent, _⟩
      rw [splitLast_eq_none_iff.2 absent] at parts
      cases parts

/-! ## Loading and running the function -/

theorem Compilation.settings_of_prepared {σ : Type} {compilation : Compilation}
    {workspace : Workspace σ} {format : ManifestFormat} {settings : Settings}
    (prepared : (do
      let format ← ManifestFormat.ofPath compilation.outputPath
      return (format, ← compilation.settings workspace)) = .ok (format, settings)) :
    compilation.settings workspace = .ok settings := by
  obtain ⟨_, _, rest⟩ := Sequence.bind_eq_ok_iff.1 prepared
  obtain ⟨settings', found, same⟩ := Sequence.bind_eq_ok_iff.1 rest
  cases same
  exact found

section

variable {σ : Type} [HasEnvironment σ]

theorem load_of_noDot (registry : Registry) {reference : String} (absent : '.' ∉ reference.toList)
    (entries : List Variable) (state : σ) :
    Pipeline.load registry reference entries state =
      (state, .error (.invalidReference reference)) := by
  rw [Pipeline.load, splitReference_eq_error_iff.2 ⟨absent, rfl⟩]

theorem load_of_guard (registry : Registry) {reference path name : String}
    (split : splitReference reference = .ok (path, name)) {entries : List Variable} {state : σ}
    {guard : Guard} (applied : (Guard.apply entries state).2 = .ok guard) :
    Pipeline.load registry reference entries state =
      match registry.resolve path name with
      | .error error => (guard.restore (Guard.apply entries state).1, .error (.load error))
      | .ok function => ((Guard.apply entries state).1, .ok ⟨reference, function, guard⟩) := by
  unfold Pipeline.load
  rw [split]
  cases both : Guard.apply entries state with
  | mk changed result =>
    rw [both] at applied
    obtain rfl : result = .ok guard := applied
    rfl

theorem call_eq_mapError (pipeline : Pipeline) (environment : Environment) :
    pipeline.call environment =
      (pipeline.function environment).mapError (.functionFailed pipeline.reference) := by
  unfold Pipeline.call
  cases pipeline.function environment <;> rfl

namespace Compilation

theorem buildNodes_of_noDot (registry : Registry) {settings : Settings}
    (absent : '.' ∉ settings.functionReference.toList) (state : σ) :
    buildNodes registry settings state =
      (state, .error (.invalidReference settings.functionReference)) := by
  rw [buildNodes, load_of_noDot registry absent]

/-- The state that is left has the environment of the beginning, and no registry makes a difference
to it. A function that is found runs under the variables of the pipeline. -/
theorem buildNodes_spec {settings : Settings}
    (valid : ∀ entry ∈ settings.environment, entry.isValid) {path name : String}
    (split : splitReference settings.functionReference = .ok (path, name)) (state : σ) :
    ∃ after : σ, environment after = environment state ∧ ∀ registry : Registry,
      buildNodes registry settings state = (after,
        match registry.resolve path name with
        | .error error => .error (.load error)
        | .ok function => (function ((environment state).overlay settings.environment)).mapError
            (.functionFailed settings.functionReference)) := by
  obtain ⟨guard, applied, remembers, changed⟩ := Guard.apply_spec valid state
  refine ⟨guard.restore (Guard.apply settings.environment state).1,
    Guard.environment_restore remembers changed, fun registry => ?_⟩
  rw [buildNodes, load_of_guard registry split applied]
  cases registry.resolve path name with
  | error error => rfl
  | ok function =>
    show (_, Pipeline.call _ (environment (Guard.apply settings.environment state).1)) = _
    rw [call_eq_mapError, changed]
    rfl

theorem environment_buildNodes (registry : Registry) {settings : Settings}
    (valid : ∀ entry ∈ settings.environment, entry.isValid) (state : σ) :
    environment (buildNodes registry settings state).1 = environment state := by
  cases split : splitReference settings.functionReference with
  | error error =>
    rw [buildNodes_of_noDot registry (splitReference_eq_error_iff.1 split).1]
  | ok parts =>
    obtain ⟨after, same, built⟩ := buildNodes_spec valid split state
    rw [built registry]
    exact same

/-! ## Whole compilations -/

/-- Only building the nodes has to do with the environment. -/
theorem environment_run (compilation : Compilation) (registry : Registry)
    (backend : Option Backend) (workspace : Workspace σ) :
    (compilation.run registry backend workspace).1.environment = workspace.environment ∨
    ∃ settings, compilation.settings workspace = .ok settings ∧
      (compilation.run registry backend workspace).1.environment =
        (buildNodes registry settings workspace.environment).1 := by
  simp only [run]
  split
  · exact .inl rfl
  · next format settings prepared =>
    refine .inr ⟨settings, settings_of_prepared prepared, ?_⟩
    cases buildNodes registry settings workspace.environment with
    | mk after outcome =>
      cases outcome with
      | error error => rfl
      | ok nodes =>
        dsimp only
        split
        · rfl
        · split <;> rfl

theorem run_congr {compilation : Compilation} {registry other : Registry} {workspace : Workspace σ}
    (same : ∀ settings, compilation.settings workspace = .ok settings →
      buildNodes registry settings workspace.environment =
        buildNodes other settings workspace.environment) (backend : Option Backend) :
    compilation.run registry backend workspace = compilation.run other backend workspace := by
  simp only [run]
  split
  · rfl
  · next format settings prepared => rw [same settings (settings_of_prepared prepared)]

/-- Every compilation leaves the environment as it was, however it ends. The function that builds
the nodes runs under the variables of the pipeline: only what it gives there makes a difference.
Without a dot in its reference nothing that runs in the environment, be it a `History`, is changed.
-/
theorem environment_of_run (compilation : Compilation) (registry : Registry)
    (backend : Option Backend) (workspace : Workspace σ)
    (valid : ∀ settings, compilation.settings workspace = .ok settings →
      ∀ entry ∈ settings.environment, entry.isValid) :
    environment (compilation.run registry backend workspace).1.environment =
        environment workspace.environment ∧
    (∀ settings, compilation.settings workspace = .ok settings →
      ∀ path name, splitReference settings.functionReference = .ok (path, name) →
      ∀ function, registry.resolve path name = .ok function →
        (buildNodes registry settings workspace.environment).2 =
          (function ((environment workspace.environment).overlay settings.environment)).mapError
            (.functionFailed settings.functionReference) ∧
        ∀ other function', Registry.resolve other path name = .ok function' →
          function' ((environment workspace.environment).overlay settings.environment) =
            function ((environment workspace.environment).overlay settings.environment) →
          compilation.run other backend workspace = compilation.run registry backend workspace) ∧
    ∀ settings, compilation.settings workspace = .ok settings →
      '.' ∉ settings.functionReference.toList →
        (compilation.run registry backend workspace).1.environment = workspace.environment := by
  refine ⟨?_, ?_, ?_⟩
  · rcases environment_run compilation registry backend workspace with
      same | ⟨settings, found, same⟩
    · rw [same]
    · rw [same, environment_buildNodes registry (valid settings found)]
  · intro settings found path name split function resolved
    obtain ⟨after, _, built⟩ := buildNodes_spec (valid settings found) split workspace.environment
    refine ⟨by rw [built registry, resolved], fun other function' resolved' agree => ?_⟩
    refine run_congr (fun settings' found' => ?_) backend
    cases found.symm.trans found'
    rw [built other, built registry, resolved, resolved']
    show (after, Except.mapError _ (function' _)) = (after, Except.mapError _ (function _))
    rw [agree]
  · intro settings found absent
    rcases environment_run compilation registry backend workspace with
      same | ⟨settings', found', same⟩
    · exact same
    · cases found.symm.trans found'
      rw [same, buildNodes_of_noDot registry absent]

/-- A pipeline document that names a variable twice. -/
def documentFor (reference : String) : String :=
  "name: taxi\nframework:\n  parameters:\n    components: " ++ reference ++
    "\nenv:\n- name: A\n  value: b\n- name: A\n  value: c\n"

/-- The document in an environment that has the variable already. -/
def workspaceFor (reference : String) : Workspace History where
  files := FileTree.empty.put ["pipeline.yaml"] (.file (documentFor reference).toUTF8)
  directory := []
  environment := ⟨Environment.empty.put "A" (some "a"), []⟩

/-- A function that fails with what it sees. -/
def seeing : Registry :=
  Registry.empty.register "taxi" "nodes" fun environment => .error ((environment.get? "A").getD "")

/-- The compilation of the document. -/
def sample : Compilation := ⟨"pipeline.yaml", none, "out.json", none⟩

theorem settings_sample {reference : String}
    (read : ((sample.settings (workspaceFor reference)).toOption.map fun settings =>
      (settings.functionReference, settings.environment)) =
        some (reference, [⟨"A", "b"⟩, ⟨"A", "c"⟩])) :
    ∃ settings, sample.settings (workspaceFor reference) = .ok settings ∧
      settings.functionReference = reference ∧
      settings.environment = [⟨"A", "b"⟩, ⟨"A", "c"⟩] := by
  obtain ⟨settings, found, seen⟩ := Sequence.exists_ok_of_toOption read
  have ⟨named, listed⟩ := Prod.mk.inj seen
  exact ⟨settings, found, named, listed⟩

/-- The function sees the last value of the variable, and afterwards the variable has its old one.
Without a dot it never has another. -/
theorem environment_of_run_sample :
    (∃ settings, sample.settings (workspaceFor "taxi.nodes") = .ok settings ∧
      (buildNodes seeing settings (workspaceFor "taxi.nodes").environment).2 =
        .error (.functionFailed "taxi.nodes" "c")) ∧
    (sample.run seeing none (workspaceFor "taxi.nodes")).1.environment.now =
      (workspaceFor "taxi.nodes").environment.now ∧
    (sample.run seeing none (workspaceFor "nodes")).1.environment.past = [] := by
  obtain ⟨dotted, found, named, listed⟩ :=
    settings_sample (show _ = some ("taxi.nodes", _) by decide +kernel)
  obtain ⟨bare, found', named', listed'⟩ :=
    settings_sample (show _ = some ("nodes", _) by decide +kernel)
  have valid : ∀ entry ∈ [(⟨"A", "b"⟩ : Variable), ⟨"A", "c"⟩], entry.isValid := by decide +kernel
  have ⟨restored, runs, _⟩ := environment_of_run sample seeing none (workspaceFor "taxi.nodes")
    fun settings same => by
      cases found.symm.trans same
      exact listed ▸ valid
  have ⟨_, _, untouched⟩ := environment_of_run sample seeing none (workspaceFor "nodes")
    fun settings same => by
      cases found'.symm.trans same
      exact listed' ▸ valid
  refine ⟨⟨dotted, found, ?_⟩, restored, ?_⟩
  · have split : splitReference dotted.functionReference = .ok ("taxi", "nodes") := by
      rw [named]
      cbv
    rw [(runs dotted found "taxi" "nodes" split _ rfl).1, listed, named]
    rfl
  · rw [untouched bare found' (by rw [named']; decide +kernel)]
    rfl

end Compilation

end

end PipelineManifest
