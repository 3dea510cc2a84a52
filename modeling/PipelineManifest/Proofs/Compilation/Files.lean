import PipelineManifest.Compilation
import PipelineManifest.Proofs.Manifest.RoundTrip

/-!
# The files of a compilation

A compilation has its manifest before it writes anything (`Compilation.prepare`). The file of the
manifest is then written whole or not at all, so a compilation that fails leaves all files as they
were, also the one that it was to replace.

Results:
1. `run_eq_prepare`: a compilation first prepares its manifest and then writes it.
2. `prepare_eq_ok`: where a manifest that is prepared comes from.
3. `files_of_run`: what a compilation leaves of the files, when it fails and when it succeeds.
-/

namespace PipelineManifest

open FileTree

namespace Compilation

variable {σ : Type} [HasEnvironment σ]

/-- The places of the directories around the output. -/
def around (compilation : Compilation) (workspace : Workspace σ) : List Location :=
  places (start workspace.directory (Path.ofText compilation.outputPath))
    (Path.ofText compilation.outputPath).steps.dropLast

/-- The format of the output and the settings. -/
def configure (compilation : Compilation) (workspace : Workspace σ) :
    Except CompileError (ManifestFormat × Settings) := do
  let format ← ManifestFormat.ofPath compilation.outputPath
  return (format, ← compilation.settings workspace)

/-- All that a compilation does before it writes: the environment that is left, and the manifest
with what is known about it. -/
def prepare (compilation : Compilation) (registry : Registry) (backend : Option Backend)
    (workspace : Workspace σ) : σ × Except CompileError (Json × Report) :=
  match compilation.configure workspace with
  | .error error => (workspace.environment, .error error)
  | .ok (format, settings) =>
    let (environment, nodes) := buildNodes registry settings workspace.environment
    (environment, nodes >>= compilation.assemble backend format settings)

theorem assemble_eq_ok_iff {compilation : Compilation} {backend : Option Backend}
    {format : ManifestFormat} {settings : Settings} {nodes : List Node} {document : Json}
    {report : Report} :
    compilation.assemble backend format settings nodes = .ok (document, report) ↔
      ∃ expansion, Graph.expand nodes settings.servingDirectory = .ok expansion ∧
        Manifest.compile (backend.getD (Backend.ofMode settings.executionMode)) settings
          expansion.nodes settings.arguments.flags = .ok document ∧
        report = ⟨compilation.outputPath, format, settings.executionMode, settings.sanitizedName,
          expansion.expanded, expansion.nodes.length, settings.arguments⟩ := by
  constructor
  · intro assembles
    obtain ⟨expansion, expands, rest⟩ := Sequence.bind_eq_ok_iff.1 assembles
    obtain ⟨compiled, compiles, same⟩ := Sequence.bind_eq_ok_iff.1 rest
    cases same
    exact ⟨expansion, expands, compiles, rfl⟩
  · rintro ⟨expansion, expands, compiles, rfl⟩
    exact Sequence.bind_eq_ok_iff.2 ⟨expansion, expands,
      Sequence.bind_eq_ok_iff.2 ⟨document, compiles, rfl⟩⟩

theorem prepare_eq_ok {compilation : Compilation} {registry : Registry} {backend : Option Backend}
    {workspace : Workspace σ} {document : Json} {report : Report}
    (prepares : (compilation.prepare registry backend workspace).2 = .ok (document, report)) :
    ∃ format settings nodes, ManifestFormat.ofPath compilation.outputPath = .ok format ∧
      compilation.settings workspace = .ok settings ∧
      (buildNodes registry settings workspace.environment).2 = .ok nodes ∧
      compilation.assemble backend format settings nodes = .ok (document, report) := by
  unfold prepare at prepares
  split at prepares
  · cases prepares
  next format settings configured =>
    obtain ⟨_, formatted, rest⟩ := Sequence.bind_eq_ok_iff.1 configured
    obtain ⟨_, settled, same⟩ := Sequence.bind_eq_ok_iff.1 rest
    cases same
    obtain ⟨nodes, built, assembles⟩ := Sequence.bind_eq_ok_iff.1 prepares
    exact ⟨format, settings, nodes, formatted, settled, built, assembles⟩

theorem run_eq_prepare (compilation : Compilation) (registry : Registry)
    (backend : Option Backend) (workspace : Workspace σ) :
    compilation.run registry backend workspace =
      match compilation.prepare registry backend workspace with
      | (environment, .error error) => ({ workspace with environment }, .error error)
      | (environment, .ok (document, report)) =>
        match Manifest.writeAt workspace.files workspace.directory compilation.outputPath
            report.format document with
        | (files, .error error) => ({ workspace with environment, files }, .error error)
        | (files, .ok ()) => ({ workspace with environment, files }, .ok report) := by
  rw [run, prepare, ← configure]
  cases compilation.configure workspace with
  | error error => rfl
  | ok configured =>
    obtain ⟨format, settings⟩ := configured
    dsimp only
    cases buildNodes registry settings workspace.environment with
    | mk environment nodes =>
      cases nodes with
      | error error => rfl
      | ok nodes =>
        dsimp only [Sequence.ok_bind]
        cases assembles : compilation.assemble backend format settings nodes with
        | error error => rfl
        | ok assembled =>
          obtain ⟨document, report⟩ := assembled
          obtain ⟨_, _, _, rfl⟩ := assemble_eq_ok_iff.1 assembles
          rfl

theorem prepare_of_assemble {compilation : Compilation} {registry : Registry}
    {backend : Option Backend} {workspace : Workspace σ} {format : ManifestFormat}
    {settings : Settings} {environment : σ} {nodes : List Node} {prepared : Json × Report}
    (formatted : ManifestFormat.ofPath compilation.outputPath = .ok format)
    (settled : compilation.settings workspace = .ok settings)
    (built : buildNodes registry settings workspace.environment = (environment, .ok nodes))
    (assembles : compilation.assemble backend format settings nodes = .ok prepared) :
    compilation.prepare registry backend workspace = (environment, .ok prepared) := by
  have configured : compilation.configure workspace = .ok (format, settings) :=
    Sequence.bind_eq_ok_iff.2 ⟨_, formatted, Sequence.bind_eq_ok_iff.2 ⟨_, settled, rfl⟩⟩
  rw [prepare, configured]
  dsimp only
  rw [built]
  exact congrArg (Prod.mk environment) assembles

theorem run_of_prepare {compilation : Compilation} {registry : Registry} {backend : Option Backend}
    {workspace : Workspace σ} {environment : σ} {document : Json} {report : Report}
    (prepares : compilation.prepare registry backend workspace =
      (environment, .ok (document, report)))
    {written : FileTree × Except CompileError Unit}
    (writes : Manifest.writeAt workspace.files workspace.directory compilation.outputPath
      report.format document = written) :
    compilation.run registry backend workspace =
      (⟨written.1, workspace.directory, environment⟩, written.2.map fun _ => report) := by
  rw [run_eq_prepare, prepares]
  dsimp only
  rw [writes]
  obtain ⟨files, outcome⟩ := written
  cases outcome <;> rfl

/-- A compilation fails before its manifest is there or when it writes it. -/
theorem run_eq_error {compilation : Compilation} {registry : Registry} {backend : Option Backend}
    {workspace after : Workspace σ} {error : CompileError}
    (fails : compilation.run registry backend workspace = (after, .error error)) :
    ((compilation.prepare registry backend workspace).2 = .error error ∧
      after.files = workspace.files) ∨
    ∃ prepared, (compilation.prepare registry backend workspace).2 = .ok prepared ∧
      Manifest.writeAt workspace.files workspace.directory compilation.outputPath prepared.2.format
        prepared.1 = (after.files, .error error) := by
  rw [run_eq_prepare] at fails
  cases prepares : compilation.prepare registry backend workspace with
  | mk environment result =>
    rw [prepares] at fails
    cases result with
    | error cause =>
      cases fails
      exact .inl ⟨rfl, rfl⟩
    | ok prepared =>
      cases writes : Manifest.writeAt workspace.files workspace.directory compilation.outputPath
          prepared.2.format prepared.1 with
      | mk files outcome =>
        simp only [writes] at fails
        cases outcome with
        | error cause =>
          cases fails
          exact .inr ⟨prepared, rfl, writes⟩
        | ok _ => cases fails

theorem run_eq_ok {compilation : Compilation} {registry : Registry} {backend : Option Backend}
    {workspace after : Workspace σ} {report : Report}
    (succeeds : compilation.run registry backend workspace = (after, .ok report)) :
    ManifestFormat.ofPath compilation.outputPath = .ok report.format ∧
    ∃ document, (compilation.prepare registry backend workspace).2 = .ok (document, report) ∧
      Manifest.writeAt workspace.files workspace.directory compilation.outputPath report.format
        document = (after.files, .ok ()) := by
  rw [run_eq_prepare] at succeeds
  cases prepares : compilation.prepare registry backend workspace with
  | mk environment result =>
    rw [prepares] at succeeds
    cases result with
    | error cause => cases succeeds
    | ok prepared =>
      cases writes : Manifest.writeAt workspace.files workspace.directory compilation.outputPath
          prepared.2.format prepared.1 with
      | mk files outcome =>
        simp only [writes] at succeeds
        cases outcome with
        | error cause => cases succeeds
        | ok _ =>
          cases succeeds
          obtain ⟨_, _, _, formatted, _, _, assembles⟩ := prepare_eq_ok (congrArg Prod.snd prepares)
          obtain ⟨_, _, _, same⟩ := assemble_eq_ok_iff.1 assembles
          refine ⟨?_, prepared.1, rfl, writes⟩
          rw [same, formatted]

/-- A compilation that fails leaves all files as they were and adds none. It may leave directories
around its output, and not even these if it fails before the manifest is there. A compilation that
succeeds leaves the whole text of the manifest at its output, in the format of its path, and nothing
else is new but directories around it. -/
theorem files_of_run (compilation : Compilation) (registry : Registry) (backend : Option Backend)
    (workspace after : Workspace σ) :
    (∀ error, compilation.run registry backend workspace = (after, .error error) →
      SameFiles workspace.files after.files ∧
      (∀ location, Gains (compilation.around workspace) workspace.files after.files location) ∧
      ∀ cause, (compilation.prepare registry backend workspace).2 = .error cause →
        after.files = workspace.files) ∧
    ∀ report, compilation.run registry backend workspace = (after, .ok report) →
      ManifestFormat.ofPath compilation.outputPath = .ok report.format ∧
      ∃ document target,
        (compilation.prepare registry backend workspace).2 = .ok (document, report) ∧
        Written workspace.directory (Path.ofText compilation.outputPath)
          (report.format.write document).toUTF8 workspace.files after.files target := by
  constructor
  · intro error fails
    rcases run_eq_error fails with ⟨_, unchanged⟩ | ⟨prepared, prepares, writes⟩
    · have gains := Gains.refl (compilation.around workspace) workspace.files
      rw [unchanged]
      exact ⟨sameFiles_of_gains gains, gains, fun _ _ => rfl⟩
    · obtain ⟨_, written⟩ := Manifest.writeAt_error writes
      have gains := write_error written
      refine ⟨sameFiles_of_gains gains, gains, fun cause failed => ?_⟩
      rw [prepares] at failed
      cases failed
  · intro report succeeds
    obtain ⟨formatted, document, prepares, writes⟩ := run_eq_ok succeeds
    obtain ⟨target, written⟩ := write_ok (Manifest.writeAt_ok writes)
    exact ⟨formatted, document, target, prepares, written⟩

/-- A pipeline, a manifest that is there already, and a directory where one could be. -/
def shelf : Workspace where
  files := ((FileTree.empty.put ["pipeline.yaml"] (.file
      "name: a/b\nframework:\n  parameters:\n    components: taxi.nodes\n".toUTF8)).put
    ["old.json"] (.file "[]".toUTF8)).put ["taken.json"] .directory
  directory := []
  environment := Environment.empty

/-- The compilation of the pipeline to a file. -/
def shelved (outputPath : String) (executionMode : ExecutionMode) : Compilation :=
  ⟨"pipeline.yaml", none, outputPath, some executionMode⟩

/-- A function that lists nodes. -/
def listing (nodes : List Node) : Registry :=
  Registry.empty.register "taxi" "nodes" fun _ => .ok nodes

theorem settings_shelf (outputPath : String) (executionMode : ExecutionMode) :
    (shelved outputPath executionMode).settings shelf =
      .ok { Manifest.parcel with executionMode } := by
  have resolved : ((shelved "" executionMode).settings shelf).toOption.map id =
      some { Manifest.parcel with executionMode } := by
    cases executionMode <;> decide +kernel
  obtain ⟨_, settled, rfl⟩ := Sequence.exists_ok_of_toOption resolved
  exact settled

theorem buildNodes_shelf (nodes : List Node) (executionMode : ExecutionMode) :
    buildNodes (listing nodes) { Manifest.parcel with executionMode } shelf.environment =
      (shelf.environment, .ok nodes) := by
  have split : splitReference Manifest.parcel.functionReference = .ok ("taxi", "nodes") := by cbv
  rw [buildNodes, Pipeline.load, split]
  rfl

/-- What is reported of the pipeline. -/
def shelfReport (outputPath : String) (format : ManifestFormat) (executionMode : ExecutionMode)
    (expansion : Expansion) : Report :=
  ⟨outputPath, format, executionMode, "a-b", expansion.expanded, expansion.nodes.length,
    Manifest.parcel.arguments⟩

theorem prepare_shelf (backend : Option Backend) {outputPath : String} {format : ManifestFormat}
    {executionMode : ExecutionMode} {nodes : List Node}
    {expansion : Expansion} {document : Json}
    (formatted : ManifestFormat.ofPath outputPath = .ok format)
    (expands : Graph.expand nodes Manifest.parcel.servingDirectory = .ok expansion)
    (compiles : Manifest.compile (backend.getD (Backend.ofMode executionMode))
      { Manifest.parcel with executionMode } expansion.nodes Manifest.parcel.arguments.flags =
        .ok document) :
    (shelved outputPath executionMode).prepare (listing nodes) backend shelf =
      (shelf.environment, .ok (document, shelfReport outputPath format executionMode expansion)) :=
  prepare_of_assemble formatted (settings_shelf outputPath executionMode)
    (buildNodes_shelf nodes executionMode)
    (assemble_eq_ok_iff.2 ⟨expansion, expands, compiles, rfl⟩)

/-- A backend that writes an empty document. -/
def blank : Backend := ⟨"native.json", fun _ => .ok (some "{}".toUTF8)⟩

theorem native_blank (definition : Definition) :
    Manifest.native blank definition = .ok (.object []) := by
  have targets := Manifest.scratch_targets blank.nativeFile (by decide +kernel)
  have formatted : ManifestFormat.ofPath (Manifest.scratchPath blank.nativeFile) = .ok .json := by
    decide +kernel
  have reads : ManifestFormat.readText .json "{}" = some (.object []) := by cbv
  have emits : blank.emit definition = .ok (some "{}".toUTF8) := rfl
  rw [Manifest.native_eq_emit, emits, Sequence.ok_bind,
    Manifest.reread_eq_ok .json targets formatted reads]

theorem prepare_blank {outputPath : String}
    (formatted : ManifestFormat.ofPath outputPath = .ok .json) :
    (shelved outputPath .v1).prepare (listing []) (some blank) shelf =
      (shelf.environment, .ok (.object [], shelfReport outputPath .json .v1 ⟨[], false⟩)) := by
  have expands : Graph.expand [] Manifest.parcel.servingDirectory = .ok ⟨[], false⟩ := rfl
  have ordered : Graph.order [] = .ok [] := by cbv
  refine prepare_shelf (some blank) formatted expands ?_
  rw [Manifest.compile, ordered]
  show (Manifest.native _ _ >>= _) = _
  rw [Option.getD_some, native_blank, Sequence.ok_bind]
  rfl

/-- The shelf with the empty document at a path. -/
def placed (outputPath : String) : FileTree × Except CompileError Unit :=
  Manifest.writeAt shelf.files shelf.directory outputPath .json (.object [])

/-- Where a directory is, no file can be put, and only the new directory on the way to it is left.
The old manifest is replaced. -/
theorem files_of_run_shelf :
    (∃ after error, (shelved "made/../taken.json" .v1).run (listing []) (some blank) shelf =
        (after, .error error) ∧
      SameFiles shelf.files after.files ∧ after.files.leadsTo [] (Path.ofText "made")) ∧
    ∃ after report, (shelved "old.json" .v1).run (listing []) (some blank) shelf =
        (after, .ok report) ∧
      after.files.read [] (Path.ofText "old.json") = .ok "{}\n".toUTF8 := by
  constructor
  · have formatted : ManifestFormat.ofPath "made/../taken.json" = .ok .json := by decide +kernel
    have runs := run_of_prepare (prepare_blank formatted)
      (show Manifest.writeAt _ _ _ _ _ = placed "made/../taken.json" from rfl)
    have outcome : (placed "made/../taken.json").2.toOption = none ∧
        (placed "made/../taken.json").1.leadsTo [] (Path.ofText "made") := by decide +kernel
    cases result : (placed "made/../taken.json").2 with
    | error error =>
      rw [result] at runs
      obtain ⟨same, _⟩ := (files_of_run _ _ _ shelf _).1 error runs
      exact ⟨_, error, runs, same, outcome.2⟩
    | ok _ =>
      rw [result] at outcome
      cases outcome.1
  · have formatted : ManifestFormat.ofPath "old.json" = .ok .json := by decide +kernel
    have runs := run_of_prepare (prepare_blank formatted)
      (show Manifest.writeAt _ _ _ _ _ = placed "old.json" from rfl)
    have outcome : (placed "old.json").2 = .ok () := by decide +kernel
    rw [outcome] at runs
    obtain ⟨_, document, target, prepares, written⟩ := (files_of_run _ _ _ shelf _).2 _ runs
    rw [prepare_blank formatted] at prepares
    cases prepares
    have text : ManifestFormat.json.write (.object []) = "{}\n" := by decide +kernel
    exact ⟨_, _, runs,
      written.read.trans (congrArg (fun text : String => Except.ok text.toUTF8) text)⟩

end Compilation

end PipelineManifest
