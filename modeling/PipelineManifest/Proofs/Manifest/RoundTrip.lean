import PipelineManifest.Proofs.Manifest.Files
import PipelineManifest.Proofs.Manifest.Textual

/-!
# Manifests that are read back

On its way from a backend to the file of a compilation a manifest is written and read twice. Since
it is made of text only, it comes back as it was, so a compilation makes no other document than the
backend has built. Of YAML it is assumed that the document is read back
(`ManifestFormat.ReadsBack`); for JSON it is proved.

Results:
1. `readsBack_json`: a document of text is read back as JSON.
2. `compile_eq_document`: a compilation makes the document of the manifest that is built.
3. `compile_of_order`: graphs that have an order have manifests of text, and these are what is found
   in the files.
-/

namespace PipelineManifest

open FileTree

/-! ## Reading back -/

/-- A document is read from the text that it is written as. -/
def ManifestFormat.ReadsBack (format : ManifestFormat) (document : Json) : Prop :=
  format.readText (format.write document) = some document

theorem ManifestFormat.readsBack_json {document : Json}
    (textual : document.Textual Json.depthLimit) : json.ReadsBack document :=
  Json.read_documentText textual (Nat.le_refl _)

namespace Manifest

/-- The document of a manifest: a specification goes into a job. -/
def document (settings : Settings) (manifest : Json) : Json :=
  match settings.executionMode with
  | .v1 => manifest
  | .v2 => job manifest settings.sanitizedName

theorem textual_document {settings : Settings} {definition : Definition} {manifest : Json}
    (built : Backend.build settings.executionMode definition = .ok manifest) :
    (document settings manifest).Textual Json.depthLimit := by
  unfold document
  cases settings.executionMode with
  | v1 => exact Backend.textual_of_build built 117
  | v2 => exact textual_job (Backend.textual_of_build built 116) _

/-! ## The file of a backend -/

theorem targets_ofMode (mode : ExecutionMode) :
    scratchTree.Targets scratchDirectory
      (Path.ofText (scratchPath (Backend.ofMode mode).nativeFile))
      (scratchDirectory ++ [(Backend.ofMode mode).nativeFile]) := by
  cases mode with
  | v1 => exact scratch_targets _ (by decide +kernel)
  | v2 => exact scratch_targets _ (by decide +kernel)

theorem reread_ofMode {mode : ExecutionMode} {manifest : Json}
    (textual : manifest.Textual Json.depthLimit)
    (yaml : mode = .v1 → ManifestFormat.yaml.ReadsBack manifest) :
    reread (Backend.ofMode mode).nativeFile (some (Backend.text mode manifest).toUTF8) =
      .ok manifest := by
  have targets := targets_ofMode mode
  cases mode with
  | v1 => exact reread_eq_ok .yaml targets (by decide +kernel) (yaml rfl)
  | v2 =>
    exact reread_eq_ok .json targets (by decide +kernel)
      (Json.read_compactText textual (Nat.le_refl _))

theorem buildGraph_of_order {nodes sorted : List Node} (ordered : Graph.order nodes = .ok sorted)
    (mode : ExecutionMode) (settings : Settings) (arguments : List String) :
    Backend.buildGraph mode (definition settings nodes arguments) nodes =
      Backend.build mode (definition settings sorted arguments) := by
  rw [Backend.buildGraph, ordered]
  rfl

theorem compile_eq_document {nodes sorted : List Node} (settings : Settings)
    (arguments : List String) {manifest : Json} (ordered : Graph.order nodes = .ok sorted)
    (built : Backend.build settings.executionMode (definition settings sorted arguments) =
      .ok manifest)
    (yaml : settings.executionMode = .v1 → ManifestFormat.yaml.ReadsBack manifest) :
    compile (Backend.ofMode settings.executionMode) settings nodes arguments =
      .ok (document settings manifest) := by
  have textual := Backend.textual_of_build built 117
  rw [compile_ofMode, buildGraph_of_order ordered, built, Sequence.ok_bind]
  dsimp only
  rw [reread_ofMode textual yaml, Sequence.ok_bind, document]
  cases settings.executionMode <;> rfl

/-! ## The manifest of a graph -/

theorem exists_order_of_compile {backend : Backend} {settings : Settings} {nodes : List Node}
    {arguments : List String} {document : Json}
    (compiles : compile backend settings nodes arguments = .ok document) :
    ∃ sorted, Graph.order nodes = .ok sorted := by
  unfold compile at compiles
  cases ordered : Graph.order nodes with
  | error error =>
    rw [ordered] at compiles
    cases compiles
  | ok sorted => exact ⟨sorted, rfl⟩

theorem build_of_order {nodes : List Node} (definition : Definition)
    (ordered : Graph.order nodes = .ok definition.nodes) (mode : ExecutionMode) :
    ∃ manifest, Backend.build mode definition = .ok manifest := by
  cases mode with
  | v1 =>
    obtain ⟨_, _, first⟩ := Graph.perm_of_order ordered
    exact ⟨_, Workflow.build_eq_outline first⟩
  | v2 => exact ⟨_, rfl⟩

/-- A graph that has an order has both manifests, and they are made of text. The manifest of the
mode is what the compilation makes, inside a job if it is a specification, and the document is what
is found in the file that it is written to, whatever its format. -/
theorem compile_of_order {nodes sorted : List Node} (ordered : Graph.order nodes = .ok sorted)
    (settings : Settings) (arguments : List String) :
    (∀ mode definition, definition.nodes = sorted →
      ∃ manifest, Backend.build mode definition = .ok manifest ∧
        manifest.Textual Json.depthLimit) ∧
    ∀ manifest, Backend.build settings.executionMode (definition settings sorted arguments) =
        .ok manifest →
      ManifestFormat.yaml.ReadsBack (document settings manifest) →
      compile (Backend.ofMode settings.executionMode) settings nodes arguments =
        .ok (document settings manifest) ∧
      ∀ tree after directory path format, ManifestFormat.ofPath path = .ok format →
        writeAt tree directory path format (document settings manifest) = (after, .ok ()) →
        readAt after directory path = .ok (document settings manifest) := by
  constructor
  · rintro mode definition rfl
    obtain ⟨manifest, built⟩ := build_of_order definition ordered mode
    exact ⟨manifest, built, Backend.textual_of_build built 117⟩
  · intro manifest built yaml
    constructor
    · refine compile_eq_document settings arguments ordered built fun workflow => ?_
      rwa [document, workflow] at yaml
    · intro tree after directory path format formatted written
      refine readAt_writeAt formatted written ?_
      cases format with
      | json => exact ManifestFormat.readsBack_json (textual_document built)
      | yaml => exact yaml

/-- A pipeline with a slash in its name. -/
def parcel : Settings where
  name := "a/b"
  sanitizedName := "a-b"
  rootStorage := "a-b"
  servingDirectory := "a-b/serving"
  tempDirectory := "a-b/tmp"
  image := ""
  executionMode := .v1
  environment := []
  arguments := Settings.withTempLocation ∅ "a-b/tmp"
  functionReference := "taxi.nodes"

/-- A node with a parameter. -/
def weighed (value : Json) : Node := .setParameter (.ofType "G" .other) "p" value

theorem order_weighed (value : Json) : Graph.order [weighed value] = .ok [weighed value] := by cbv

/-- A null and a number that is not whole. -/
def mixed : Json := .array [.null, .float (.ofRatio false 1 2)]

theorem readsBack_of_node {definition : Definition} {manifest : Json}
    (built : Backend.build .v1 definition = .ok manifest)
    (reads : (Yaml.Value.ofText? (Yaml.node 0 manifest)).map Yaml.Value.toJson = some manifest) :
    ManifestFormat.yaml.ReadsBack manifest := by
  obtain ⟨workflow, _, rfl⟩ := Backend.build_v1_eq_ok built
  show Yaml.readJson (.ofList (Yaml.node 0 workflow.toJson)) = _
  rw [Yaml.readJson, String.toList_ofList]
  exact reads

/-- The manifest of the node. -/
theorem readsBack_parcel :
    ∃ manifest, Backend.build .v1 (definition parcel [weighed mixed] parcel.arguments.flags) =
      .ok manifest ∧ ManifestFormat.yaml.ReadsBack manifest := by
  obtain ⟨manifest, built⟩ := build_of_order
    (definition parcel [weighed mixed] parcel.arguments.flags) (order_weighed mixed) .v1
  have seen : (Backend.build .v1 (definition parcel [weighed mixed]
      parcel.arguments.flags)).toOption.all fun manifest =>
      (Yaml.Value.ofText? (Yaml.node 0 manifest)).map Yaml.Value.toJson = some manifest := by
    decide +kernel
  rw [built] at seen
  exact ⟨manifest, built, readsBack_of_node built (of_decide_eq_true seen)⟩

theorem compile_of_order_parcel :
    ∃ manifest, Graph.order [weighed mixed] = .ok [weighed mixed] ∧
      Backend.build .v1 (definition parcel [weighed mixed] parcel.arguments.flags) =
        .ok manifest ∧
      ManifestFormat.yaml.ReadsBack manifest ∧
      compile (Backend.ofMode .v1) parcel [weighed mixed] parcel.arguments.flags =
        .ok manifest ∧
      ∃ after, writeAt FileTree.empty [] "out.yml" .yaml manifest = (after, .ok ()) ∧
        readAt after [] "out.yml" = .ok manifest := by
  obtain ⟨manifest, built, yaml⟩ := readsBack_parcel
  have ordered := order_weighed mixed
  obtain ⟨_, returns⟩ := compile_of_order ordered parcel parcel.arguments.flags
  obtain ⟨compiles, reads⟩ := returns manifest built yaml
  have writes : (writeAt FileTree.empty [] "out.yml" .yaml manifest).2 = .ok () := by rfl
  exact ⟨manifest, ordered, built, yaml, compiles, _, Prod.ext rfl writes,
    reads _ _ _ _ _ (by decide +kernel) (Prod.ext rfl writes)⟩

end Manifest

end PipelineManifest
