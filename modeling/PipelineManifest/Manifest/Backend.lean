import PipelineManifest.Configuration.Settings
import PipelineManifest.Manifest.PipelineSpec
import PipelineManifest.Manifest.Workflow
import PipelineManifest.Yaml.Printer

/-!
Backends turn a pipeline into a file. There is one for each mode of execution.
-/

namespace PipelineManifest

/-- What turns a pipeline into a file. -/
structure Backend where
  /-- The name of the file. Its extension says how it is read back. -/
  nativeFile : String
  /-- The bytes of the file, if one is written at all. -/
  emit : Definition → Except CompileError (Option ByteArray)

namespace Backend

def emitWorkflow (definition : Definition) : Except CompileError (Option ByteArray) := do
  let workflow ← Workflow.ofDefinition definition
  return some (Yaml.documentText workflow.toJson).toUTF8

def emitPipelineSpec (definition : Definition) : Except CompileError (Option ByteArray) :=
  .ok (some (PipelineSpec.ofDefinition definition).toJson.compactText.toUTF8)

/-- The backend of a mode. -/
def ofMode : ExecutionMode → Backend
  | .v1 => ⟨"workflow.yaml", emitWorkflow⟩
  | .v2 => ⟨"pipeline.json", emitPipelineSpec⟩

/-- The manifest of a mode. -/
def build : ExecutionMode → Definition → Except CompileError Json
  | .v1, definition => (Workflow.ofDefinition definition).map (·.toJson)
  | .v2, definition => .ok (PipelineSpec.ofDefinition definition).toJson

/-- The text of a manifest as its backend writes it. -/
def text : ExecutionMode → Json → String
  | .v1 => Yaml.documentText
  | .v2 => Json.compactText

theorem emit_ofMode (mode : ExecutionMode) (definition : Definition) :
    (ofMode mode).emit definition =
      (build mode definition).map fun manifest => some (text mode manifest).toUTF8 := by
  cases mode with
  | v1 =>
    show emitWorkflow definition = _
    rw [emitWorkflow, build]
    cases Workflow.ofDefinition definition <;> rfl
  | v2 => rfl

end Backend

end PipelineManifest
