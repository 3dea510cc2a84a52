import PipelineManifest.Manifest.Definition

/-!
Pipeline specifications: a component, an executor and a task for each node, all listed by name. A
task names the component that it is an instance of, and a component the executor that runs it.
-/

namespace PipelineManifest

/-- What a component takes and gives, by the artifact types of its inputs and outputs. -/
structure SpecComponent where
  executorLabel : String
  inputArtifacts : Dictionary String
  inputParameters : Dictionary Unit
  outputArtifacts : Dictionary String

/-- An output of another task. -/
structure TaskOutput where
  producerTask : String
  outputKey : String
deriving DecidableEq, Repr

structure SpecTask where
  name : String
  component : String
  dependentTasks : List String
  artifacts : Dictionary TaskOutput
  parameters : Dictionary String

structure PipelineSpec where
  name : String
  root : String
  components : Dictionary SpecComponent
  executors : Dictionary Container
  tasks : Dictionary SpecTask

def artifactTypes (types : Dictionary String) : Json :=
  .ofDictionary (types.mapValues fun _ artifactType =>
    .record [("artifactType", .record [("schemaTitle", .string ("tfx." ++ artifactType))])])

/-- All parameters are handed over as text. -/
def SpecComponent.toJson (component : SpecComponent) : Json :=
  .record [
    ("executorLabel", .string component.executorLabel),
    ("inputDefinitions", .record [
      ("artifacts", artifactTypes component.inputArtifacts),
      ("parameters", .ofDictionary (component.inputParameters.mapValues fun _ _ =>
        .record [("type", .string "STRING")]))]),
    ("outputDefinitions", .record [("artifacts", artifactTypes component.outputArtifacts)])]

def TaskOutput.toJson (output : TaskOutput) : Json :=
  .record [("taskOutputArtifact", .record [
    ("producerTask", .string output.producerTask),
    ("outputArtifactKey", .string output.outputKey)])]

def SpecTask.toJson (task : SpecTask) : Json :=
  .record [
    ("taskInfo", .record [("name", .string task.name)]),
    ("componentRef", .record [("name", .string task.component)]),
    ("dependentTasks", .strings task.dependentTasks),
    ("inputs", .record [
      ("artifacts", .ofDictionary (task.artifacts.mapValues fun _ output => output.toJson)),
      ("parameters", .ofDictionary (task.parameters.mapValues fun _ text =>
        .record [("runtimeValue", .record [
          ("constantValue", .record [("stringValue", .string text)])])]))])]

namespace PipelineSpec

def schemaVersion : String := "2.0.0"

def sdkVersion : String := "pipeline-compiler-0.1.0"

def toJson (spec : PipelineSpec) : Json :=
  .record [
    ("pipelineInfo", .record [("name", .string spec.name)]),
    ("schemaVersion", .string schemaVersion),
    ("sdkVersion", .string sdkVersion),
    ("defaultPipelineRoot", .string spec.root),
    ("components", .ofDictionary (spec.components.mapValues fun _ component => component.toJson)),
    ("deploymentSpec", .record [("executors",
      .ofDictionary (spec.executors.mapValues fun _ container =>
        .record [("container", container.toJson)]))]),
    ("root", .record [("dag", .record [("tasks",
      .ofDictionary (spec.tasks.mapValues fun _ task => task.toJson))])])]

/-- Text stays as it is; any other value is written as JSON. -/
def parameterText : Json → String
  | .string text => text
  | other => other.compactText

def componentName (id : String) : String := id ++ "_component"

def executorLabel (id : String) : String := id ++ "_executor"

def component (node : Node) : SpecComponent where
  executorLabel := executorLabel node.id
  inputArtifacts := node.inputs.mapValues fun _ channel => channel.artifactType
  inputParameters := node.parameters.mapValues fun _ _ => ()
  outputArtifacts := node.outputs.mapValues fun _ channel => channel.artifactType

def task (node : Node) : SpecTask where
  name := node.id
  component := componentName node.id
  dependentTasks := node.producerIds
  artifacts := node.inputs.mapValues fun _ channel => ⟨channel.producer, channel.output⟩
  parameters := node.parameters.mapValues fun _ value => parameterText value

/-- The specification of a pipeline. -/
def ofDefinition (definition : Definition) : PipelineSpec where
  name := definition.name
  root := definition.root
  components := .ofList (definition.nodes.map fun node =>
    (componentName node.id, component node))
  executors := .ofList (definition.nodes.map fun node =>
    (executorLabel node.id, definition.container node))
  tasks := .ofList (definition.nodes.map fun node => (node.id, task node))

end PipelineSpec

end PipelineManifest
