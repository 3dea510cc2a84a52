import PipelineManifest.Graph.Node
import PipelineManifest.Json.Printer

/-!
What a manifest is made of: the nodes of a pipeline in the order in which they can run, and the
container that each of them runs in.
-/

namespace PipelineManifest

/-- A pipeline that is ready to be written as a manifest. -/
structure Definition where
  name : String
  displayName : String
  root : String
  image : String
  /-- The nodes, every producer ahead of its consumers. -/
  nodes : List Node
  engineArguments : List String
  enableCache : Bool

structure Container where
  image : String
  command : List String
  arguments : List String
deriving DecidableEq, Repr

def Container.toJson (container : Container) : Json :=
  .record [("image", .string container.image), ("command", .strings container.command),
    ("args", .strings container.arguments)]

namespace Definition

/-- What every container starts. -/
def entrypoint : List String := ["python", "-m", "tfx.orchestration.kubeflow.container_entrypoint"]

/-- The node itself and the engine arguments are handed over as JSON text. -/
def containerArguments (definition : Definition) (node : Node) : List String :=
  ["--pipeline_name", definition.name,
    "--pipeline_root", definition.root,
    "--node_id", node.id,
    "--component_type", node.componentType,
    "--serialized_component", node.toJson.compactText,
    "--beam_pipeline_args", (Json.strings definition.engineArguments).compactText,
    "--enable_cache", if definition.enableCache then "true" else "false"]

def container (definition : Definition) (node : Node) : Container :=
  ⟨definition.image, entrypoint, definition.containerArguments node⟩

end Definition

end PipelineManifest
