import PipelineManifest.Error
import PipelineManifest.FreshName
import PipelineManifest.Manifest.Definition

/-!
Workflow manifests: a template for the container of each node, and one more, the entrypoint, whose
tasks start them in order. Template names are made from node names and kept apart by numbers.
-/

namespace PipelineManifest

/-- Starts the template of its own name when other tasks are done. -/
structure WorkflowTask where
  name : String
  dependencies : List String
deriving DecidableEq, Repr

/-- The container of a node. -/
structure WorkflowTemplate where
  name : String
  componentType : String
  role : Role
  container : Container
deriving DecidableEq, Repr

structure Workflow where
  /-- The name of the template that holds the tasks. -/
  entrypoint : String
  displayName : String
  root : String
  tasks : List WorkflowTask
  templates : List WorkflowTemplate
deriving DecidableEq, Repr

/-- A task that waits for nothing has no member for it. -/
def WorkflowTask.toJson (task : WorkflowTask) : Json :=
  .record ([("name", .string task.name), ("template", .string task.name)] ++
    if task.dependencies.isEmpty then [] else [("dependencies", .strings task.dependencies)])

def WorkflowTemplate.toJson (template : WorkflowTemplate) : Json :=
  .record [
    ("name", .string template.name),
    ("metadata", .record [("labels", .record [
      ("pipelines.kubeflow.org/component-type", .string template.componentType),
      ("pipelines.kubeflow.org/component-kind", .string template.role.name)])]),
    ("container", template.container.toJson)]

namespace Workflow

/-- The template of the tasks stands before those of the nodes. -/
def toJson (workflow : Workflow) : Json :=
  .record [
    ("apiVersion", .string "argoproj.io/v1alpha1"),
    ("kind", .string "Workflow"),
    ("metadata", .record [
      ("generateName", .string (workflow.entrypoint ++ "-")),
      ("annotations", .record [
        ("pipelines.kubeflow.org/pipeline_spec",
          .string (Json.record [("name", .string workflow.displayName)]).compactText)])]),
    ("spec", .record [
      ("entrypoint", .string workflow.entrypoint),
      ("arguments", .record [("parameters", .array [
        .record [("name", .string "pipeline-root"), ("value", .string workflow.root)]])]),
      ("serviceAccountName", .string "pipeline-runner"),
      ("templates", .array (
        .record [
          ("name", .string workflow.entrypoint),
          ("dag", .record [("tasks", .array (workflow.tasks.map (·.toJson)))])] ::
        workflow.templates.map (·.toJson)))])]

/-- Small letters, digits and hyphens; any other character becomes a hyphen. -/
def templateCharacter (c : Char) : Char := if c.isAlphanum then c.toLower else '-'

def templateName (id : String) : String := .ofList (id.toList.map templateCharacter)

/-- The template names of nodes in order, each different from those before it and from `taken`. -/
def allocate (taken : List String) : List Node → List (String × String)
  | [] => []
  | node :: rest =>
    let name := freshName taken (templateName node.id)
    (node.id, name) :: allocate (name :: taken) rest

/-- The template name of each node. -/
def templateNames (nodes : List Node) (entrypoint : String) : Dictionary String :=
  .ofList (allocate [entrypoint] nodes)

def nameOf (names : Dictionary String) (id : String) : Except CompileError String :=
  match names.find? id with
  | some name => .ok name
  | none => .error (.backend s!"no template for node '{id}'")

def task (names : Dictionary String) (node : Node) : Except CompileError WorkflowTask := do
  let name ← nameOf names node.id
  let dependencies ← node.producerIds.mapM (nameOf names)
  return ⟨name, dependencies⟩

/-- The workflow of a pipeline. A node must not consume from one that is not there. -/
def ofDefinition (definition : Definition) : Except CompileError Workflow := do
  let entrypoint := templateName definition.name
  let names := templateNames definition.nodes entrypoint
  let tasks ← definition.nodes.mapM (task names)
  let templates := (tasks.zip definition.nodes).map fun (task, node) =>
    ⟨task.name, node.componentType, node.role, definition.container node⟩
  return ⟨entrypoint, definition.displayName, definition.root, tasks, templates⟩

end Workflow

end PipelineManifest
