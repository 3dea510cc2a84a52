import PipelineManifest.Manifest.Document
import PipelineManifest.Proofs.Json.RoundTrip

/-!
# Manifests are made of text

Nodes may have parameters of any kind, but a manifest has them as text only. Whatever a pipeline is,
its manifests are objects, arrays and text, and they nest them no deeper than any other's.

Results:
1. `textual_record`, `textual_array`, `textual_ofDictionary`: containers of text.
2. `Workflow.textual_toJson`, `PipelineSpec.textual_toJson`: the two manifests.
3. `Backend.textual_of_build`: all that a backend builds.
-/

namespace PipelineManifest

/-! ## Containers of text -/

namespace Json

section

variable {α : Type} {depth : Nat} {write : α → Json}

theorem textual_array (each : ∀ item, Textual depth (write item)) (items : List α) :
    Textual (depth + 1) (.array (items.map write)) :=
  .array (List.forall_mem_map.2 fun item _ => each item)

theorem textual_strings (depth : Nat) (texts : List String) :
    Textual (depth + 1) (strings texts) :=
  textual_array .string texts

theorem textual_ofDictionary (each : ∀ value, Textual depth (write value)) (map : Dictionary α) :
    Textual (depth + 1) (.ofDictionary (map.mapValues fun _ value => write value)) := by
  refine .object fun value member => ?_
  rw [Dictionary.values, Dictionary.entries_mapValues, List.map_map] at member
  obtain ⟨entry, _, rfl⟩ := List.mem_map.1 member
  exact each entry.2

/-- The members of an object, each of them textual. -/
def TextualMembers (depth : Nat) (members : List (String × Json)) : Prop :=
  ∀ entry ∈ members, Textual depth entry.2

theorem TextualMembers.nil : TextualMembers depth [] := fun _ none => nomatch none

theorem TextualMembers.cons {name : String} {value : Json} {members : List (String × Json)}
    (textual : Textual depth value) (others : TextualMembers depth members) :
    TextualMembers depth ((name, value) :: members) :=
  List.forall_mem_cons.2 ⟨textual, others⟩

theorem textual_record {members : List (String × Json)} (each : TextualMembers depth members) :
    Textual (depth + 1) (.record members) := by
  refine .object fun value member => ?_
  obtain ⟨name, bound⟩ := Dictionary.exists_binding_of_mem_values member
  exact each (name, value) bound

end

end Json

open Json

/-! ## Workflows -/

theorem Container.textual_toJson (depth : Nat) (container : Container) :
    Textual (depth + 2) container.toJson :=
  textual_record
    (.cons (.string _) (.cons (textual_strings _ _) (.cons (textual_strings _ _) .nil)))

theorem WorkflowTask.textual_toJson (depth : Nat) (task : WorkflowTask) :
    Textual (depth + 2) task.toJson := by
  refine textual_record (.cons (.string _) (.cons (.string _) ?_))
  split
  · exact .nil
  · exact .cons (textual_strings _ _) .nil

theorem WorkflowTemplate.textual_toJson (depth : Nat) (template : WorkflowTemplate) :
    Textual (depth + 3) template.toJson := by
  refine textual_record (.cons (.string _) (.cons ?metadata (.cons ?container .nil)))
  case metadata =>
    exact textual_record (.cons (textual_record (.cons (.string _) (.cons (.string _) .nil))) .nil)
  case container => exact Container.textual_toJson _ template.container

theorem Workflow.textual_toJson (depth : Nat) (workflow : Workflow) :
    Textual (depth + 8) workflow.toJson := by
  refine textual_record (.cons (.string _) (.cons (.string _) (.cons ?metadata (.cons ?spec .nil))))
  case metadata =>
    exact textual_record (.cons (.string _) (.cons (textual_record (.cons (.string _) .nil)) .nil))
  case spec =>
    refine textual_record (.cons (.string _) (.cons ?parameters (.cons (.string _)
      (.cons (.array (List.forall_mem_cons.2 ⟨?tasks, ?templates⟩)) .nil))))
    case parameters =>
      refine textual_record (.cons (.array (List.forall_mem_singleton.2 ?_)) .nil)
      exact textual_record (.cons (.string _) (.cons (.string _) .nil))
    case tasks =>
      refine textual_record (.cons (.string _) (.cons (textual_record (.cons ?_ .nil)) .nil))
      exact textual_array (WorkflowTask.textual_toJson depth) workflow.tasks
    case templates =>
      exact List.forall_mem_map.2 fun template _ => WorkflowTemplate.textual_toJson _ template

/-! ## Specifications -/

theorem textual_artifactTypes (depth : Nat) (types : Dictionary String) :
    Textual (depth + 3) (artifactTypes types) :=
  textual_ofDictionary (fun _ => textual_record (.cons
    (textual_record (.cons (.string _) .nil)) .nil)) types

theorem SpecComponent.textual_toJson (depth : Nat) (component : SpecComponent) :
    Textual (depth + 5) component.toJson := by
  refine textual_record (.cons (.string _) (.cons ?inputs (.cons ?outputs .nil)))
  case inputs =>
    refine textual_record (.cons (textual_artifactTypes _ _) (.cons ?_ .nil))
    exact textual_ofDictionary (fun _ => textual_record (.cons (.string _) .nil)) _
  case outputs => exact textual_record (.cons (textual_artifactTypes _ _) .nil)

theorem TaskOutput.textual_toJson (depth : Nat) (output : TaskOutput) :
    Textual (depth + 2) output.toJson :=
  textual_record (.cons (textual_record (.cons (.string _) (.cons (.string _) .nil))) .nil)

theorem SpecTask.textual_toJson (depth : Nat) (task : SpecTask) :
    Textual (depth + 6) task.toJson := by
  refine textual_record (.cons ?info (.cons ?component (.cons (textual_strings _ _)
    (.cons (textual_record (.cons ?artifacts (.cons ?parameters .nil))) .nil))))
  case info => exact textual_record (.cons (.string _) .nil)
  case component => exact textual_record (.cons (.string _) .nil)
  case artifacts => exact textual_ofDictionary (TaskOutput.textual_toJson _) task.artifacts
  case parameters =>
    exact textual_ofDictionary (fun _ => textual_record (.cons (textual_record (.cons
      (textual_record (.cons (.string _) .nil)) .nil)) .nil)) task.parameters

theorem PipelineSpec.textual_toJson (depth : Nat) (spec : PipelineSpec) :
    Textual (depth + 10) spec.toJson := by
  refine textual_record (.cons ?info (.cons (.string _) (.cons (.string _) (.cons (.string _)
    (.cons ?components (.cons ?deployment (.cons ?root .nil)))))))
  case info => exact textual_record (.cons (.string _) .nil)
  case components => exact textual_ofDictionary (SpecComponent.textual_toJson _) spec.components
  case deployment =>
    refine textual_record (.cons (textual_ofDictionary (fun container => ?_) spec.executors) .nil)
    exact textual_record (.cons (Container.textual_toJson _ container) .nil)
  case root =>
    refine textual_record (.cons (textual_record (.cons ?_ .nil)) .nil)
    exact textual_ofDictionary (SpecTask.textual_toJson depth) spec.tasks

/-! ## Manifests -/

theorem Backend.build_v1_eq_ok {definition : Definition} {manifest : Json}
    (built : build .v1 definition = .ok manifest) :
    ∃ workflow, Workflow.ofDefinition definition = .ok workflow ∧ manifest = workflow.toJson := by
  rw [build] at built
  cases outlined : Workflow.ofDefinition definition with
  | error error =>
    rw [outlined] at built
    cases built
  | ok workflow =>
    rw [outlined] at built
    cases built
    exact ⟨workflow, rfl, rfl⟩

theorem Backend.textual_of_build {mode : ExecutionMode} {definition : Definition} {manifest : Json}
    (built : build mode definition = .ok manifest) (depth : Nat) :
    Textual (depth + 10) manifest := by
  cases mode with
  | v1 =>
    obtain ⟨workflow, _, rfl⟩ := build_v1_eq_ok built
    exact workflow.textual_toJson (depth + 2)
  | v2 =>
    cases built
    exact PipelineSpec.textual_toJson depth _

theorem Manifest.textual_job {depth : Nat} {specification : Json}
    (textual : Textual (depth + 1) specification) (displayName : String) :
    Textual (depth + 2) (job specification displayName) := by
  have empty : Textual (depth + 1) (.record []) := textual_record .nil
  exact textual_record (.cons (.string _) (.cons empty (.cons textual (.cons empty .nil))))

end PipelineManifest
