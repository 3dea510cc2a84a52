import PipelineManifest.Error
import PipelineManifest.FreshName
import PipelineManifest.Graph.Catalogue

/-!
The deployment of a trained model. A graph without a deployment node gets a pusher behind its only
producer of a model, gated by its only blessing if there is one; with more than one of either the
graph is ambiguous and refused.
-/

namespace PipelineManifest

/-- The nodes to compile. -/
structure Expansion where
  nodes : List Node
  /-- Whether a deployment node was appended. -/
  expanded : Bool

namespace Graph

/-- The producers of a model, each with the channel of it. -/
def modelProducers (nodes : List Node) : List (Node × Channel) :=
  nodes.filterMap fun node =>
    if node.role = .producer then (node.output? Node.modelOutput).map (node, ·) else none

/-- The nodes of any role that bless a model, each with the channel of the blessing. -/
def blessors (nodes : List Node) : List (Node × Channel) :=
  nodes.filterMap fun node => (node.output? Node.blessingOutput).map (node, ·)

/-- A pusher under a name that no node has. -/
def deployment (nodes : List Node) (model : Channel) (blessing : Option Channel)
    (target : String) : Node :=
  let pusher := Node.pusher model blessing target
  pusher.rename (freshName (nodes.map (·.id)) pusher.id)

/-- Appends a deployment into `target` where one is missing. -/
def expand (nodes : List Node) (target : String) : Except CompileError Expansion :=
  if nodes.any (·.role = .deployment) then .ok ⟨nodes, false⟩
  else match modelProducers nodes with
    | [] => .ok ⟨nodes, false⟩
    | [(_, model)] => match blessors nodes with
      | [] => .ok ⟨nodes ++ [deployment nodes model none target], true⟩
      | [(_, blessing)] => .ok ⟨nodes ++ [deployment nodes model (some blessing) target], true⟩
      | several => .error (.multipleBlessors (several.map (·.1.id)))
    | several => .error (.multipleProducers (several.map (·.1.id)))

end Graph

end PipelineManifest
