import PipelineManifest.Graph.Catalogue
import PipelineManifest.Registry

/-!
The pipelines that come with the compiler. They read CSV files and train a penguin classifier; the
node that deploys its model is left to graph expansion.
-/

namespace PipelineManifest

namespace Quickstart

def dataRootVariable : String := "PENGUIN_DATA_ROOT"

def defaultDataRoot : String := "/data"

def runFn : String := "penguin_pipeline.trainer.run_fn"

/-- The channel of an output that a node is known to declare. -/
def output (node : Node) (name : String) : Except String Channel :=
  match node.output? name with
  | some channel => .ok channel
  | none => .error s!"{node.id} has no '{name}' output"

/-- Examples and a trainer. -/
def components : GraphFunction := fun environment => do
  let dataRoot := (environment.get? dataRootVariable).getD defaultDataRoot
  let exampleGen := Node.csvExampleGen dataRoot
  let trainer := Node.trainer (← output exampleGen Node.examplesOutput) runFn 100 5
  return [exampleGen, trainer]

/-- Examples, a trainer and an evaluator, so that the model is deployed only if it is blessed. -/
def evaluatedComponents : GraphFunction := fun environment => do
  let dataRoot := (environment.get? dataRootVariable).getD defaultDataRoot
  let exampleGen := Node.csvExampleGen dataRoot
  let trainer := Node.trainer (← output exampleGen Node.examplesOutput) runFn 100 5
  let evaluator := Node.evaluator (← output exampleGen Node.examplesOutput)
    (← output trainer Node.modelOutput)
  return [exampleGen, trainer, evaluator]

def modulePath : String := "penguin_pipeline.pipeline"

def registry : Registry :=
  Registry.empty
    |>.register modulePath "create_components" components
    |>.register modulePath "create_evaluated_components" evaluatedComponents

end Quickstart

end PipelineManifest
