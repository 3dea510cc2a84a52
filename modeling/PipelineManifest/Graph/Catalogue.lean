import PipelineManifest.Graph.Node

/-!
The standard components of a training pipeline: examples, trainer, evaluator and pusher.
-/

namespace PipelineManifest

namespace Node

def examplesOutput : String := "examples"
def modelOutput : String := "model"
def blessingOutput : String := "blessing"
def pushedModelOutput : String := "pushed_model"

/-- The input under which a pusher takes a blessing. -/
def modelBlessingInput : String := "model_blessing"

/-- Reads the CSV files of a directory and emits examples. -/
def csvExampleGen (inputBase : String) : Node :=
  ofType "CsvExampleGen" .other
    |>.setParameter "input_base" (.string inputBase)
    |>.declare examplesOutput "Examples"

def stepCount (steps : Nat) : Json := .record [("num_steps", .int steps)]

/-- Trains a model by the function named `runFn`. -/
def trainer (examples : Channel) (runFn : String) (trainSteps evalSteps : Nat) : Node :=
  ofType "Trainer" .producer
    |>.consume examplesOutput examples
    |>.setParameter "run_fn" (.string runFn)
    |>.setParameter "train_args" (stepCount trainSteps)
    |>.setParameter "eval_args" (stepCount evalSteps)
    |>.declare modelOutput "Model"

/-- Judges a model by examples and blesses it if it passes. -/
def evaluator (examples model : Channel) : Node :=
  ofType "Evaluator" .evaluator
    |>.consume examplesOutput examples
    |>.consume modelOutput model
    |>.declare "evaluation" "ModelEvaluation"
    |>.declare blessingOutput "ModelBlessing"

def consumeBlessing (node : Node) : Option Channel → Node
  | some blessing => node.consume modelBlessingInput blessing
  | none => node

/-- Copies a model into a directory, once it is blessed if there is a blessing to wait for. -/
def pusher (model : Channel) (blessing : Option Channel) (baseDirectory : String) : Node :=
  ofType "Pusher" .deployment
    |>.consume modelOutput model
    |>.consumeBlessing blessing
    |>.setParameter "push_destination"
      (.record [("filesystem", .record [("base_directory", .string baseDirectory)])])
    |>.declare pushedModelOutput "PushedModel"

end Node

end PipelineManifest
