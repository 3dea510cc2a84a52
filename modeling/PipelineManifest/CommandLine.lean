import PipelineManifest.Compilation

/-!
The command line: what its arguments ask for (`CommandLine.parse`), and what the program answers
(`CommandLine.run`).
-/

namespace PipelineManifest

namespace CommandLine

/-- What the arguments ask for. -/
inductive Command
  | compile (compilation : Compilation)
  | help
  | version
  /-- The arguments cannot be understood. -/
  | misuse
deriving DecidableEq, Repr

/-- A reading of arguments in order. It may end with a command before the last of them. -/
abbrev Parsing := Except Command

/-! ### Flags -/

/-- A flag, which is given once at most. -/
def verboseFlag (given : Bool) : Parsing Bool := if given then throw .misuse else return true

/-- Flags of one letter. Only ahead of the command does the program tell its version. -/
def shortFlags (ahead : Bool) (verbose : Bool) : List Char → Parsing Bool
  | [] => return verbose
  | 'v' :: rest => do shortFlags ahead (← verboseFlag verbose) rest
  | 'h' :: _ => throw .help
  | 'V' :: _ => throw (if ahead then .version else .misuse)
  | _ => throw .misuse

/-- An argument that is a flag or several of them. -/
def flags (ahead : Bool) (verbose : Bool) (argument : String) : Parsing Bool :=
  match argument.toList with
  | '-' :: '-' :: _ =>
    if argument = "--verbose" then verboseFlag verbose
    else if argument = "--help" then throw .help
    else throw (if argument = "--version" ∧ ahead then .version else .misuse)
  | '-' :: letter :: rest => shortFlags ahead verbose (letter :: rest)
  | _ => throw .misuse

/-! ### The compile command -/

/-- The options that have a value. -/
inductive OptionName
  | pipelineConfig
  | providerConfig
  | executionMode
  | outputFile
deriving DecidableEq, Repr

def OptionName.text : OptionName → String
  | .pipelineConfig => "pipeline_config"
  | .providerConfig => "provider_config"
  | .executionMode => "execution_mode"
  | .outputFile => "output_file"

def OptionName.all : List OptionName :=
  [.pipelineConfig, .providerConfig, .executionMode, .outputFile]

/-- The option of an argument, with its value if an equals sign stands before one. -/
def option? (argument : String) : Option (OptionName × Option String) :=
  match argument.toList with
  | '-' :: '-' :: rest => do
    let name := String.ofList (rest.takeWhile (· ≠ '='))
    let value := match rest.dropWhile (· ≠ '=') with
      | _ :: value => some (String.ofList value)
      | [] => none
    return (← OptionName.all.find? (·.text = name), value)
  | _ => none

structure Given where
  verbose : Bool
  options : List (OptionName × String)

/-- A mode must be known, and a path must not be empty. -/
def isAcceptable : OptionName → String → Bool
  | .executionMode, value => (ExecutionMode.ofName value).isOk
  | _, value => value ≠ ""

/-- Enters an option, which is given once at most. -/
def Given.enter (given : Given) (name : OptionName) (value : String) : Parsing Given :=
  if given.options.any (·.1 = name) ∨ ¬ isAcceptable name value then throw .misuse
  else return { given with options := (name, value) :: given.options }

/-- Whether an argument can be the value of the option before it. -/
def isValue (argument : String) : Bool :=
  argument.toList.head? ≠ some '-' ∨ argument = "-"

def compileArguments (given : Given) : List String → Parsing Given
  | [] => return given
  | ["--"] => return given
  | argument :: rest =>
    match option? argument, rest with
    | some (name, some value), rest => do compileArguments (← given.enter name value) rest
    | some (name, none), value :: rest => do
      if ¬ isValue value then throw .misuse
      compileArguments (← given.enter name value) rest
    | some (_, none), [] => throw .misuse
    | none, rest => do
      let verbose ← flags false given.verbose argument
      compileArguments { given with verbose } rest

def compileCommand (arguments : List String) : Parsing Command := do
  let given ← compileArguments ⟨false, []⟩ arguments
  match given.options.lookup .pipelineConfig, given.options.lookup .outputFile with
  | some pipelinePath, some outputPath => return .compile {
      pipelinePath
      providerPath := given.options.lookup .providerConfig
      outputPath
      executionMode := (given.options.lookup .executionMode).bind fun name =>
        (ExecutionMode.ofName name).toOption }
  | _, _ => throw .misuse

/-! ### Commands -/

/-- Help can be asked for about a command. -/
def helpCommand : List String → Parsing Command
  | [] | ["compile"] | ["help"] => return .help
  | _ => throw .misuse

/-- The arguments up to the name of the command are flags. -/
def arguments (verbose : Bool) : List String → Parsing Command
  | [] => throw .misuse
  | argument :: rest =>
    if argument = "compile" then compileCommand rest
    else if argument = "help" then helpCommand rest
    else do arguments (← flags true verbose argument) rest

def parse (line : List String) : Command :=
  match arguments false line with
  | .ok command | .error command => command

/-! ### Running -/

/-- What the program leaves behind besides files. -/
structure Outcome where
  code : UInt32
  /-- The text on standard output. -/
  output : String
  /-- The text on standard error. -/
  diagnostics : String
deriving DecidableEq, Repr

def versionText : String := "pipelinec 0.1.0\n"

def usage : String :=
  "Usage: pipelinec [--verbose] compile --pipeline_config <FILE> [--provider_config <FILE>] " ++
    "[--execution_mode <v1|v2>] --output_file <FILE>\n"

/-- An error with the cause below it. -/
def describe (error : CompileError) : String :=
  match error.cause? with
  | some cause => error.message ++ ": " ++ cause
  | none => error.message

/-- The answer to a compilation that fails. A variable that cannot be set ends the program at
once. -/
def failure (compilation : Compilation) (error : CompileError) : Outcome :=
  match error with
  | .variableRejected _ => ⟨101, "", error.message ++ "\n"⟩
  | _ => ⟨1, "",
      s!"Compilation failed: compiling {compilation.pipelinePath}: {describe error}\n"⟩

def run (registry : Registry) (line : List String) (workspace : Workspace) : Workspace × Outcome :=
  match parse line with
  | .help => (workspace, ⟨0, usage, ""⟩)
  | .version => (workspace, ⟨0, versionText, ""⟩)
  | .misuse => (workspace, ⟨2, "", usage⟩)
  | .compile compilation => match compilation.run registry none workspace with
    | (left, .ok _) => (left, ⟨0, "", ""⟩)
    | (left, .error error) => (left, failure compilation error)

end CommandLine

end PipelineManifest
