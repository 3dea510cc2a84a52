/-!
Environment variables. `Guard.apply` sets the variables of a list and remembers what they were, and
`Guard.restore` sets them back.
-/

namespace PipelineManifest

/-- An environment, given by the value of each variable that is set. -/
structure Environment where
  get? : String → Option String

/-- An environment variable with a value to set. -/
structure Variable where
  name : String
  value : String
deriving DecidableEq, Repr

/-- Whether a variable can have a name: one that is not empty and holds no equals sign and no NUL.
-/
def Variable.isName (name : String) : Bool :=
  name ≠ "" ∧ ¬ name.toList.contains '=' ∧ ¬ name.toList.contains '\x00'

/-- A variable can be set if it can have its name and its value holds no NUL. -/
def Variable.isValid (entry : Variable) : Bool :=
  isName entry.name ∧ ¬ entry.value.toList.contains '\x00'

namespace Environment

def empty : Environment := ⟨fun _ => none⟩

/-- Sets a variable, or removes it if there is no value. -/
def put (environment : Environment) (name : String) (value : Option String) : Environment :=
  ⟨fun other => if other = name then value else environment.get? other⟩

@[simp] theorem get?_put (environment : Environment) (name other : String)
    (value : Option String) :
    (environment.put name value).get? other =
      if other = name then value else environment.get? other := rfl

/-- What a program is told that asks for a name. A variable is kept as one text, its name and its
value with an equals sign between them, so the name asked for ends before an equals sign of that
text, which need not be the first. -/
def lookUp (environment : Environment) (name : String) : Option String :=
  match name.toList.dropWhile (· ≠ '=') with
  | [] => environment.get? name
  | _ :: start => do
    let value ← environment.get? (.ofList (name.toList.takeWhile (· ≠ '=')))
    return .ofList (← (start ++ ['=']).isPrefixOf? value.toList)

example : (empty.put "A" (some "b=c=d")).lookUp "A" = some "b=c=d" := by decide +kernel
example : (empty.put "A" (some "b=c=d")).lookUp "A=b" = some "c=d" := by decide +kernel
example : (empty.put "A" (some "b=c=d")).lookUp "A=c" = none := by decide +kernel

end Environment

/-- What runs in an environment and can change it, one variable at a time. -/
class HasEnvironment (σ : Type) where
  environment : σ → Environment
  put : σ → String → Option String → σ
  environment_put : ∀ state name value,
    environment (put state name value) = (environment state).put name value

attribute [simp] HasEnvironment.environment_put

instance : HasEnvironment Environment := ⟨id, Environment.put, fun _ _ _ => rfl⟩

/-- What the variables of a list were before they were set, each listed once. -/
structure Guard where
  previous : List (String × Option String)
deriving DecidableEq, Repr

namespace Guard

/-- Remembers a variable unless it is remembered already. -/
def remember (guard : Guard) (environment : Environment) (name : String) : Guard :=
  if guard.previous.any (·.1 = name) then guard
  else ⟨guard.previous ++ [(name, environment.get? name)]⟩

section

open HasEnvironment

variable {σ : Type} [HasEnvironment σ]

/-- Sets variables in order and remembers what they were. A variable that cannot be set ends the
walk without a guard, and those before it stay set. -/
def applyFrom (guard : Guard) : List Variable → σ → σ × Except Variable Guard
  | [], state => (state, .ok guard)
  | entry :: rest, state =>
    if entry.isValid then
      applyFrom (guard.remember (environment state) entry.name) rest
        (put state entry.name (some entry.value))
    else (state, .error entry)

def apply (entries : List Variable) (state : σ) : σ × Except Variable Guard :=
  applyFrom ⟨[]⟩ entries state

def restore (guard : Guard) (state : σ) : σ :=
  guard.previous.foldl (fun state saved => put state saved.1 saved.2) state

end

end Guard

end PipelineManifest
