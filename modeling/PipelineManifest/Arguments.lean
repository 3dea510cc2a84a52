/-!
Engine arguments in layers. Each name has a list of values; the names stand in the order of their
first appearance, and no value is dropped when layers are merged. `Arguments.flags` writes one token
for each value.
-/

namespace PipelineManifest

/-- The value of an argument as a document gives it. -/
inductive ArgumentValue
  | single (text : String)
  | several (texts : List String)
deriving DecidableEq, Repr

def ArgumentValue.texts : ArgumentValue → List String
  | .single text => [text]
  | .several texts => texts

/-- One entry of an argument layer. -/
structure NamedArgument where
  name : String
  value : ArgumentValue
deriving DecidableEq, Repr

/-- Argument names with their values, in the order of first appearance. -/
structure Arguments where
  entries : List (String × List String)
  nodup : (entries.map (·.1)).Nodup
deriving DecidableEq

namespace Arguments

/-- Appends values to those of a name; a new name comes last. -/
def appendTo (name : String) (values : List String) :
    List (String × List String) → List (String × List String)
  | [] => [(name, values)]
  | (key, held) :: rest =>
    if key = name then (key, held ++ values) :: rest else (key, held) :: appendTo name values rest

theorem names_appendTo (name : String) (values : List String) :
    ∀ entries : List (String × List String), (appendTo name values entries).map (·.1) =
      if name ∈ entries.map (·.1) then entries.map (·.1) else entries.map (·.1) ++ [name]
  | [] => rfl
  | (key, held) :: rest => by
    have ih := names_appendTo name values rest
    unfold appendTo
    split
    next same => simp [same]
    next other =>
      have : ¬ name = key := fun e => other e.symm
      rw [List.map_cons, ih]
      by_cases member : name ∈ rest.map (·.1)
      · simp only [List.map_cons, List.mem_cons, member, or_true, if_true]
      · simp only [List.map_cons, List.mem_cons, member, this, or_self, if_false, List.cons_append]

def empty : Arguments := ⟨[], .nil⟩

instance : EmptyCollection Arguments := ⟨empty⟩
instance : Inhabited Arguments := ⟨empty⟩

/-- Appends values to those of a name, which is entered even if there are none. -/
def extend (arguments : Arguments) (name : String) (values : List String) : Arguments where
  entries := appendTo name values arguments.entries
  nodup := by
    rw [names_appendTo]
    split
    · exact arguments.nodup
    · next absent =>
      refine List.nodup_append.2 ⟨arguments.nodup, List.nodup_cons.2 ⟨by simp, .nil⟩, ?_⟩
      intro key member other last same
      rw [List.mem_singleton] at last
      exact absent (last ▸ same ▸ member)

def push (arguments : Arguments) (name value : String) : Arguments := arguments.extend name [value]

def insert (arguments : Arguments) (name : String) (value : ArgumentValue) : Arguments :=
  arguments.extend name value.texts

/-- The arguments of one layer. -/
def ofNamed (layer : List NamedArgument) : Arguments :=
  layer.foldl (fun arguments argument => arguments.insert argument.name argument.value) ∅

/-- Enters all values of another layer behind those that are there. -/
def append (arguments layer : Arguments) : Arguments :=
  layer.entries.foldl (fun merged entry => merged.extend entry.1 entry.2) arguments

/-- Merges layers, the first layer first. -/
def merge (layers : List Arguments) : Arguments := layers.foldl append ∅

def find? (arguments : Arguments) (name : String) : Option (List String) :=
  arguments.entries.lookup name

def contains (arguments : Arguments) (name : String) : Bool :=
  arguments.entries.any (·.1 = name)

def names (arguments : Arguments) : List String := arguments.entries.map (·.1)

def isEmpty (arguments : Arguments) : Bool := arguments.entries.isEmpty

/-- The number of values under all names. -/
def valueCount (arguments : Arguments) : Nat :=
  arguments.entries.foldl (fun count entry => count + entry.2.length) 0

def flag (name value : String) : String := "--" ++ name ++ "=" ++ value

/-- One token for each value. -/
def flags (arguments : Arguments) : List String :=
  arguments.entries.flatMap fun (name, values) => values.map (flag name)

/-- Whether two maps hold the same values under the same names, in any order of the names. -/
def sameEntries (first second : Arguments) : Bool :=
  first.entries.length = second.entries.length ∧
    first.entries.all fun (name, values) => second.find? name = some values

end Arguments

end PipelineManifest
