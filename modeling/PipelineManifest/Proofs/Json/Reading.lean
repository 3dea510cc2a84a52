import PipelineManifest.Json.Value
import PipelineManifest.Proofs.Sequence

/-!
# Reading documents

What a document says is read off it member by member, whatever else it holds. A reader is a function
that looks at one value; `Json.list?` and `Json.table?` apply it to the items of an array and to the
members of an object, and `Json.at?` follows the names of members to a value further in.

Results:
1. `member?_record`: the members of a record are those that it is made from.
2. `list?_array`, `table?_ofDictionary`: what is written item by item is read item by item.
-/

namespace PipelineManifest

namespace Json

variable {α β : Type}

/-! ## Readers -/

def text? : Json → Option String
  | .string text => some text
  | _ => none

/-- The items of an array, each as it is read. -/
def list? (read : Json → Option β) : Json → Option (List β)
  | .array items => items.mapM read
  | _ => none

/-- The members of an object by name, each as it is read. -/
def table? (read : Json → Option β) : Json → Option (List (String × β))
  | .object members => members.mapM fun (name, value) => (read value).map (name, ·)
  | _ => none

/-- The names of the members of an object. -/
def names? : Json → Option (List String)
  | .object members => some (members.map (·.1))
  | _ => none

/-- What is read at the end of a path of members. -/
def at? : List String → (Json → Option β) → Json → Option β
  | [], read, value => read value
  | name :: path, read, value => (value.member? name).bind (at? path read)

/-! ## What is read from what is written -/

@[simp] theorem text?_string (text : String) : text? (.string text) = some text := rfl

@[simp] theorem at?_nil (read : Json → Option β) (value : Json) : at? [] read value = read value :=
  rfl

@[simp] theorem at?_cons (name : String) (path : List String) (read : Json → Option β)
    (value : Json) : at? (name :: path) read value = (value.member? name).bind (at? path read) :=
  rfl

@[simp] theorem member?_record (members : List (String × Json)) (name : String) :
    (record members).member? name = Dictionary.lastValue? members name :=
  Dictionary.find?_ofList members name

theorem list?_array {read : Json → Option β} {write : α → Json} {seen : α → β}
    (each : ∀ item, read (write item) = some (seen item)) (items : List α) :
    list? read (.array (items.map write)) = some (items.map seen) := by
  rw [list?, List.mapM_map]
  exact Sequence.mapM_eq_pure_map fun item _ => each item

@[simp] theorem list?_strings (texts : List String) :
    list? text? (strings texts) = some texts := by
  rw [strings, list?_array text?_string, List.map_id']

theorem table?_ofDictionary {read : Json → Option β} {write : α → Json} {seen : α → β}
    (each : ∀ value, read (write value) = some (seen value)) (map : Dictionary α) :
    table? read (.ofDictionary (map.mapValues fun _ value => write value)) =
      some (map.mapValues fun _ value => seen value).entries := by
  rw [ofDictionary, table?, Dictionary.mapValues, List.mapM_map]
  refine Sequence.mapM_eq_pure_map fun entry _ => ?_
  simp [each]

@[simp] theorem names?_ofDictionary (map : Dictionary Json) :
    names? (.ofDictionary map) = some map.keys := rfl

end Json

end PipelineManifest
