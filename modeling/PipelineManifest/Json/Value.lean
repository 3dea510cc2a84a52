import PipelineManifest.Decimal.Binary64
import PipelineManifest.Dictionary

/-!
JSON values. An object is a list of members in the order in which it is written; `Json.record` lists
them by name, as the documents of this library do.
-/

namespace PipelineManifest

/-- A JSON value. Whole numbers and finite floating-point numbers are kept apart. -/
inductive Json
  | null
  | bool (value : Bool)
  | int (value : Int)
  | float (value : Binary64)
  | string (text : String)
  | array (items : List Json)
  | object (members : List (String × Json))
deriving Inhabited, Repr

namespace Json

def ofDictionary (members : Dictionary Json) : Json := .object members.entries

/-- An object with its members listed by name. -/
def record (members : List (String × Json)) : Json := ofDictionary (.ofList members)

def strings (texts : List String) : Json := .array (texts.map .string)

/-- The member of an object. -/
def member? (name : String) : Json → Option Json
  | .object members => members.lookup name
  | _ => none

/-! ### Equality -/

mutual

/-- Whether two values are equal; members must be listed in the same order. -/
def same : Json → Json → Bool
  | .null, .null => true
  | .bool first, .bool second => first = second
  | .int first, .int second => first = second
  | .float first, .float second => first = second
  | .string first, .string second => first = second
  | .array first, .array second => sameItems first second
  | .object first, .object second => sameMembers first second
  | _, _ => false

def sameItems : List Json → List Json → Bool
  | [], [] => true
  | first :: rest, second :: others => same first second && sameItems rest others
  | _, _ => false

def sameMembers : List (String × Json) → List (String × Json) → Bool
  | [], [] => true
  | (name, first) :: rest, (other, second) :: others =>
    name = other && same first second && sameMembers rest others
  | _, _ => false

end

mutual

theorem same_iff : ∀ first second : Json, same first second = true ↔ first = second
  | .array first, second => by
    cases second <;> simp [same, sameItems_iff first]
  | .object first, second => by
    cases second <;> simp [same, sameMembers_iff first]
  | .null, second | .bool _, second | .int _, second | .float _, second | .string _, second => by
    cases second <;> simp [same]

theorem sameItems_iff : ∀ first second : List Json, sameItems first second = true ↔ first = second
  | [], second => by cases second <;> simp [sameItems]
  | item :: rest, second => by
    cases second <;> simp [sameItems, same_iff item, sameItems_iff rest]

theorem sameMembers_iff : ∀ first second : List (String × Json),
    sameMembers first second = true ↔ first = second
  | [], second => by cases second <;> simp [sameMembers]
  | (name, value) :: rest, second => by
    cases second with
    | nil => simp [sameMembers]
    | cons entry others =>
      simp [sameMembers, same_iff value, sameMembers_iff rest, Prod.ext_iff, and_assoc]

end

instance : DecidableEq Json := fun first second => decidable_of_iff _ (same_iff first second)

end Json

end PipelineManifest
