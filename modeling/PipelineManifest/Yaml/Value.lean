import PipelineManifest.Json.Value
import PipelineManifest.Yaml.Resolution
import PipelineManifest.Yaml.Tree

/-!
Values of YAML documents. Reading a value follows aliases, but no more often than the document
allows (`Document.aliasLimit`), and nests containers no deeper than its limit.
-/

namespace PipelineManifest

namespace Yaml

/-- A value of a document. Keys are texts; the same key may occur more than once. -/
inductive Value
  | null
  | bool (value : Bool)
  | int (value : Int)
  | float (value : Binary64)
  | text (value : String)
  | sequence (items : List Value)
  | mapping (pairs : List (String × Value))
deriving Repr

/-! ### Scalars -/

/-- Whole numbers of more than 64 bits are refused. -/
def Value.ofInt? (n : Int) : Option Value :=
  if -Nat.pow 2 63 ≤ n ∧ n < Nat.pow 2 64 then some (.int n) else none

/-- The value of a plain scalar. -/
def Value.ofPlain? (text : List Char) : Option Value :=
  if text.isEmpty ∨ isNull text then some .null
  else if let some value := bool? text then some (.bool value)
  else if let some n := int? text then Value.ofInt? n
  else match if isSignedPadded text then none else float? text with
    | some x => some (.float x)
    | none => some (.text (.ofList text))

/-- A tag of the names that all documents share. -/
def coreTag (name : String) : Tag := Tag.ofChars ("tag:yaml.org,2002:" ++ name).toList

/-- The byte that the tags of a document's own begin with. -/
def exclamation : UInt8 := 33

/-- A tag of a document's own, which no value is read from. Bytes that are no text make no tag. -/
def isLocalTag (tag : Tag) : Bool :=
  tag.head? = some exclamation ∧ (String.fromUTF8? ⟨tag.toArray⟩).isSome

/-- The tag that a reader of the node has to heed, if it can be read at all. -/
def heededTag? (properties : Properties) : Option (Option Tag) :=
  match properties.tag with
  | none => some none
  | some tag =>
    if isLocalTag tag then none else some (if tag.head? = some exclamation then none else some tag)

/-- The value of a scalar. A tag of the shared names says what its text must be read as, and with
any other the text is the value. -/
def Value.ofScalar? (properties : Properties) (plain : Bool) (text : List Char) : Option Value := do
  match ← heededTag? properties with
  | none => if plain then Value.ofPlain? text else return .text (.ofList text)
  | some tag =>
    if tag = coreTag "bool" then (bool? text).map .bool
    else if tag = coreTag "int" then (int? text).bind Value.ofInt?
    else if tag = coreTag "float" then (float? text).map .float
    else if tag = coreTag "null" then if isNull text then return .null else none
    else return .text (.ofList text)

/-! ### Documents -/

/-- What aliases stand for, the node read last first, and how many more may be followed. -/
structure Aliases where
  targets : List Tree
  left : Nat

/-- A reading that follows aliases. -/
abbrev Decoding := StateT Aliases Option

namespace Decoding

/-- The node that an alias stands for, or the node itself. -/
def follow : Tree → Decoding Tree
  | .alias anchor => do
    let aliases ← get
    match aliases.left with
    | 0 => failure
    | left + 1 =>
      set { aliases with left }
      aliases.targets.find? (·.anchor? = some anchor)
  | tree => return tree

/-- The text of a scalar as it is written. -/
def rawText (tree : Tree) : Decoding String := do
  match ← follow tree with
  | .scalar _ _ text => return .ofList text
  | _ => failure

/-- Refuses a container with a tag of the document's own. -/
def checkTag (properties : Properties) : Decoding Unit := do
  let _ ← (heededTag? properties : Option (Option Tag))

/-- The value of a node below which containers are nested at most `depth` deep. -/
def value : (depth : Nat) → Tree → Decoding Value
  | depth, tree => do
    match depth, ← follow tree with
    | _, .scalar properties plain text => (Value.ofScalar? properties plain text : Option Value)
    | depth + 1, .sequence properties items =>
      checkTag properties
      return .sequence (← items.mapM (value depth))
    | depth + 1, .mapping properties pairs =>
      checkTag properties
      return .mapping (← pairs.mapM fun (key, item) => do
        return (← rawText key, ← value depth item))
    | _, _ => failure

end Decoding

/-- How deep containers are nested at most. -/
def depthLimit : Nat := 128

/-- Reads a document. -/
def Document.decode {α : Type} (document : Document) (decoding : Option Tree → Decoding α) :
    Option α :=
  (decoding document.root).run' ⟨document.anchored.reverse, document.aliasLimit⟩

/-- The value of a text. Nothing at all stands for null. -/
def Value.ofText? (text : List Char) : Option Value := do
  (← Document.ofText? text).decode fun root => match root with
    | none => return .null
    | some tree => Decoding.value depthLimit tree

/-! ### JSON -/

mutual

/-- A later pair of a key replaces an earlier one, and what is no finite number becomes null. -/
def Value.toJson : Value → Json
  | .null => .null
  | .bool value => .bool value
  | .int n => .int n
  | .float x => if x.isFinite then .float x else .null
  | .text content => .string content
  | .sequence items => .array (itemsToJson items)
  | .mapping pairs => .record (pairsToJson pairs)

def Value.itemsToJson : List Value → List Json
  | [] => []
  | item :: rest => item.toJson :: itemsToJson rest

def Value.pairsToJson : List (String × Value) → List (String × Json)
  | [] => []
  | (key, item) :: rest => (key, item.toJson) :: pairsToJson rest

end

/-- The JSON value of YAML text. -/
def readJson (text : String) : Option Json := (Value.ofText? text.toList).map Value.toJson

end Yaml

end PipelineManifest
