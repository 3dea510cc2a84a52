import PipelineManifest.Yaml.Tokens

/-!
The tree that the tokens of a YAML document stand for. `Document.ofText?` reads one document; an
alias in its tree is still a reference, which `Document.target?` looks up.
-/

namespace PipelineManifest

namespace Yaml

/-- What may be written before a node. -/
structure Properties where
  /-- The number of the anchor, in the order in which anchors are named. -/
  anchor : Option Nat
  tag : Option Tag
deriving DecidableEq, Repr

def Properties.none : Properties := ⟨Option.none, Option.none⟩

inductive Tree
  | alias (anchor : Nat)
  | scalar (properties : Properties) (plain : Bool) (text : List Char)
  | sequence (properties : Properties) (items : List Tree)
  | mapping (properties : Properties) (pairs : List (Tree × Tree))
deriving Repr

namespace Tree

/-- A node of which nothing is written. -/
def absent : Tree := .scalar .none true []

def anchor? : Tree → Option Nat
  | .alias _ => none
  | .scalar properties _ _ | .sequence properties _ | .mapping properties _ => properties.anchor

mutual

/-- The scalars and aliases of a tree, and twice its containers. -/
def size : Tree → Nat
  | .alias _ | .scalar .. => 1
  | .sequence _ items => 2 + sizeOfItems items
  | .mapping _ pairs => 2 + sizeOfPairs pairs

def sizeOfItems : List Tree → Nat
  | [] => 0
  | item :: rest => size item + sizeOfItems rest

def sizeOfPairs : List (Tree × Tree) → Nat
  | [] => 0
  | (key, value) :: rest => size key + size value + sizeOfPairs rest

end

mutual

/-- The nodes of a tree in the order in which they begin. -/
def nodes : Tree → List Tree
  | .sequence properties items => .sequence properties items :: nodesOfItems items
  | .mapping properties pairs => .mapping properties pairs :: nodesOfPairs pairs
  | leaf => [leaf]

def nodesOfItems : List Tree → List Tree
  | [] => []
  | item :: rest => nodes item ++ nodesOfItems rest

def nodesOfPairs : List (Tree × Tree) → List Tree
  | [] => []
  | (key, value) :: rest => nodes key ++ nodes value ++ nodesOfPairs rest

end

end Tree

/-! ### Reading nodes -/

/-- Where the reading of a document is. -/
structure TreeReader where
  rest : List Token
  /-- The names of anchors, each with the number that it got last. -/
  anchors : List (List Char × Nat)
  shorthands : List (List Char × Tag)

/-- A step of the reading, which may fail. -/
abbrev Reading := StateT TreeReader Option

namespace Reading

def peek : Reading (Option Token) := do return (← get).rest.head?

def advance : Reading Unit := modify fun reader => { reader with rest := reader.rest.drop 1 }

/-- Goes over a token if it is the next one. -/
def accept (token : Token) : Reading Bool := do
  if (← peek) = some token then
    advance
    return true
  else return false

def expect (token : Token) : Reading Unit := do
  if ← accept token then return () else failure

/-- Whether the next token is one of those that a node cannot begin with in its place. -/
def isNextIn (tokens : List Token) : Reading Bool := do return (← peek).any (· ∈ tokens)

/-- The number of an anchor: how many names there are before it is entered. -/
def nameAnchor (name : List Char) : Reading Nat := do
  let reader ← get
  let number := reader.anchors.length
  set { reader with
    anchors := (name, number) :: reader.anchors.filter (·.1 ≠ name) }
  return number

def anchorNumber (name : List Char) : Reading Nat := do
  ((← get).anchors.lookup name : Option Nat)

/-- The tag of a handle and a suffix, with the handle written out. -/
def wholeTag (handle : List Char) (suffix : Tag) : Reading Tag := do
  if handle.isEmpty then return suffix
  let expansion ← ((← get).shorthands.lookup handle : Option Tag)
  return expansion ++ suffix

def anchor? : Reading (Option Nat) := do
  match ← peek with
  | some (.anchor name) =>
    advance
    return some (← nameAnchor name)
  | _ => return none

def tag? : Reading (Option Tag) := do
  match ← peek with
  | some (.tag handle suffix) =>
    advance
    return some (← wholeTag handle suffix)
  | _ => return none

/-- An anchor and a tag, in any order. -/
def properties : Reading Properties := do
  match ← anchor? with
  | some anchor => return ⟨some anchor, ← tag?⟩
  | none =>
    let tag ← tag?
    return ⟨← anchor?, tag⟩

/-- Reads what may be left out before some tokens. -/
def orAbsent (ends : List Token) (node : Reading Tree) : Reading Tree := do
  if ← isNextIn ends then return .absent else node

/-- A node that has an anchor or a tag and no text. -/
def textless (properties : Properties) : Reading Tree :=
  if properties = .none then failure else return .scalar properties true []

/-- Goes over the mark that closes a flow collection, or over the comma before a further member of
it. A comma may stand before the closing mark too. -/
def closesFlow (close : Token) (first : Bool) : Reading Bool := do
  if ← accept close then return true
  unless first do expect .flowEntry
  accept close

/-- The key of a pair in a flow sequence. A mark that stands where the key should be is passed
over. -/
def keyOfPair (node : Reading Tree) : Reading Tree := do
  if ← isNextIn [.value, .flowEntry, .flowSequenceEnd] then
    advance
    return .absent
  else node

/-- The value of a pair in a flow collection, if a colon stands before it. -/
def flowValue (close : Token) (node : Reading Tree) : Reading Tree := do
  if ← accept .value then orAbsent [.flowEntry, close] node else return .absent

/-- Which nodes may stand in a place. -/
inductive Position
  /-- In a flow collection no block begins. -/
  | flow
  | block
  /-- Below a key, a sequence may begin without being indented. -/
  | belowKey
deriving DecidableEq

mutual

def node : Nat → Position → Reading Tree
  | 0, _ => failure
  | fuel + 1, position => do
    if let some (.alias name) ← peek then
      advance
      return .alias (← anchorNumber name)
    let properties ← properties
    match ← peek, position with
    | some (.scalar plain text), _ =>
      advance
      return .scalar properties plain text
    | some .flowSequenceStart, _ =>
      advance
      return .sequence properties (← flowItems fuel true)
    | some .flowMappingStart, _ =>
      advance
      return .mapping properties (← flowPairs fuel true)
    | some .blockEntry, .belowKey => return .sequence properties (← blockItems fuel)
    | some .blockSequenceStart, .block | some .blockSequenceStart, .belowKey =>
      advance
      let items ← blockItems fuel
      expect .blockEnd
      return .sequence properties items
    | some .blockMappingStart, .block | some .blockMappingStart, .belowKey =>
      advance
      return .mapping properties (← blockPairs fuel)
    | _, _ => textless properties

/-- The items of a block sequence, up to what is no entry. -/
def blockItems : Nat → Reading (List Tree)
  | 0 => failure
  | fuel + 1 => do
    if ← accept .blockEntry then
      let item ← orAbsent [.blockEntry, .key, .value, .blockEnd] (node fuel .block)
      return item :: (← blockItems fuel)
    else return []

/-- The pairs of a block mapping and the end of it. -/
def blockPairs : Nat → Reading (List (Tree × Tree))
  | 0 => failure
  | fuel + 1 => do
    if ← accept .blockEnd then return []
    expect .key
    let key ← orAbsent [.key, .value, .blockEnd] (node fuel .belowKey)
    let value ←
      if ← accept .value then orAbsent [.key, .value, .blockEnd] (node fuel .belowKey)
      else pure .absent
    return (key, value) :: (← blockPairs fuel)

/-- The items of a flow sequence and the end of it. An item that begins with the mark of a key is a
mapping of one pair. -/
def flowItems : Nat → (first : Bool) → Reading (List Tree)
  | 0, _ => failure
  | fuel + 1, first => do
    if ← closesFlow .flowSequenceEnd first then return []
    let item ←
      if ← accept .key then
        let key ← keyOfPair (node fuel .flow)
        let value ← flowValue .flowSequenceEnd (node fuel .flow)
        pure (.mapping .none [(key, value)])
      else node fuel .flow
    return item :: (← flowItems fuel false)

/-- The pairs of a flow mapping and the end of it. -/
def flowPairs : Nat → (first : Bool) → Reading (List (Tree × Tree))
  | 0, _ => failure
  | fuel + 1, first => do
    if ← closesFlow .flowMappingEnd first then return []
    let pair ←
      if ← accept .key then
        let key ← orAbsent [.value, .flowEntry, .flowMappingEnd] (node fuel .flow)
        let value ← flowValue .flowMappingEnd (node fuel .flow)
        pure (key, value)
      else
        let key ← node fuel .flow
        pure (key, .absent)
    return pair :: (← flowPairs fuel false)

end

/-! ### Reading documents -/

/-- The handles that need no directive. -/
def usualShorthands : List (List Char × Tag) :=
  [(['!'], Tag.ofChars ['!']), (['!', '!'], Tag.ofChars "tag:yaml.org,2002:".toList)]

def version? : Token → Option (Nat × Nat)
  | .version major minor => some (major, minor)
  | _ => none

def shorthand? : Token → Option (List Char × Tag)
  | .shorthand handle expansion => some (handle, expansion)
  | _ => none

def isDirective (token : Token) : Bool := (version? token).isSome ∨ (shorthand? token).isSome

/-- The directives before a document: at most one version, which is known, and at most one expansion
for a handle. -/
def directives : Reading Unit := do
  let reader ← get
  let found := reader.rest.takeWhile isDirective
  let versions := found.filterMap version?
  let shorthands := found.filterMap shorthand?
  if versions.length ≤ 1 ∧ (∀ version ∈ versions, version ∈ [(1, 1), (1, 2)]) ∧
      (shorthands.map (·.1)).Nodup then
    set { reader with
      rest := reader.rest.dropWhile isDirective
      shorthands := shorthands ++ usualShorthands }
  else failure

/-- The tree of a document. A document whose start is marked may be empty. -/
def document (fuel : Nat) : Reading Tree := do
  if (← peek).any fun token => isDirective token ∨ token = .documentStart then
    directives
    expect .documentStart
    if (← peek).all fun token => isDirective token ∨ token ∈ [.documentStart, .documentEnd] then
      return .absent
  node fuel .block

end Reading

/-- One document. Without any token it has no tree at all. -/
structure Document where
  root : Option Tree

namespace Document

/-- The document of a list of tokens. Nothing but end marks may follow its tree. Each token is
behind at most two steps of the reading. -/
def ofTokens? : List Token → Option Document
  | [] => some ⟨none⟩
  | tokens => do
    let start : TreeReader := ⟨tokens, [], Reading.usualShorthands⟩
    let (tree, reader) ← (Reading.document (2 * tokens.length + 2)).run start
    if reader.rest.all (· = .documentEnd) then return ⟨some tree⟩ else none

def ofText? (text : List Char) : Option Document := do ofTokens? (← tokens text)

/-- The nodes that aliases can name. -/
def anchored (document : Document) : List Tree :=
  document.root.elim [] fun tree => tree.nodes.filter (·.anchor?.isSome)

/-- How often a reader may follow an alias before the document counts as endless. -/
def aliasLimit (document : Document) : Nat := 100 * document.root.elim 1 Tree.size

end Document

end Yaml

end PipelineManifest
