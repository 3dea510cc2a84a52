import PipelineManifest.Graph.Node

/-!
The order in which the nodes of a graph can run. `Graph.order` checks that names are unique and that
every channel leads to a declared output, and then lists each node behind the nodes that it consumes
from, or names a node on a cycle.
-/

namespace PipelineManifest

/-- Why the nodes of a graph cannot be put in order. -/
inductive GraphError
  | duplicateId (id : String)
  | unknownProducer (node input producer : String)
  | unknownOutput (node input producer output : String)
  | circularDependency (id : String)
deriving DecidableEq, Repr

def GraphError.message : GraphError → String
  | .duplicateId id => s!"Duplicate node id: '{id}'"
  | .unknownProducer node input producer =>
    s!"Node '{node}' input '{input}' references unknown node '{producer}'"
  | .unknownOutput node input producer output =>
    s!"Node '{node}' input '{input}' references output '{output}' which '{producer}' " ++
      "does not declare"
  | .circularDependency id => s!"Circular dependency detected: {id}"

namespace Graph

/-- The node of a name. -/
def node? (nodes : List Node) (id : String) : Option Node := nodes.find? (·.id = id)

/-- The first name that stands behind an equal one. -/
def firstRepeat? : List String → Option String
  | ids => go [] ids
where
  go (seen : List String) : List String → Option String
    | [] => none
    | id :: rest => if id ∈ seen then some id else go (id :: seen) rest

/-- What is wrong with one input of a node. -/
def inputError? (nodes : List Node) (node : Node) (input : String) (channel : Channel) :
    Option GraphError :=
  match node? nodes channel.producer with
  | none => some (.unknownProducer node.id input channel.producer)
  | some producer =>
    if producer.hasOutput channel.output then none
    else some (.unknownOutput node.id input channel.producer channel.output)

/-- The first input, by the order of nodes and of input names, that does not resolve. -/
def firstBadInput? (nodes : List Node) : Option GraphError :=
  nodes.findSome? fun node =>
    node.inputs.entries.findSome? fun (input, channel) => inputError? nodes node input channel

theorem length_filter_lt {nodes : List Node} {path : List String} {id : String} {node : Node}
    (found : node? nodes id = some node) (fresh : id ∉ path) :
    (nodes.filter (·.id ∉ id :: path)).length < (nodes.filter (·.id ∉ path)).length := by
  have member := List.mem_of_find?_eq_some found
  have named : node.id = id := by simpa using List.find?_some found
  have split : nodes.filter (·.id ∉ id :: path) =
      (nodes.filter (·.id ∉ path)).filter (·.id ≠ id) := by
    rw [List.filter_filter]
    congr 1
    funext other
    simp
  rw [split]
  refine Nat.lt_of_le_of_ne (List.length_filter_le _ _) fun same => ?_
  have all := List.length_filter_eq_length_iff.1 same node
    (List.mem_filter.2 ⟨member, by simpa [named] using fresh⟩)
  simp [named] at all

/-- Lists the nodes of `ids` that `done` lacks, each behind what it consumes. The nodes of `path`
wait for those of `ids`, so meeting one of them again closes a cycle. -/
def visit (nodes : List Node) (path : List String) (done : List Node) :
    List String → Except GraphError (List Node)
  | [] => .ok done
  | id :: rest =>
    if done.any (·.id = id) then visit nodes path done rest
    else if _fresh : id ∈ path then .error (.circularDependency id)
    else match _found : node? nodes id with
      | none => visit nodes path done rest
      | some node => do
        let before ← visit nodes (id :: path) done node.producerIds
        visit nodes path (before ++ [node]) rest
termination_by ids => ((nodes.filter (·.id ∉ path)).length, ids.length)
decreasing_by
  · exact Prod.Lex.right _ (by simp)
  · exact Prod.Lex.right _ (by simp)
  · exact Prod.Lex.left _ _ (length_filter_lt _found _fresh)
  · exact Prod.Lex.right _ (by simp)

/-- The nodes with every producer ahead of its consumers. -/
def order (nodes : List Node) : Except GraphError (List Node) :=
  match firstRepeat? (nodes.map (·.id)) with
  | some id => .error (.duplicateId id)
  | none => match firstBadInput? nodes with
    | some error => .error error
    | none => visit nodes [] [] (nodes.map (·.id))

end Graph

end PipelineManifest
