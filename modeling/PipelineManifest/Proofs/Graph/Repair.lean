import PipelineManifest.Proofs.Graph.Expansion

/-!
# When a graph is repaired

What a repair comes to depends on how many nodes of a graph deploy, how many train a model and how
many bless one. `Repair` says so without the channels that `Graph.expand` looks at on the way.

Results:
1. `trainers_eq`, `judges_eq`: the nodes behind the channels of models and blessings.
2. `deploys_deployment`: what the deployment consists of.
3. `expand_repairs`: what a repair comes to, and that a second one changes nothing.
-/

namespace PipelineManifest

namespace Graph

/-! ## Definitions -/

/-- The producers that declare a model. -/
def trainers (nodes : List Node) : List Node :=
  nodes.filter fun node => node.role = .producer ∧ node.hasOutput Node.modelOutput

/-- The nodes of any role that declare a blessing. -/
def judges (nodes : List Node) : List Node :=
  nodes.filter (·.hasOutput Node.blessingOutput)

/-- A node deploys the model of a trainer into `target`, behind the blessing of a judge if there is
one, under a name that no other node has. -/
structure Deploys (nodes : List Node) (trainer : Node) (judge : Option Node) (target : String)
    (node : Node) : Prop where
  role : node.role = .deployment
  fresh : ∀ other ∈ nodes, other.id ≠ node.id
  inputs : ∀ name, node.inputs.find? name =
    if name = Node.modelOutput then trainer.output? Node.modelOutput
    else if name = Node.modelBlessingInput then judge.bind (·.output? Node.blessingOutput)
    else none
  destination : node.parameters.find? "push_destination" =
    some (.record [("filesystem", .record [("base_directory", .string target)])])
  pushed : node.output? Node.pushedModelOutput =
    some ⟨node.id, Node.pushedModelOutput, "PushedModel"⟩

/-- `Repair nodes target result`: a graph that deploys or has nothing to deploy is left as it is.
Several trainers are refused, then several judges. With one trainer and at most one judge a
deployment is put behind all other nodes. -/
inductive Repair (nodes : List Node) (target : String) : Except CompileError Expansion → Prop
  | deployed :
      (∃ node ∈ nodes, node.role = .deployment) → Repair nodes target (.ok ⟨nodes, false⟩)
  | untrained :
      (∀ node ∈ nodes, node.role ≠ .deployment) → (trainers nodes).length = 0 →
      Repair nodes target (.ok ⟨nodes, false⟩)
  | severalTrainers :
      (∀ node ∈ nodes, node.role ≠ .deployment) → 2 ≤ (trainers nodes).length →
      Repair nodes target (.error (.multipleProducers ((trainers nodes).map (·.id))))
  | severalJudges :
      (∀ node ∈ nodes, node.role ≠ .deployment) → (trainers nodes).length = 1 →
      2 ≤ (judges nodes).length →
      Repair nodes target (.error (.multipleBlessors ((judges nodes).map (·.id))))
  | repaired {trainer node : Node} :
      (∀ other ∈ nodes, other.role ≠ .deployment) → trainers nodes = [trainer] →
      (judges nodes).length ≤ 1 → Deploys nodes trainer (judges nodes).head? target node →
      Repair nodes target (.ok ⟨nodes ++ [node], true⟩)

/-! ## Trainers and judges -/

theorem map_fst_filterMap (pick : Node → Option Channel) (nodes : List Node) :
    (nodes.filterMap fun node => (pick node).map (node, ·)).map (·.1) =
      nodes.filter fun node => (pick node).isSome := by
  induction nodes with
  | nil => rfl
  | cons node rest ih =>
    rw [List.filterMap_cons, List.filter_cons]
    cases pick node with
    | none => exact ih
    | some channel => exact congrArg (node :: ·) ih

theorem judges_eq (nodes : List Node) : (blessors nodes).map (·.1) = judges nodes :=
  map_fst_filterMap (·.output? Node.blessingOutput) nodes

theorem trainers_eq (nodes : List Node) : (modelProducers nodes).map (·.1) = trainers nodes := by
  have picked : modelProducers nodes = nodes.filterMap fun node =>
      (if node.role = .producer then node.output? Node.modelOutput else none).map (node, ·) := by
    unfold modelProducers
    congr 1
    funext node
    split <;> rfl
  rw [picked, map_fst_filterMap, trainers]
  congr 1
  funext node
  by_cases trains : node.role = .producer
  · simp [trains, Node.hasOutput, Node.output?, Dictionary.contains]
  · simp [trains]

theorem length_trainers (nodes : List Node) :
    (trainers nodes).length = (modelProducers nodes).length := by
  rw [← trainers_eq, List.length_map]

theorem length_judges (nodes : List Node) :
    (judges nodes).length = (blessors nodes).length := by
  rw [← judges_eq, List.length_map]

theorem ids_trainers (nodes : List Node) :
    (trainers nodes).map (·.id) = (modelProducers nodes).map (·.1.id) := by
  rw [← trainers_eq, List.map_map]
  rfl

theorem ids_judges (nodes : List Node) :
    (judges nodes).map (·.id) = (blessors nodes).map (·.1.id) := by
  rw [← judges_eq, List.map_map]
  rfl

/-! ## The deployment -/

theorem deploys_deployment {nodes : List Node} {trainer : Node} {judge : Option Node}
    {model : Channel} {blessing : Option Channel} (target : String)
    (trained : trainer.output? Node.modelOutput = some model)
    (judged : judge.bind (·.output? Node.blessingOutput) = blessing) :
    Deploys nodes trainer judge target (deployment nodes model blessing target) where
  role := by cases blessing <;> rfl
  fresh := by
    intro other member same
    exact deployment_id_notMem nodes model blessing target (same ▸ List.mem_map_of_mem member)
  inputs := by
    intro name
    rw [trained, judged]
    cases blessing with
    | none =>
      show ((∅ : Dictionary Channel).insert Node.modelOutput model).find? name = _
      rw [Dictionary.find?_insert, Dictionary.find?_empty, ite_self]
      simp only [eq_comm]
    | some blessing =>
      show (((∅ : Dictionary Channel).insert Node.modelOutput model).insert
        Node.modelBlessingInput blessing).find? name = _
      rw [Dictionary.find?_insert, Dictionary.find?_insert, Dictionary.find?_empty]
      by_cases isModel : name = Node.modelOutput
      · subst isModel
        simp [Node.modelOutput, Node.modelBlessingInput]
      · simp [isModel, eq_comm]
  destination := by cases blessing <;> rfl
  pushed := by cases blessing <;> rfl

/-! ## The repair -/

theorem repair_expand (nodes : List Node) (target : String) :
    Repair nodes target (expand nodes target) := by
  unfold expand
  split
  next present => exact .deployed (by simpa using present)
  next absent =>
    have undeployed : ∀ node ∈ nodes, node.role ≠ .deployment := by simpa using absent
    rcases producers : modelProducers nodes with _ | ⟨⟨trainer, model⟩, _ | ⟨second, others⟩⟩
    · exact .untrained undeployed (by rw [length_trainers, producers]; rfl)
    · have trained : trainers nodes = [trainer] := by rw [← trainers_eq, producers]; rfl
      obtain ⟨_, _, trains⟩ := mem_modelProducers_iff.1 (producers ▸ List.mem_singleton_self _)
      rcases blessings : blessors nodes with _ | ⟨⟨judge, blessing⟩, _ | ⟨second, others⟩⟩
      · have judged : judges nodes = [] := by rw [← judges_eq, blessings]; rfl
        refine .repaired undeployed trained (by rw [judged]; exact Nat.zero_le 1) ?_
        rw [judged]
        exact deploys_deployment target trains rfl
      · have judged : judges nodes = [judge] := by rw [← judges_eq, blessings]; rfl
        obtain ⟨_, blesses⟩ := mem_blessors_iff.1 (blessings ▸ List.mem_singleton_self _)
        refine .repaired undeployed trained (by rw [judged]; exact Nat.le_refl 1) ?_
        rw [judged]
        exact deploys_deployment target trains blesses
      · have several : 2 ≤ (judges nodes).length := by
          rw [length_judges, blessings]
          exact Nat.le_add_left 2 _
        have refused : Repair nodes target
            (.error (.multipleBlessors ((judges nodes).map (·.id)))) :=
          .severalJudges undeployed (by rw [trained]; rfl) several
        rw [ids_judges, blessings] at refused
        exact refused
    · have several : 2 ≤ (trainers nodes).length := by
        rw [length_trainers, producers]
        exact Nat.le_add_left 2 _
      have refused : Repair nodes target
          (.error (.multipleProducers ((trainers nodes).map (·.id)))) :=
        .severalTrainers undeployed several
      rw [ids_trainers, producers] at refused
      exact refused

/-! ## A second repair -/

theorem expand_of_deployed {nodes : List Node} (deploys : ∃ node ∈ nodes, node.role = .deployment)
    (target : String) : expand nodes target = .ok ⟨nodes, false⟩ := by
  rw [expand, if_pos (by simpa using deploys)]

theorem expand_of_untrained {nodes : List Node}
    (undeployed : ∀ node ∈ nodes, node.role ≠ .deployment) (untrained : (trainers nodes).length = 0)
    (target : String) : expand nodes target = .ok ⟨nodes, false⟩ := by
  have none : modelProducers nodes = [] := by
    rw [← List.length_eq_zero_iff, ← length_trainers, untrained]
  rw [expand, if_neg (by simpa using undeployed), none]

theorem expand_of_repair {nodes : List Node} {target : String} {expansion : Expansion}
    (repair : Repair nodes target (.ok expansion)) (other : String) :
    expand expansion.nodes other = .ok ⟨expansion.nodes, false⟩ := by
  cases repair with
  | deployed deploys => exact expand_of_deployed deploys other
  | untrained undeployed untrained => exact expand_of_untrained undeployed untrained other
  | @repaired trainer node _ _ _ deploys =>
    exact expand_of_deployed ⟨node, by simp, deploys.role⟩ other

/-- What the repair of a graph comes to is decided by how many of its nodes deploy, train a model
and bless one. A graph that is repaired is left as it is by a second repair, into whatever
directory. -/
theorem expand_repairs (nodes : List Node) (target : String) :
    Repair nodes target (expand nodes target) ∧
    ∀ expansion, expand nodes target = .ok expansion →
      ∀ other, expand expansion.nodes other = .ok ⟨expansion.nodes, false⟩ := by
  have repair := repair_expand nodes target
  refine ⟨repair, fun expansion repaired => ?_⟩
  rw [repaired] at repair
  exact expand_of_repair repair

theorem expand_repairs_crowded :
    ∃ expansion trainer judge node, expand crowded "serving_model" = .ok expansion ∧
      expansion.nodes = crowded ++ [node] ∧ trainers crowded = [trainer] ∧
      judges crowded = [judge] ∧ Deploys crowded trainer (some judge) "serving_model" node ∧
      expand expansion.nodes "elsewhere" = .ok ⟨expansion.nodes, false⟩ := by
  have isRepaired : (expand crowded "serving_model").toOption.map (·.expanded) = some true := by
    decide +kernel
  obtain ⟨expansion, repaired, expanded⟩ := Sequence.exists_ok_of_toOption isRepaired
  obtain ⟨repair, again⟩ := expand_repairs crowded "serving_model"
  rw [repaired] at repair
  cases repair with
  | deployed => cases expanded
  | untrained => cases expanded
  | @repaired trainer node _ trained _ deploys =>
    exact ⟨_, trainer, _, node, repaired, rfl, trained, rfl, deploys, again _ repaired "elsewhere"⟩

end Graph

end PipelineManifest
