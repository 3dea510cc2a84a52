import PipelineManifest.Proofs.Manifest.Workflow

/-!
# Template names as DNS labels

A DNS label has at most 63 characters and begins and ends with a letter or a digit. Template names
are meant to be DNS labels, but only their characters are seen to: a separator at the beginning or
the end of a name becomes a hyphen, no name is shortened, and an empty one stays empty.

Results:
1. `isDnsLabel_templateName_iff`, `isDnsLabel_numbered_iff`: which template names are DNS labels.
2. `labels_of_order`: for each template name of a workflow, whether it is one.
3. `template_names_not_labels`: a workflow with a template name that is none.
-/

namespace PipelineManifest

namespace Workflow

/-! ## Definitions -/

def isSmallAlphanumeric (c : Char) : Bool := c.isLower || c.isDigit

/-- A label of a domain name. -/
structure IsDnsLabel (name : String) : Prop where
  length : 1 ≤ name.length ∧ name.length ≤ 63
  characters : IsLabel name
  begins : name.toList.head?.any isSmallAlphanumeric
  ends : name.toList.getLast?.any isSmallAlphanumeric

-- the instance that is found without a name goes through all characters there are
instance (name : String) : Decidable (IsLabel name) :=
  List.decidableBAll (fun (c : Char) => c.isLower ∨ c.isDigit ∨ c = '-') name.toList

instance (name : String) : Decidable (IsDnsLabel name) :=
  decidable_of_iff
    ((1 ≤ name.length ∧ name.length ≤ 63) ∧ IsLabel name ∧
      name.toList.head?.any isSmallAlphanumeric ∧ name.toList.getLast?.any isSmallAlphanumeric)
    ⟨fun ⟨length, characters, begins, ends⟩ => ⟨length, characters, begins, ends⟩,
      fun label => ⟨label.length, label.characters, label.begins, label.ends⟩⟩

/-- The text begins with an ASCII letter or digit. -/
def beginsAlphanumeric (text : String) : Bool := text.toList.head?.any Char.isAlphanum

/-- The text ends with an ASCII letter or digit. -/
def endsAlphanumeric (text : String) : Bool := text.toList.getLast?.any Char.isAlphanum

/-- A template name that a text gets when others are taken, and whether it is a DNS label. -/
structure LabelVerdict (taken : List String) (source template : String) : Prop where
  free : templateName source ∉ taken → template = templateName source ∧
    (IsDnsLabel template ↔
      source.length ≤ 63 ∧ beginsAlphanumeric source ∧ endsAlphanumeric source)
  /-- A number at the end makes up for a separator there, but not for one at the beginning. -/
  taken : templateName source ∈ taken → ∃ n, template = numbered (templateName source) n ∧
    (IsDnsLabel template ↔
      source.length + 1 + (Nat.toDigits 10 n).length ≤ 63 ∧ beginsAlphanumeric source)

/-! ## Characters -/

/-- Letters and digits stay what they are, and nothing else becomes one. -/
theorem isSmallAlphanumeric_templateCharacter (c : Char) :
    isSmallAlphanumeric (templateCharacter c) = c.isAlphanum := by
  unfold templateCharacter
  by_cases kept : c.isAlphanum
  · rw [if_pos kept, kept, isSmallAlphanumeric, Bool.or_eq_true]
    exact toLower_of_isAlphanum kept
  · rw [if_neg kept, Bool.eq_false_of_not_eq_true kept]
    rfl

theorem toList_templateName (source : String) :
    (templateName source).toList = source.toList.map templateCharacter :=
  String.toList_ofList

theorem length_templateName (source : String) : (templateName source).length = source.length := by
  rw [← String.length_toList, toList_templateName, List.length_map, String.length_toList]

theorem any_templateCharacter (found : Option Char) :
    (found.map templateCharacter).any isSmallAlphanumeric = found.any Char.isAlphanum := by
  cases found with
  | none => rfl
  | some c => exact isSmallAlphanumeric_templateCharacter c

/-! ## Which names are labels -/

theorem length_pos_of_begins {text : String} (begins : beginsAlphanumeric text) :
    1 ≤ text.length := by
  rw [← String.length_toList]
  unfold beginsAlphanumeric at begins
  cases characters : text.toList with
  | nil => rw [characters] at begins; exact absurd begins (by decide)
  | cons c rest => exact Nat.le_add_left 1 rest.length

theorem isDnsLabel_templateName_iff (source : String) :
    IsDnsLabel (templateName source) ↔
      source.length ≤ 63 ∧ beginsAlphanumeric source ∧ endsAlphanumeric source := by
  have begins : (templateName source).toList.head?.any isSmallAlphanumeric =
      beginsAlphanumeric source := by
    rw [toList_templateName, List.head?_map, any_templateCharacter, beginsAlphanumeric]
  have ends : (templateName source).toList.getLast?.any isSmallAlphanumeric =
      endsAlphanumeric source := by
    rw [toList_templateName, List.getLast?_map, any_templateCharacter, endsAlphanumeric]
  constructor
  · intro label
    exact ⟨length_templateName source ▸ label.length.2, begins ▸ label.begins, ends ▸ label.ends⟩
  · rintro ⟨short, first, last⟩
    have long : 1 ≤ (templateName source).length := by
      rw [length_templateName]
      exact length_pos_of_begins first
    exact ⟨⟨long, length_templateName source ▸ short⟩, isLabel_templateName source, begins ▸ first,
      ends ▸ last⟩

theorem toList_numbered (base : String) (n : Nat) :
    (numbered base n).toList = base.toList ++ '-' :: Nat.toDigits 10 n := by
  rw [numbered, String.toList_append, String.toList_append, Nat.toList_repr, List.append_assoc]
  rfl

theorem any_getLast?_toDigits (n : Nat) :
    (Nat.toDigits 10 n).getLast?.any isSmallAlphanumeric := by
  cases last : (Nat.toDigits 10 n).getLast? with
  | none => exact absurd (List.getLast?_eq_none_iff.1 last) Nat.toDigits_ne_nil
  | some c =>
    have digit : c.isDigit :=
      Nat.isDigit_of_mem_toDigits (by decide) (by decide) (List.mem_of_getLast? last)
    simp [isSmallAlphanumeric, digit]

theorem isDnsLabel_numbered_iff (source : String) (n : Nat) :
    IsDnsLabel (numbered (templateName source) n) ↔
      source.length + 1 + (Nat.toDigits 10 n).length ≤ 63 ∧ beginsAlphanumeric source := by
  have length : (numbered (templateName source) n).length =
      source.length + 1 + (Nat.toDigits 10 n).length := by
    rw [← String.length_toList, toList_numbered, List.length_append, List.length_cons,
      String.length_toList, length_templateName]
    omega
  have begins : (numbered (templateName source) n).toList.head?.any isSmallAlphanumeric =
      beginsAlphanumeric source := by
    rw [toList_numbered, toList_templateName, beginsAlphanumeric]
    cases source.toList with
    | nil => rfl
    | cons c rest => exact isSmallAlphanumeric_templateCharacter c
  have ends : (numbered (templateName source) n).toList.getLast?.any isSmallAlphanumeric := by
    have behind : (numbered (templateName source) n).toList.getLast? =
        (Nat.toDigits 10 n).getLast? := by
      rw [toList_numbered, List.append_cons, List.getLast?_append_of_ne_nil _ Nat.toDigits_ne_nil]
    rw [behind]
    exact any_getLast?_toDigits n
  constructor
  · intro label
    exact ⟨length ▸ label.length.2, begins ▸ label.begins⟩
  · rintro ⟨short, first⟩
    exact ⟨⟨by omega, by omega⟩, (isLabel_templateName source).numbered n, begins ▸ first, ends⟩

/-! ## The names of a workflow -/

theorem labelVerdict_freshName (taken : List String) (source : String) :
    LabelVerdict taken source (freshName taken (templateName source)) := by
  constructor
  · intro free
    rw [freshName, if_neg free]
    exact ⟨rfl, isDnsLabel_templateName_iff source⟩
  · intro isTaken
    rcases freshName_eq_or taken (templateName source) with same | ⟨n, same⟩
    · exact absurd (same.symm ▸ isTaken) (freshName_notMem taken (templateName source))
    · rw [same]
      exact ⟨n, rfl, isDnsLabel_numbered_iff source n⟩

/-- It does not matter in which order names were taken. -/
theorem LabelVerdict.congr {taken other : List String} (same : ∀ name, name ∈ taken ↔ name ∈ other)
    {source template : String} (verdict : LabelVerdict taken source template) :
    LabelVerdict other source template :=
  ⟨fun free => verdict.free fun isTaken => free ((same _).1 isTaken),
    fun isTaken => verdict.taken ((same _).2 isTaken)⟩

theorem labelVerdict_allocate {nodes : List Node} :
    ∀ {taken : List String} {before : List (String × String)} {source template after},
      allocate taken nodes = before ++ (source, template) :: after →
      LabelVerdict (taken ++ before.map (·.2)) source template := by
  induction nodes with
  | nil => intro taken before source template after split; simp [allocate] at split
  | cons node rest ih =>
    intro taken before source template after split
    rw [allocate] at split
    cases before with
    | nil =>
      obtain ⟨rfl, rfl⟩ := Prod.mk.inj (List.cons.inj split).1
      rw [List.map_nil, List.append_nil]
      exact labelVerdict_freshName taken node.id
    | cons first others =>
      -- the first name is among those that are taken when the others are given out
      obtain ⟨rfl, tail⟩ := List.cons.inj split
      refine (ih tail).congr fun name => ?_
      simp only [List.map_cons, List.mem_append, List.mem_cons]
      tauto

/-- The names of nodes with the names that the templates of a workflow have for them. -/
theorem zip_templates_outline {definition : Definition}
    (distinct : Graph.Distinct definition.nodes) :
    (definition.nodes.map (·.id)).zip
        ((outline definition (taskName definition)).view.templates.map (·.name)) =
      allocate [templateName definition.name] definition.nodes := by
  have names : (outline definition (taskName definition)).view.templates.map (·.name) =
      (allocate [templateName definition.name] definition.nodes).map (·.2) := by
    rw [names_templates_outline]
    exact map_nameIn_templateNames distinct (templateName definition.name)
  rw [names, ← ids_allocate definition.nodes [templateName definition.name], List.zip_map']
  exact List.map_id _

/-- Nodes in order have a workflow. Its first template is named after the pipeline, the others are
named after the nodes, and each name is a DNS label or none by the verdict on it. -/
theorem labels_of_order {nodes : List Node} {definition : Definition}
    (ordered : Graph.order nodes = .ok definition.nodes) :
    ∃ manifest view, Backend.build .v1 definition = .ok manifest ∧
      WorkflowView.read? manifest = some view ∧ view.entrypoint = view.first ∧
      view.templates.length = definition.nodes.length ∧
      ∀ before source template after,
        (definition.name :: definition.nodes.map (·.id)).zip
          (view.first :: view.templates.map (·.name)) = before ++ (source, template) :: after →
        LabelVerdict (before.map (·.2)) source template := by
  obtain ⟨_, distinct, first⟩ := Graph.perm_of_order ordered
  refine ⟨_, _, build_eq_outline first, WorkflowView.read?_toJson _, rfl, ?_, ?_⟩
  · rw [templates_outline, List.length_map]
  · intro before source template after split
    rw [List.zip_cons_cons, zip_templates_outline distinct] at split
    cases before with
    | nil =>
      obtain ⟨rfl, rfl⟩ := Prod.mk.inj (List.cons.inj split).1
      exact labelVerdict_freshName [] definition.name
    | cons named others =>
      obtain ⟨rfl, rest⟩ := List.cons.inj split
      exact labelVerdict_allocate rest

/-- A pipeline with nodes whose names end or begin with a separator. -/
def separated : Definition where
  name := "taxi"
  displayName := "taxi"
  root := "root"
  image := "image:1"
  nodes := [.ofType "Trainer_" .other, .ofType "Trainer-" .other, .ofType "_Trainer" .other]
  engineArguments := []
  enableCache := false

theorem labels_of_order_separated :
    ∃ manifest view, Graph.order separated.nodes = .ok separated.nodes ∧
      Backend.build .v1 separated = .ok manifest ∧ WorkflowView.read? manifest = some view ∧
      view.templates.map (·.name) = ["trainer-", "trainer--2", "-trainer"] ∧
      LabelVerdict ["taxi", "trainer-"] "Trainer-" "trainer--2" := by
  have ordered : Graph.order separated.nodes = .ok separated.nodes := by cbv
  obtain ⟨manifest, view, built, read, -, -, verdicts⟩ := labels_of_order ordered
  have seen : ((Backend.build .v1 separated).toOption.bind WorkflowView.read?).map (fun view =>
      (view.first, view.templates.map (·.name))) =
      some ("taxi", ["trainer-", "trainer--2", "-trainer"]) := by decide +kernel
  have same := Sequence.look_eq_of_bind built read seen
  obtain ⟨entrypoint, names⟩ := Prod.mk.inj same
  refine ⟨manifest, view, ordered, built, read, names, ?_⟩
  refine verdicts [("taxi", "taxi"), ("Trainer_", "trainer-")] _ _ [("_Trainer", "-trainer")] ?_
  rw [entrypoint, names]
  rfl

/-- The names are not all DNS labels, although the nodes are in order. -/
theorem template_names_not_labels :
    Graph.order separated.nodes = .ok separated.nodes ∧
      ∃ manifest view, Backend.build .v1 separated = .ok manifest ∧
        WorkflowView.read? manifest = some view ∧
        ∃ template ∈ view.templates.map (·.name), ¬ IsDnsLabel template := by
  have ordered : Graph.order separated.nodes = .ok separated.nodes := by cbv
  obtain ⟨_, _, first⟩ := Graph.perm_of_order ordered
  have built := build_eq_outline first
  have read := WorkflowView.read?_toJson (outline separated (taskName separated))
  have seen : ((Backend.build .v1 separated).toOption.bind WorkflowView.read?).map
      (fun view => view.templates.map (·.name)) = some ["trainer-", "trainer--2", "-trainer"] := by
    decide +kernel
  have names := Sequence.look_eq_of_bind built read seen
  refine ⟨ordered, _, _, built, read, "trainer-", ?_, by decide +kernel⟩
  rw [names]
  exact List.mem_cons_self

end Workflow

end PipelineManifest
