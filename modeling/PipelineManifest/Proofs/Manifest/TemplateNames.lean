import PipelineManifest.Manifest.Workflow
import PipelineManifest.Proofs.FreshName
import PipelineManifest.Proofs.Graph.Dependency

/-!
# Template names

Many node names can come down to one template name, and a numbered name can be the template name of
a later node. `Workflow.allocate` gives out one name after the other, and each is new among all that
were given out before.

Results:
1. `allocate_distinct`: the names that are given out are all different, and none was taken.
2. `isLabel_of_mem_allocate`: they have small letters, digits and hyphens only.
3. `isNaming_templateNames`, `nameOf_templateNames`: the look-up of template names gives every node
   such a name.
-/

namespace PipelineManifest

namespace Workflow

/-- Small letters, digits and hyphens, and nothing else. -/
def IsLabel (name : String) : Prop :=
  ∀ c ∈ name.toList, c.isLower ∨ c.isDigit ∨ c = '-'

/-! ## Characters -/

theorem isLower_toLower {c : Char} (capital : c.isUpper) : c.toLower.isLower := by
  have bounds : 'A'.val ≤ c.val ∧ c.val ≤ 'Z'.val := of_decide_eq_true capital
  have below : 65 ≤ c.val.toNat ∧ c.val.toNat ≤ 90 :=
    ⟨UInt32.le_iff_toNat_le.1 bounds.1, UInt32.le_iff_toNat_le.1 bounds.2⟩
  have moved : (c.val + ('a'.val - 'A'.val)).toNat = c.val.toNat + 32 := by
    rw [UInt32.toNat_add]
    show (c.val.toNat + 32) % 2 ^ 32 = _
    omega
  have small : c.toLower.val = c.val + ('a'.val - 'A'.val) := congrArg Char.val (dif_pos bounds)
  have reaches : 'a'.val ≤ c.toLower.val ∧ c.toLower.val ≤ 'z'.val := by
    rw [small, UInt32.le_iff_toNat_le, UInt32.le_iff_toNat_le, moved]
    show 97 ≤ _ ∧ _ ≤ 122
    omega
  exact Bool.and_eq_true_iff.2 ⟨decide_eq_true reaches.1, decide_eq_true reaches.2⟩

/-- Letters and digits stay letters and digits. -/
theorem toLower_of_isAlphanum {c : Char} (kept : c.isAlphanum) :
    c.toLower.isLower ∨ c.toLower.isDigit := by
  by_cases capital : c.isUpper
  · exact .inl (isLower_toLower capital)
  · have same : c.toLower = c := dif_neg fun bounds => capital (decide_eq_true bounds)
    rw [same]
    have parts : (c.isUpper || c.isLower || c.isDigit) = true := kept
    simpa [capital] using parts

theorem isLabel_templateName (id : String) : IsLabel (templateName id) := by
  intro c member
  rw [templateName, String.toList_ofList] at member
  obtain ⟨before, _, rfl⟩ := List.mem_map.1 member
  unfold templateCharacter
  by_cases kept : before.isAlphanum
  · rw [if_pos kept]
    rcases toLower_of_isAlphanum kept with letter | digit
    · exact .inl letter
    · exact .inr (.inl digit)
  · rw [if_neg kept]
    exact .inr (.inr rfl)

theorem IsLabel.numbered {base : String} (label : IsLabel base) (n : Nat) :
    IsLabel (numbered base n) := by
  intro c member
  rw [PipelineManifest.numbered, String.toList_append, String.toList_append, Nat.toList_repr,
    List.append_assoc] at member
  rcases List.mem_append.1 member with inBase | ending
  · exact label c inBase
  · rcases List.mem_append.1 ending with hyphen | digit
    · exact .inr (.inr (List.mem_singleton.1 hyphen))
    · exact .inr (.inl (Nat.isDigit_of_mem_toDigits (by decide) (by decide) digit))

theorem IsLabel.freshName {base : String} (label : IsLabel base) (taken : List String) :
    IsLabel (freshName taken base) := by
  rcases freshName_eq_or taken base with same | ⟨n, same⟩
  · rwa [same]
  · rw [same]
    exact label.numbered n

/-! ## Names given out one after the other -/

theorem ids_allocate (nodes : List Node) :
    ∀ taken, (allocate taken nodes).map (·.1) = nodes.map (·.id) := by
  induction nodes with
  | nil => exact fun _ => rfl
  | cons node rest ih =>
    intro taken
    rw [allocate, List.map_cons, List.map_cons, ih]

theorem allocate_append (nodes more : List Node) :
    ∀ taken, allocate taken (nodes ++ more) = allocate taken nodes ++
      allocate (((allocate taken nodes).map (·.2)).reverse ++ taken) more := by
  induction nodes with
  | nil => exact fun _ => rfl
  | cons node rest ih =>
    intro taken
    rw [List.cons_append, allocate, ih, allocate]
    simp

theorem allocate_distinct (nodes : List Node) :
    ∀ taken, ((allocate taken nodes).map (·.2)).Nodup ∧
      ∀ name ∈ (allocate taken nodes).map (·.2), name ∉ taken := by
  induction nodes with
  | nil => exact fun _ => ⟨.nil, fun _ impossible => nomatch impossible⟩
  | cons node rest ih =>
    intro taken
    -- the later names are new among those that are taken, and the first of the list is one of these
    obtain ⟨distinct, fresh⟩ := ih (freshName taken (templateName node.id) :: taken)
    rw [allocate, List.map_cons]
    refine ⟨List.nodup_cons.2 ⟨fun again => fresh _ again List.mem_cons_self, distinct⟩, ?_⟩
    intro name member
    rcases List.mem_cons.1 member with rfl | later
    · exact freshName_notMem _ _
    · exact fun isTaken => fresh name later (List.mem_cons_of_mem _ isTaken)

theorem isLabel_of_mem_allocate (nodes : List Node) :
    ∀ taken, ∀ name ∈ (allocate taken nodes).map (·.2), IsLabel name := by
  induction nodes with
  | nil => exact fun _ _ impossible => nomatch impossible
  | cons node rest ih =>
    intro taken name member
    rw [allocate, List.map_cons] at member
    rcases List.mem_cons.1 member with rfl | later
    · exact (isLabel_templateName node.id).freshName taken
    · exact ih _ name later

/-! ## Namings -/

/-- Names for the nodes of a list, all different from each other and from the entrypoint. -/
structure IsNaming (nodes : List Node) (entrypoint : String) (name : String → String) : Prop where
  distinct : (entrypoint :: nodes.map (name ·.id)).Nodup
  label : ∀ node ∈ nodes, IsLabel (name node.id)

/-- The template name of a node. -/
def nameIn (names : Dictionary String) (id : String) : String :=
  (names.find? id).getD ""

theorem map_find?_templateNames {nodes : List Node} (distinct : Graph.Distinct nodes)
    (entrypoint : String) :
    nodes.map (fun node => (templateNames nodes entrypoint).find? node.id) =
      ((allocate [entrypoint] nodes).map (·.2)).map some := by
  have keys : ((allocate [entrypoint] nodes).map (·.1)).Nodup := by
    rw [ids_allocate]
    exact distinct
  -- a name belongs to its node by their places in the two lists, so the lists are compared whole
  have byId : nodes.map (fun node => (templateNames nodes entrypoint).find? node.id) =
      ((allocate [entrypoint] nodes).map (·.1)).map (templateNames nodes entrypoint).find? := by
    rw [ids_allocate, List.map_map]
    rfl
  rw [byId, List.map_map, List.map_map]
  refine List.map_congr_left fun entry member => ?_
  exact Dictionary.find?_eq_some_iff.2 ((Dictionary.mem_entries_ofList keys).2 member)

theorem map_nameIn_templateNames {nodes : List Node} (distinct : Graph.Distinct nodes)
    (entrypoint : String) :
    nodes.map (nameIn (templateNames nodes entrypoint) ·.id) =
      (allocate [entrypoint] nodes).map (·.2) := by
  have named := congrArg (List.map (·.getD "")) (map_find?_templateNames distinct entrypoint)
  rw [List.map_map, List.map_map] at named
  exact named.trans (List.map_id _)

theorem isNaming_templateNames {nodes : List Node} (distinct : Graph.Distinct nodes)
    (entrypoint : String) :
    IsNaming nodes entrypoint (nameIn (templateNames nodes entrypoint)) := by
  have given := map_nameIn_templateNames distinct entrypoint
  obtain ⟨apart, fresh⟩ := allocate_distinct nodes [entrypoint]
  constructor
  · rw [given]
    exact List.nodup_cons.2 ⟨fun again => fresh _ again (List.mem_singleton_self _), apart⟩
  · intro node member
    refine isLabel_of_mem_allocate nodes [entrypoint] _ ?_
    rw [← given]
    exact List.mem_map_of_mem member

/-- The look-up of a template name fails only for the name of no node. -/
theorem nameOf_templateNames {nodes : List Node} {id : String} (known : id ∈ nodes.map (·.id))
    (entrypoint : String) :
    nameOf (templateNames nodes entrypoint) id =
      .ok (nameIn (templateNames nodes entrypoint) id) := by
  have listed : id ∈ (templateNames nodes entrypoint).keys := by
    rw [templateNames, Dictionary.mem_keys_ofList, ids_allocate]
    exact known
  obtain ⟨name, found⟩ := Option.isSome_iff_exists.1 (Dictionary.contains_iff_mem_keys.2 listed)
  rw [nameOf, nameIn, found]
  rfl

end Workflow

end PipelineManifest
