import Mathlib.Data.List.Nodup
import PipelineManifest.Proofs.Arguments.Merge
import PipelineManifest.Proofs.Sequence

/-!
# Reading flags

A flag is taken apart at its first equals sign (`Arguments.ofFlag?`). Its name comes out right if it
has none, whatever its value is. Flags are arguments again when their values are grouped by name
(`Arguments.ofFlags?`).

Results:
1. `ofFlag?_flag`: the name and the value of a flag.
2. `enter_singly`: values under a name are entered together or one by one, with the same outcome
   unless there are none.
3. `unambiguous_of_ofFlags?`, `ofFlags?_flags_iff`: what is read from flags is unambiguous, and
   arguments are read from their own flags exactly if they are.
4. `flags_determine`: unambiguous arguments with the same flags are the same.
-/

namespace PipelineManifest

namespace Arguments

/-! ## Definitions -/

/-- The name and the value of a flag. The hyphens go, and the first equals sign ends the name. -/
def ofFlag? (token : String) : Option (String × String) :=
  match token.toList with
  | '-' :: '-' :: text =>
    match text.dropWhile (· ≠ '=') with
    | _ :: value => some (.ofList (text.takeWhile (· ≠ '=')), .ofList value)
    | [] => none
  | _ => none

/-- Arguments from flags. A name stands where its first flag stands. -/
def ofFlags? (tokens : List String) : Option Arguments :=
  (tokens.mapM ofFlag?).map fun pairs => enter ∅ (pairs.map fun pair => (pair.1, [pair.2]))

/-- No name has an equals sign, and each has a value. -/
def Unambiguous (arguments : Arguments) : Prop :=
  ∀ entry ∈ arguments.entries, '=' ∉ entry.1.toList ∧ entry.2 ≠ []

instance (arguments : Arguments) : Decidable arguments.Unambiguous :=
  inferInstanceAs (Decidable (∀ entry ∈ arguments.entries, '=' ∉ entry.1.toList ∧ entry.2 ≠ []))

/-! ## One flag -/

theorem toList_flag (name value : String) :
    (flag name value).toList = '-' :: '-' :: (name.toList ++ '=' :: value.toList) := by
  simp [flag]

theorem ofFlag?_flag {name : String} (plain : '=' ∉ name.toList) (value : String) :
    ofFlag? (flag name value) = some (name, value) := by
  have before : (name.toList ++ '=' :: value.toList).takeWhile (· ≠ '=') = name.toList := by
    rw [Sequence.takeWhile_append_cons, Sequence.takeWhile_of_plain plain]
  have behind : (name.toList ++ '=' :: value.toList).dropWhile (· ≠ '=') = '=' :: value.toList := by
    have whole := List.takeWhile_append_dropWhile (p := (· ≠ '='))
      (l := name.toList ++ '=' :: value.toList)
    rw [before] at whole
    exact List.append_cancel_left whole
  simp only [ofFlag?, toList_flag, before, behind, String.ofList_toList]

theorem plain_of_ofFlag? {token name value : String} (read : ofFlag? token = some (name, value)) :
    '=' ∉ name.toList := by
  unfold ofFlag? at read
  split at read
  · split at read
    · obtain ⟨rfl, -⟩ := Prod.mk.inj (Option.some.inj read)
      rw [String.toList_ofList]
      intro member
      exact absurd (List.mem_takeWhile_imp member) (by simp)
    · cases read
  · cases read

/-! ## Values one by one -/

theorem extend_extend (arguments : Arguments) (name : String) (first more : List String) :
    (arguments.extend name first).extend name more = arguments.extend name (first ++ more) := by
  refine ext_values ?_ fun other => ?_
  · have known : name ∈ (arguments.extend name first).names := by
      rw [names_extend]
      split
      · assumption
      · exact List.mem_append_right _ List.mem_cons_self
    rw [names_extend, if_pos known, names_extend, names_extend]
  · rw [values_extend, values_extend, values_extend, List.append_assoc]
    split
    · rfl
    · rw [List.append_nil]

/-- A name without values is entered only if it is entered with its list of values. -/
theorem enter_singly {values : List String} (given : values ≠ []) (name : String) :
    ∀ arguments : Arguments,
      arguments.enter (values.map fun value => (name, [value])) = arguments.extend name values := by
  induction values with
  | nil => exact absurd rfl given
  | cons value rest ih =>
    intro arguments
    cases rest with
    | nil => rfl
    | cons next others =>
      rw [List.map_cons, enter, List.foldl_cons]
      refine (ih (List.cons_ne_nil _ _) _).trans ?_
      rw [extend_extend]
      rfl

theorem enter_all_singly {entries : List (String × List String)}
    (given : ∀ entry ∈ entries, entry.2 ≠ []) :
    ∀ arguments : Arguments,
      arguments.enter (entries.flatMap fun entry => entry.2.map fun value => (entry.1, [value])) =
        arguments.enter entries := by
  induction entries with
  | nil => exact fun arguments => rfl
  | cons entry rest ih =>
    intro arguments
    have ⟨first, others⟩ := List.forall_mem_cons.1 given
    rw [List.flatMap_cons, enter_append, enter_singly first, ih others]
    rfl

/-! ## All flags -/

/-- Every name with each of its values. -/
def pairs (arguments : Arguments) : List (String × String) :=
  arguments.entries.flatMap fun entry => entry.2.map fun value => (entry.1, value)

theorem flags_eq_map_pairs (arguments : Arguments) :
    arguments.flags = arguments.pairs.map fun pair => flag pair.1 pair.2 := by
  rw [flags, pairs, List.map_flatMap]
  simp only [List.map_map]
  rfl

theorem enter_pairs {arguments : Arguments} (given : ∀ entry ∈ arguments.entries, entry.2 ≠ []) :
    (∅ : Arguments).enter (arguments.pairs.map fun pair => (pair.1, [pair.2])) = arguments := by
  have singly : (arguments.pairs.map fun pair => (pair.1, [pair.2])) =
      arguments.entries.flatMap fun entry => entry.2.map fun value => (entry.1, [value]) := by
    rw [pairs, List.map_flatMap]
    simp only [List.map_map]
    rfl
  rw [singly, enter_all_singly given]
  exact empty_append arguments

theorem mapM_ofFlag?_flags {arguments : Arguments}
    (plain : ∀ entry ∈ arguments.entries, '=' ∉ entry.1.toList) :
    arguments.flags.mapM ofFlag? = some arguments.pairs := by
  have each : ∀ pair ∈ arguments.pairs, ofFlag? (flag pair.1 pair.2) = pure pair := by
    intro pair member
    obtain ⟨entry, listed, inEntry⟩ := List.mem_flatMap.1 member
    obtain ⟨value, -, rfl⟩ := List.mem_map.1 inEntry
    exact ofFlag?_flag (plain entry listed) value
  rw [flags_eq_map_pairs, List.mapM_map]
  refine (Sequence.mapM_eq_pure_map each).trans ?_
  rw [List.map_id']
  rfl

theorem ofFlags?_flags {arguments : Arguments} (clear : arguments.Unambiguous) :
    ofFlags? arguments.flags = some arguments := by
  rw [ofFlags?, mapM_ofFlag?_flags fun entry member => (clear entry member).1, Option.map_some,
    enter_pairs fun entry member => (clear entry member).2]

/-- What is read from flags has no name with an equals sign and none without a value. -/
theorem unambiguous_of_ofFlags? {tokens : List String} {arguments : Arguments}
    (read : ofFlags? tokens = some arguments) : arguments.Unambiguous := by
  obtain ⟨pairs, taken, rfl⟩ := Option.map_eq_some_iff.1 read
  intro entry member
  -- the name of the entry is that of a flag, and the value of this flag is among its values
  have named : entry.1 ∈ (enter ∅ (pairs.map fun pair => (pair.1, [pair.2]))).names :=
    List.mem_map_of_mem member
  rw [names_enter, List.mem_eraseDups, List.map_map] at named
  obtain ⟨⟨name, value⟩, listed, same⟩ := List.mem_map.1 named
  obtain ⟨token, -, split⟩ := Sequence.exists_of_mem_mapM taken listed
  refine ⟨same ▸ plain_of_ofFlag? split, ?_⟩
  rw [← values_of_mem_entries member, values_enter]
  refine List.ne_nil_of_mem (a := value) (List.mem_append_right _ (List.mem_flatMap.2 ?_))
  refine ⟨(name, [value]), List.mem_filter.2 ⟨List.mem_map.2 ⟨_, listed, rfl⟩, ?_⟩, ?_⟩
  · exact decide_eq_true same
  · exact List.mem_cons_self

/-- Arguments are read from their own flags exactly if they are unambiguous. -/
theorem ofFlags?_flags_iff {arguments : Arguments} :
    ofFlags? arguments.flags = some arguments ↔ arguments.Unambiguous :=
  ⟨unambiguous_of_ofFlags?, ofFlags?_flags⟩

/-- The flags of unambiguous arguments lead back to them, so no other unambiguous arguments have
the same flags. -/
theorem flags_determine {first second : Arguments} (clear : first.Unambiguous)
    (clear' : second.Unambiguous) :
    ofFlags? first.flags = some first ∧ (first.flags = second.flags → first = second) := by
  have read := ofFlags?_flags clear
  refine ⟨read, fun same => ?_⟩
  rw [same, ofFlags?_flags clear'] at read
  exact (Option.some.inj read).symm

def spelled : Arguments :=
  merge [ofNamed [⟨"", .several ["", "a=b"]⟩, ⟨"--x", .single "--y=z w"⟩],
    ofNamed [⟨"", .single "="⟩]]

/-- The values of `spelled`, one by one and in another order. -/
def pushed : Arguments :=
  (∅ : Arguments).push "" "" |>.push "--x" "--y=z w" |>.push "" "a=b" |>.push "" "="

theorem flags_determine_spelled :
    spelled.Unambiguous ∧ pushed.Unambiguous ∧
      spelled.flags = ["--=", "--=a=b", "--==", "----x=--y=z w"] ∧
      spelled.flags = pushed.flags ∧ ofFlags? spelled.flags = some spelled ∧ spelled = pushed := by
  have clear : spelled.Unambiguous := by decide +kernel
  have clear' : pushed.Unambiguous := by decide +kernel
  have same : spelled.flags = pushed.flags := by decide +kernel
  obtain ⟨read, determined⟩ := flags_determine clear clear'
  exact ⟨clear, clear', by decide +kernel, same, read, determined same⟩

/-- With an equals sign in a name other arguments can have the same flags. -/
example : (ofNamed [⟨"a=b", .single "c"⟩]).flags = (ofNamed [⟨"a", .single "b=c"⟩]).flags := by
  decide +kernel

/-! ## The flags of one name -/

/-- A token begins as the flags of a name do. -/
def Begins (name token : String) : Prop := (flag name "").toList <+: token.toList

/-- The flags of a name that goes on with an equals sign begin in the same way. -/
theorem begins_flag_iff {name : String} (plain : '=' ∉ name.toList) (key value : String) :
    Begins name (flag key value) ↔ key.toList.takeWhile (· ≠ '=') = name.toList := by
  rw [Begins, toList_flag, toList_flag, List.cons_prefix_cons, List.cons_prefix_cons]
  simp only [true_and, String.toList_empty]
  constructor
  · rintro ⟨rest, same⟩
    rw [← Sequence.takeWhile_append_cons key.toList value.toList, ← same, List.append_assoc]
    exact (Sequence.takeWhile_append_cons _ _ _).trans (Sequence.takeWhile_of_plain plain)
  · intro same
    -- the name is what stands in front of the first equals sign
    obtain ⟨before, rest, split, absent⟩ :=
      List.eq_append_cons_of_mem (List.mem_append_right key.toList (List.mem_cons_self (a := '=')))
    have named : before = name.toList := by
      rw [← same, ← Sequence.takeWhile_append_cons key.toList value.toList, split,
        Sequence.takeWhile_append_cons, Sequence.takeWhile_of_plain absent]
    exact ⟨rest, by rw [split, named, List.append_assoc, List.singleton_append]⟩

/-- A flag of arguments has a name with one of its values. -/
theorem mem_flags_iff {arguments : Arguments} {token : String} :
    token ∈ arguments.flags ↔
      ∃ name, ∃ value ∈ arguments.values name, token = flag name value := by
  rw [flags, List.mem_flatMap]
  constructor
  · rintro ⟨⟨name, values⟩, listed, member⟩
    obtain ⟨value, given, rfl⟩ := List.mem_map.1 member
    exact ⟨name, value, (values_of_mem_entries listed).symm ▸ given, rfl⟩
  · rintro ⟨name, value, given, rfl⟩
    cases found : arguments.find? name with
    | none =>
      rw [values, found] at given
      cases given
    | some held =>
      rw [values, found] at given
      exact ⟨(name, held), Dictionary.mem_of_lookup_eq_some found, List.mem_map_of_mem given⟩

theorem forall_not_begins_iff {arguments : Arguments} {name : String}
    (plain : '=' ∉ name.toList) :
    (∀ token ∈ arguments.flags, ¬ Begins name token) ↔
      ∀ key : String, key.toList.takeWhile (· ≠ '=') = name.toList → arguments.values key = [] := by
  constructor
  · intro none key same
    refine List.eq_nil_iff_forall_not_mem.2 fun value given => ?_
    exact none _ (mem_flags_iff.2 ⟨key, value, given, rfl⟩) ((begins_flag_iff plain _ _).2 same)
  · intro none token member begins
    obtain ⟨key, value, given, rfl⟩ := mem_flags_iff.1 member
    rw [none key ((begins_flag_iff plain _ _).1 begins)] at given
    cases given

/-- The flags of a name stand together, in the order of its values. -/
theorem exists_flags_around {arguments : Arguments} {name : String} {held : List String}
    (found : arguments.find? name = some held) :
    ∃ before after, arguments.flags = before ++ held.map (flag name) ++ after ∧
      ∀ token ∈ before ++ after, ∃ key, key ≠ name ∧
        ∃ value ∈ arguments.values key, token = flag key value := by
  have listed := Dictionary.mem_of_lookup_eq_some found
  obtain ⟨front, back, split⟩ := List.append_of_mem listed
  refine ⟨front.flatMap fun entry => entry.2.map (flag entry.1),
    back.flatMap fun entry => entry.2.map (flag entry.1), ?_, ?_⟩
  · rw [flags, split, List.flatMap_append, List.flatMap_cons, List.append_assoc]
  · intro token member
    rw [← List.flatMap_append] at member
    obtain ⟨entry, other, made⟩ := List.mem_flatMap.1 member
    obtain ⟨value, given, rfl⟩ := List.mem_map.1 made
    have inEntries : entry ∈ arguments.entries := by
      rw [split]
      exact List.perm_middle.mem_iff.2 (List.mem_cons_of_mem _ other)
    refine ⟨entry.1, ?_, value, (values_of_mem_entries inEntries).symm ▸ given, rfl⟩
    -- no other entry has the name
    have distinct := arguments.nodup
    rw [split, List.map_append, List.map_cons, List.nodup_middle, List.nodup_cons,
      ← List.map_append] at distinct
    exact fun same => distinct.1 (List.mem_map.2 ⟨entry, other, same⟩)

end Arguments

end PipelineManifest
