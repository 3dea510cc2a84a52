import Mathlib.Algebra.GroupWithZero.Nat
import Mathlib.Data.List.Induction
import PipelineManifest.Arguments
import PipelineManifest.Dictionary
import PipelineManifest.Proofs.Sequence

/-!
# Merged arguments

Arguments are determined by their names in order and by the values under each name
(`Arguments.ext_values`). Whatever enters arguments enters one name with some values after the
other, so all of it is one walk, `enter`, and a merge of layers is the walk through what each of
them holds.

Results:
1. `names_enter`, `values_enter`, `length_flags_enter`: what is there after a walk.
2. `append_enter`: to append what a walk has entered is to walk on, so appending is associative
   (`append_assoc`) and layers can be merged in groups (`merge_flatten`).
3. `collects_ofNamed`: the arguments of a list have its names in the order of their first
   appearance, each with all its values.
4. `merge_ofNamed`: merged layers are the arguments of all layers one behind the other.
-/

namespace PipelineManifest

namespace Arguments

/-! ## Names and values -/

/-- The values under a name. -/
def values (arguments : Arguments) (name : String) : List String :=
  (arguments.find? name).getD []

theorem values_of_mem_entries {arguments : Arguments} {entry : String × List String}
    (member : entry ∈ arguments.entries) : arguments.values entry.1 = entry.2 := by
  have found := (Dictionary.lookup_eq_some_iff arguments.nodup).2 member
  rw [values, find?, found, Option.getD_some]

/-- A name that is there may have no values, so `values` does not tell whether it is. -/
theorem find?_eq_values (arguments : Arguments) (name : String) :
    arguments.find? name =
      if name ∈ arguments.names then some (arguments.values name) else none := by
  have listed : (arguments.find? name).isSome = true ↔ name ∈ arguments.names :=
    Dictionary.isSome_lookup_iff
  unfold values
  cases found : arguments.find? name with
  | none =>
    rw [found] at listed
    rw [if_neg fun member => nomatch listed.2 member]
  | some held =>
    rw [found] at listed
    rw [if_pos (listed.1 rfl), Option.getD_some]

theorem entries_eq_map (arguments : Arguments) :
    arguments.entries = arguments.names.map fun name => (name, arguments.values name) := by
  rw [names, List.map_map]
  refine (List.map_id _).symm.trans (List.map_congr_left fun entry member => ?_)
  exact Prod.ext rfl (values_of_mem_entries member).symm

theorem ext_values {first second : Arguments} (sameNames : first.names = second.names)
    (sameValues : ∀ name, first.values name = second.values name) : first = second := by
  have same : first.entries = second.entries := by
    rw [entries_eq_map first, entries_eq_map second, sameNames]
    exact List.map_congr_left fun name _ => Prod.ext rfl (sameValues name)
  cases first
  cases second
  cases same
  rfl

/-! ## One name with some values -/

theorem names_extend (arguments : Arguments) (name : String) (added : List String) :
    (arguments.extend name added).names =
      if name ∈ arguments.names then arguments.names else arguments.names ++ [name] :=
  names_appendTo name added arguments.entries

theorem lookup_appendTo (name other : String) (added : List String) :
    ∀ entries : List (String × List String),
      ((appendTo name added entries).lookup other).getD [] =
        (entries.lookup other).getD [] ++ if name = other then added else []
  | [] => by
    by_cases same : name = other <;> simp [appendTo, Dictionary.lookup_cons, same]
  | (key, held) :: rest => by
    have ih := lookup_appendTo name other added rest
    unfold appendTo
    by_cases named : key = name
    · subst named
      by_cases same : key = other <;> simp [Dictionary.lookup_cons, same]
    · rw [if_neg named, Dictionary.lookup_cons, Dictionary.lookup_cons]
      by_cases same : key = other
      · have apart : name ≠ other := fun again => named (same.trans again.symm)
        simp [same, apart]
      · rw [if_neg same, if_neg same, ih]

theorem values_extend (arguments : Arguments) (name other : String) (added : List String) :
    (arguments.extend name added).values other =
      arguments.values other ++ if name = other then added else [] := by
  exact lookup_appendTo name other added arguments.entries

theorem length_flags (arguments : Arguments) :
    arguments.flags.length = (arguments.entries.map (·.2.length)).sum := by
  simp [flags, List.length_flatMap]

theorem length_flags_extend (arguments : Arguments) (name : String) (added : List String) :
    (arguments.extend name added).flags.length = arguments.flags.length + added.length := by
  rw [length_flags, length_flags]
  show ((appendTo name added arguments.entries).map (·.2.length)).sum = _
  induction arguments.entries with
  | nil => simp [appendTo]
  | cons entry rest ih =>
    unfold appendTo
    by_cases named : entry.1 = name
    · rw [if_pos named]
      simp only [List.map_cons, List.sum_cons, List.length_append]
      omega
    · rw [if_neg named]
      simp only [List.map_cons, List.sum_cons, ih]
      omega

/-! ## Many names with their values -/

/-- Enters names with values in order. -/
def enter (arguments : Arguments) (entries : List (String × List String)) : Arguments :=
  entries.foldl (fun entered entry => entered.extend entry.1 entry.2) arguments

theorem names_enter (arguments : Arguments) (entries : List (String × List String)) :
    (arguments.enter entries).names = (arguments.names ++ entries.map (·.1)).eraseDups := by
  induction entries using List.reverseRecOn with
  | nil =>
    rw [List.map_nil, List.append_nil]
    exact (Sequence.eraseDups_eq_self arguments.nodup).symm
  | append_singleton entries entry ih =>
    rw [enter, List.foldl_append, List.foldl_cons, List.foldl_nil, ← enter, names_extend, ih,
      List.map_append, List.map_singleton, ← List.append_assoc, Sequence.eraseDups_concat]
    simp only [List.mem_eraseDups]

theorem values_enter (entries : List (String × List String)) (name : String) :
    ∀ arguments : Arguments, (arguments.enter entries).values name =
      arguments.values name ++ (entries.filter (·.1 = name)).flatMap (·.2) := by
  induction entries with
  | nil => exact fun arguments => (List.append_nil _).symm
  | cons entry rest ih =>
    intro arguments
    rw [enter, List.foldl_cons]
    refine (ih _).trans ?_
    rw [values_extend, List.append_assoc, List.filter_cons]
    by_cases named : entry.1 = name <;> simp [named]

theorem length_flags_enter (entries : List (String × List String)) :
    ∀ arguments : Arguments, (arguments.enter entries).flags.length =
      arguments.flags.length + (entries.map (·.2.length)).sum := by
  induction entries with
  | nil => exact fun arguments => rfl
  | cons entry rest ih =>
    intro arguments
    rw [enter, List.foldl_cons]
    refine (ih _).trans ?_
    rw [length_flags_extend, List.map_cons, List.sum_cons, Nat.add_assoc]

theorem enter_append (arguments : Arguments) (entries more : List (String × List String)) :
    arguments.enter (entries ++ more) = (arguments.enter entries).enter more :=
  List.foldl_append

/-! ## Appending -/

theorem names_append (arguments layer : Arguments) :
    (arguments.append layer).names = (arguments.names ++ layer.names).eraseDups :=
  names_enter arguments layer.entries

theorem values_append (arguments layer : Arguments) (name : String) :
    (arguments.append layer).values name = arguments.values name ++ layer.values name := by
  refine (values_enter layer.entries name arguments).trans ?_
  rw [Dictionary.flatMap_filter_eq_lookup name layer.nodup, ← find?]
  rfl

/-- One step: what is entered into a layer can be entered behind it where it is appended. -/
theorem append_extend (arguments layer : Arguments) (name : String) (added : List String) :
    arguments.append (layer.extend name added) = (arguments.append layer).extend name added := by
  refine ext_values ?_ fun other => ?_
  · rw [names_append, names_extend, names_extend, names_append]
    by_cases known : name ∈ layer.names
    · rw [if_pos known, if_pos (List.mem_eraseDups.2 (List.mem_append_right _ known))]
    · rw [if_neg known, ← List.append_assoc, Sequence.eraseDups_concat]
      simp only [List.mem_eraseDups]
  · rw [values_append, values_extend, values_extend, values_append, List.append_assoc]

/-- A whole walk: it makes no difference whether arguments are appended behind it or it begins
behind them. -/
theorem append_enter (entries : List (String × List String)) :
    ∀ arguments layer : Arguments,
      arguments.append (layer.enter entries) = (arguments.append layer).enter entries := by
  induction entries with
  | nil => exact fun _ _ => rfl
  | cons entry rest ih =>
    intro arguments layer
    rw [enter, List.foldl_cons]
    refine (ih _ _).trans ?_
    rw [append_extend]
    rfl

theorem append_empty (arguments : Arguments) : arguments.append ∅ = arguments := rfl

theorem empty_append (arguments : Arguments) : (∅ : Arguments).append arguments = arguments := by
  refine ext_values ?_ fun name => ?_
  · rw [names_append]
    exact Sequence.eraseDups_eq_self arguments.nodup
  · rw [values_append]
    rfl

theorem append_assoc (first second third : Arguments) :
    (first.append second).append third = first.append (second.append third) :=
  (append_enter third.entries first second).symm

/-! ## Merging -/

theorem foldl_append_eq (layers : List Arguments) :
    ∀ arguments : Arguments, layers.foldl append arguments = arguments.append (merge layers) := by
  induction layers with
  | nil => exact fun arguments => rfl
  | cons layer rest ih =>
    intro arguments
    have merged : merge (layer :: rest) = layer.append (merge rest) := by
      rw [merge, List.foldl_cons, ih, empty_append]
    rw [List.foldl_cons, ih, append_assoc, merged]

theorem merge_cons (layer : Arguments) (layers : List Arguments) :
    merge (layer :: layers) = layer.append (merge layers) := by
  rw [merge, List.foldl_cons, foldl_append_eq, empty_append]

theorem merge_append (layers more : List Arguments) :
    merge (layers ++ more) = (merge layers).append (merge more) := by
  rw [merge, List.foldl_append, foldl_append_eq]
  rfl

/-- Layers can be merged in groups. -/
theorem merge_flatten (groups : List (List Arguments)) :
    merge (groups.map merge) = merge groups.flatten := by
  induction groups with
  | nil => rfl
  | cons group rest ih => rw [List.map_cons, merge_cons, ih, List.flatten_cons, merge_append]

/-! ## Layers as they are given -/

/-- The values that a layer gives to a name, in order and with all repeats. -/
def given (name : String) (layer : List NamedArgument) : List String :=
  (layer.filter (·.name = name)).flatMap (·.value.texts)

/-- What an argument enters. -/
def binding (argument : NamedArgument) : String × List String :=
  (argument.name, argument.value.texts)

theorem ofNamed_eq_enter (layer : List NamedArgument) :
    ofNamed layer = (∅ : Arguments).enter (layer.map binding) := by
  rw [enter, List.foldl_map]
  rfl

theorem append_ofNamed (arguments : Arguments) (layer : List NamedArgument) :
    arguments.append (ofNamed layer) = arguments.enter (layer.map binding) := by
  rw [ofNamed_eq_enter, append_enter, append_empty]

theorem ofNamed_append (layer more : List NamedArgument) :
    ofNamed (layer ++ more) = (ofNamed layer).append (ofNamed more) := by
  rw [append_ofNamed, ofNamed_eq_enter, List.map_append, enter_append, ← ofNamed_eq_enter]

theorem merge_map_ofNamed (layers : List (List NamedArgument)) :
    merge (layers.map ofNamed) = ofNamed layers.flatten := by
  induction layers with
  | nil => rfl
  | cons layer rest ih => rw [List.map_cons, merge_cons, ih, List.flatten_cons, ofNamed_append]

theorem names_ofNamed (layer : List NamedArgument) :
    (ofNamed layer).names = (layer.map (·.name)).eraseDups := by
  rw [ofNamed_eq_enter, names_enter, List.map_map]
  rfl

theorem values_ofNamed (layer : List NamedArgument) (name : String) :
    (ofNamed layer).values name = given name layer := by
  rw [ofNamed_eq_enter, values_enter, List.filter_map, List.flatMap_map]
  rfl

theorem length_flags_ofNamed (layer : List NamedArgument) :
    (ofNamed layer).flags.length = (layer.map (·.value.texts.length)).sum := by
  rw [ofNamed_eq_enter, length_flags_enter, List.map_map]
  exact Nat.zero_add _

/-- The arguments hold all that layers give. -/
structure Collects (arguments : Arguments) (layers : List (List NamedArgument)) : Prop where
  /-- Each name stands where it first appears in any layer. -/
  names : arguments.names = (layers.flatten.map (·.name)).eraseDups
  /-- A name is there also if it is only given without values. -/
  values : ∀ name, arguments.find? name =
    if name ∈ layers.flatten.map (·.name) then some (layers.flatMap (given name)) else none
  /-- There is a token for each value. -/
  tokens : arguments.flags.length =
    (layers.map fun layer => (layer.map (·.value.texts.length)).sum).sum

theorem given_flatten (name : String) (layers : List (List NamedArgument)) :
    given name layers.flatten = layers.flatMap (given name) := by
  induction layers with
  | nil => rfl
  | cons layer rest ih =>
    rw [List.flatten_cons, given, List.filter_append, List.flatMap_append, List.flatMap_cons, ← ih]
    rfl

theorem collects_ofNamed (layers : List (List NamedArgument)) :
    (ofNamed layers.flatten).Collects layers where
  names := names_ofNamed layers.flatten
  values := by
    intro name
    rw [find?_eq_values, values_ofNamed, names_ofNamed, given_flatten]
    simp only [List.mem_eraseDups]
  tokens := by
    rw [length_flags_ofNamed, List.map_flatten, List.sum_flatten, List.map_map]
    rfl

theorem merge_pair (first second : Arguments) : merge [first, second] = first.append second := by
  rw [merge_cons, merge_cons]
  rfl

/-- Layers that are merged are the arguments of all their entries, one layer behind the other, and
hold what all of them give. They can be merged in groups, and empty arguments make no difference. -/
theorem merge_ofNamed (layers : List (List NamedArgument)) :
    merge (layers.map ofNamed) = ofNamed layers.flatten ∧
    (merge (layers.map ofNamed)).Collects layers ∧
    (∀ first second third : Arguments,
      merge [merge [first, second], third] = merge [first, merge [second, third]]) ∧
    (∀ groups : List (List Arguments), merge (groups.map merge) = merge groups.flatten) ∧
    ∀ arguments : Arguments,
      merge [∅, arguments] = arguments ∧ merge [arguments, ∅] = arguments := by
  refine ⟨merge_map_ofNamed layers, ?_, fun first second third => ?_, merge_flatten,
    fun arguments => ⟨?_, merge_pair arguments ∅⟩⟩
  · rw [merge_map_ofNamed]
    exact collects_ofNamed layers
  · rw [merge_pair, merge_pair, merge_pair, merge_pair, append_assoc]
  · rw [merge_pair, empty_append]

/-- A name that is given without values stands before one that is given later with values. -/
example : (merge [ofNamed [⟨"a", .several []⟩, ⟨"b", .single "1"⟩],
    ofNamed [⟨"b", .single "1"⟩, ⟨"a", .several ["2", "3"]⟩]]).flags =
    ["--a=2", "--a=3", "--b=1", "--b=1"] := by decide +kernel

end Arguments

end PipelineManifest
