/-!
Finite maps from names to values, listed in the order of the names. The order is part of the type,
so a name has at most one place in the list (`find?_eq_some_iff`), and an insertion is described by
what a later look-up finds (`find?_insert`).
-/

namespace PipelineManifest

/-- A finite map from names to values, listed by strictly increasing name. -/
structure Dictionary (α : Type) where
  entries : List (String × α)
  sorted : entries.Pairwise (fun a b => a.1 < b.1)
deriving DecidableEq

namespace Dictionary

variable {α β : Type}

/-- Puts one binding at its place in a sorted list, over an older binding of the same name. -/
def place (name : String) (value : α) : List (String × α) → List (String × α)
  | [] => [(name, value)]
  | (key, held) :: rest =>
    if name < key then (name, value) :: (key, held) :: rest
    else if name = key then (name, value) :: rest
    else (key, held) :: place name value rest

theorem fst_mem_place {name : String} {value : α} {entry : String × α} :
    ∀ {entries : List (String × α)}, entry ∈ place name value entries →
      entry.1 = name ∨ entry ∈ entries
  | [], h => by
    simp only [place, List.mem_singleton] at h
    exact .inl (h ▸ rfl)
  | (key, held) :: rest, h => by
    unfold place at h
    split at h
    · rcases List.mem_cons.1 h with h | h
      · exact .inl (h ▸ rfl)
      · exact .inr h
    · split at h
      · rcases List.mem_cons.1 h with h | h
        · exact .inl (h ▸ rfl)
        · exact .inr (List.mem_cons_of_mem _ h)
      · rcases List.mem_cons.1 h with h | h
        · exact .inr (h ▸ List.mem_cons_self)
        · exact (fst_mem_place h).imp id (List.mem_cons_of_mem _)

theorem sorted_place {name : String} {value : α} :
    ∀ {entries : List (String × α)}, entries.Pairwise (fun a b => a.1 < b.1) →
      (place name value entries).Pairwise (fun a b => a.1 < b.1)
  | [], _ => List.pairwise_singleton _ _
  | (key, held) :: rest, h => by
    have ⟨first, others⟩ := List.pairwise_cons.1 h
    unfold place
    split
    next below =>
      refine List.pairwise_cons.2 ⟨fun entry m => ?_, h⟩
      rcases List.mem_cons.1 m with m | m
      · exact m ▸ below
      · exact String.lt_trans below (first entry m)
    next notBelow =>
      split
      next same => exact List.pairwise_cons.2 ⟨fun entry m => same ▸ first entry m, others⟩
      next other =>
        refine List.pairwise_cons.2 ⟨fun entry m => ?_, sorted_place others⟩
        rcases fst_mem_place m with m | m
        · refine m ▸ Classical.byContradiction fun notAbove => other ?_
          exact String.le_antisymm (String.not_lt.1 notAbove) (String.not_lt.1 notBelow)
        · exact first entry m

def empty : Dictionary α := ⟨[], .nil⟩

instance : EmptyCollection (Dictionary α) := ⟨empty⟩
instance : Inhabited (Dictionary α) := ⟨empty⟩

/-- Binds a name, over an older binding. -/
def insert (map : Dictionary α) (name : String) (value : α) : Dictionary α :=
  ⟨place name value map.entries, sorted_place map.sorted⟩

/-- Binds names in order, so the last binding of a name stays. -/
def ofList (bindings : List (String × α)) : Dictionary α :=
  bindings.foldl (fun map binding => map.insert binding.1 binding.2) ∅

def find? (map : Dictionary α) (name : String) : Option α :=
  map.entries.lookup name

/-- The value of the last binding of a name. -/
def lastValue? (bindings : List (String × α)) (name : String) : Option α :=
  bindings.reverse.lookup name

def contains (map : Dictionary α) (name : String) : Bool :=
  (map.find? name).isSome

def keys (map : Dictionary α) : List String :=
  map.entries.map (·.1)

def values (map : Dictionary α) : List α :=
  map.entries.map (·.2)

/-- Applies a function to each binding; the names stay as they are. -/
def mapValues (f : String → α → β) (map : Dictionary α) : Dictionary β where
  entries := map.entries.map fun entry => (entry.1, f entry.1 entry.2)
  sorted := List.pairwise_map.2 (map.sorted.imp id)

theorem lookup_cons (name key : String) (held : α) (rest : List (String × α)) :
    ((key, held) :: rest).lookup name = if key = name then some held else rest.lookup name := by
  rw [List.lookup_cons]
  by_cases same : key = name
  · subst same
    simp
  · rw [beq_false_of_ne (Ne.symm same), if_neg same]

theorem lookup_place (name other : String) (value : α) :
    ∀ entries : List (String × α), (place name value entries).lookup other =
      if name = other then some value else entries.lookup other
  | [] => lookup_cons other name value []
  | (key, held) :: rest => by
    have ih := lookup_place name other value rest
    unfold place
    split
    · rw [lookup_cons]
    · split
      next same => subst same; by_cases eq : name = other <;> simp [lookup_cons, eq]
      next different =>
        by_cases eq : key = other
        · subst eq
          simp [different]
        · simp [lookup_cons, eq, ih]

theorem find?_insert (map : Dictionary α) (name other : String) (value : α) :
    (map.insert name value).find? other = if name = other then some value else map.find? other :=
  lookup_place name other value map.entries

@[simp] theorem find?_empty (name : String) : (∅ : Dictionary α).find? name = none := rfl

theorem contains_insert (map : Dictionary α) (name other : String) (value : α) :
    (map.insert name value).contains other = (decide (name = other) || map.contains other) := by
  unfold contains
  rw [find?_insert]
  by_cases same : name = other <;> simp [same]

theorem find?_mapValues (f : String → α → β) (map : Dictionary α) (name : String) :
    (map.mapValues f).find? name = (map.find? name).map (f name) := by
  unfold find? mapValues
  simp only
  induction map.entries with
  | nil => rfl
  | cons entry rest ih =>
    rw [List.map_cons, lookup_cons, lookup_cons, ih]
    by_cases same : entry.1 = name
    · rw [if_pos same, if_pos same, same, Option.map_some]
    · rw [if_neg same, if_neg same]

@[simp] theorem entries_mapValues (f : String → α → β) (map : Dictionary α) :
    (map.mapValues f).entries = map.entries.map fun entry => (entry.1, f entry.1 entry.2) := rfl

@[simp] theorem keys_mapValues (f : String → α → β) (map : Dictionary α) :
    (map.mapValues f).keys = map.keys := by
  rw [keys, entries_mapValues, List.map_map]
  rfl

theorem map_place (f : String → α → β) (name : String) (value : α) :
    ∀ entries : List (String × α),
      (place name value entries).map (fun entry => (entry.1, f entry.1 entry.2)) =
        place name (f name value) (entries.map fun entry => (entry.1, f entry.1 entry.2))
  | [] => rfl
  | (key, held) :: rest => by
    have ih := map_place f name value rest
    unfold place
    rw [List.map_cons]
    dsimp only
    split
    · rfl
    · split
      · rfl
      · rw [List.map_cons, ih]

theorem mapValues_insert (f : String → α → β) (map : Dictionary α) (name : String) (value : α) :
    (map.insert name value).mapValues f = (map.mapValues f).insert name (f name value) := by
  unfold insert mapValues
  congr 1
  exact map_place f name value map.entries

theorem mapValues_ofList (f : String → α → β) (bindings : List (String × α)) :
    (ofList bindings).mapValues f =
      ofList (bindings.map fun binding => (binding.1, f binding.1 binding.2)) := by
  rw [ofList, ofList, List.foldl_map]
  exact (List.foldl_hom (mapValues f) fun map binding =>
    (mapValues_insert f map binding.1 binding.2).symm).symm

theorem mem_of_lookup_eq_some {name : String} {value : α} {entries : List (String × α)}
    (found : entries.lookup name = some value) : (name, value) ∈ entries := by
  obtain ⟨before, after, rfl, -⟩ := List.lookup_eq_some_iff.1 found
  exact List.mem_append_right before List.mem_cons_self

/-- Of distinct names each has one value only, wherever it stands. -/
theorem lookup_eq_some_iff {name : String} {value : α} {entries : List (String × α)}
    (nodup : (entries.map (·.1)).Nodup) :
    entries.lookup name = some value ↔ (name, value) ∈ entries := by
  refine ⟨mem_of_lookup_eq_some, fun member => ?_⟩
  obtain ⟨before, after, rfl⟩ := List.append_of_mem member
  rw [List.map_append] at nodup
  have apart := (List.nodup_append.1 nodup).2.2
  refine List.lookup_eq_some_iff.2 ⟨before, after, rfl, fun other inBefore => bne_iff_ne.2 ?_⟩
  exact fun same => apart _ (List.mem_map_of_mem inBefore) name List.mem_cons_self same.symm

theorem sorted_keys (map : Dictionary α) : map.keys.Pairwise (· < ·) :=
  List.pairwise_map.2 map.sorted

theorem keys_nodup (map : Dictionary α) : map.keys.Nodup :=
  map.sorted_keys.imp String.ne_of_lt

/-- A name is bound to what is listed beside it. -/
theorem find?_eq_some_iff {map : Dictionary α} {name : String} {value : α} :
    map.find? name = some value ↔ (name, value) ∈ map.entries :=
  lookup_eq_some_iff map.keys_nodup

theorem isSome_lookup_iff {name : String} {entries : List (String × α)} :
    (entries.lookup name).isSome = true ↔ name ∈ entries.map (·.1) := by
  rw [List.lookup_isSome_iff, List.mem_map]
  refine exists_congr fun entry => and_congr_right fun _ => ?_
  rw [beq_iff_eq, eq_comm]

/-- Of distinct names the items of each are listed in one place. -/
theorem flatMap_filter_eq_lookup {β : Type} (name : String) :
    ∀ {entries : List (String × List β)}, (entries.map (·.1)).Nodup →
      (entries.filter (·.1 = name)).flatMap (·.2) = (entries.lookup name).getD []
  | [], _ => rfl
  | (key, held) :: rest, distinct => by
    have ⟨absent, others⟩ := List.nodup_cons.1 distinct
    have ih := flatMap_filter_eq_lookup name others
    rw [List.filter_cons, lookup_cons]
    by_cases named : key = name
    · have alone : rest.filter (·.1 = name) = [] := by
        refine List.filter_eq_nil_iff.2 fun entry member same => absent ?_
        exact List.mem_map.2 ⟨entry, member, (of_decide_eq_true same).trans named.symm⟩
      simp [named, alone]
    · simp [named, ih]

@[simp] theorem lastValue?_nil (name : String) :
    lastValue? ([] : List (String × α)) name = none := rfl

@[simp] theorem lastValue?_cons (key : String) (held : α) (rest : List (String × α))
    (name : String) :
    lastValue? ((key, held) :: rest) name =
      (lastValue? rest name).or (if key = name then some held else none) := by
  rw [lastValue?, List.reverse_cons, List.lookup_append, lookup_cons]
  rfl

theorem lastValue?_concat (bindings : List (String × α)) (binding : String × α) (name : String) :
    lastValue? (bindings ++ [binding]) name =
      if binding.1 = name then some binding.2 else lastValue? bindings name := by
  rw [lastValue?, List.reverse_append, List.reverse_singleton, List.singleton_append, lookup_cons]
  rfl

theorem isSome_lastValue?_iff {bindings : List (String × α)} {name : String} :
    (lastValue? bindings name).isSome = true ↔ name ∈ bindings.map (·.1) := by
  rw [lastValue?, isSome_lookup_iff, List.map_reverse, List.mem_reverse]

theorem mem_of_lastValue?_eq_some {bindings : List (String × α)} {name : String} {value : α}
    (found : lastValue? bindings name = some value) : (name, value) ∈ bindings :=
  List.mem_reverse.1 (mem_of_lookup_eq_some found)

/-- A name is bound if it is listed. -/
theorem contains_iff_mem_keys {map : Dictionary α} {name : String} :
    map.contains name = true ↔ name ∈ map.keys :=
  isSome_lookup_iff

theorem mem_values_iff {map : Dictionary α} {value : α} :
    value ∈ map.values ↔ ∃ name, map.find? name = some value := by
  unfold values
  rw [List.mem_map]
  constructor
  · rintro ⟨⟨name, _⟩, member, rfl⟩
    exact ⟨name, find?_eq_some_iff.2 member⟩
  · rintro ⟨name, found⟩
    exact ⟨(name, value), find?_eq_some_iff.1 found, rfl⟩

theorem mem_values_insert {map : Dictionary α} {name : String} {value other : α}
    (member : other ∈ (map.insert name value).values) : other = value ∨ other ∈ map.values := by
  obtain ⟨key, found⟩ := mem_values_iff.1 member
  rw [find?_insert] at found
  by_cases same : name = key
  · rw [if_pos same] at found
    exact .inl (Option.some.inj found).symm
  · rw [if_neg same] at found
    exact .inr (mem_values_iff.2 ⟨key, found⟩)

theorem find?_foldr_insert (name : String) : ∀ bindings : List (String × α),
    (bindings.foldr (fun binding map => map.insert binding.1 binding.2)
      (∅ : Dictionary α)).find? name = bindings.lookup name
  | [] => rfl
  | (key, value) :: rest => by
    rw [List.foldr_cons, find?_insert, find?_foldr_insert name rest, lookup_cons]

/-- Of several bindings of one name the last is kept. -/
theorem find?_ofList (bindings : List (String × α)) (name : String) :
    (ofList bindings).find? name = lastValue? bindings name := by
  rw [ofList, List.foldl_eq_foldr_reverse, find?_foldr_insert, lastValue?]

/-- A binding is kept if no later one has its name. -/
theorem find?_ofList_append_cons {before after : List (String × α)} {name : String} {value : α}
    (last : name ∉ after.map (·.1)) :
    (ofList (before ++ (name, value) :: after)).find? name = some value := by
  have unbound : after.reverse.lookup name = none := by
    rw [← Option.not_isSome_iff_eq_none, isSome_lookup_iff, List.map_reverse, List.mem_reverse]
    exact last
  rw [find?_ofList, lastValue?, List.reverse_append, List.reverse_cons, List.lookup_append,
    List.lookup_append, unbound, List.lookup_cons_self]
  rfl

theorem exists_binding_of_mem_values {bindings : List (String × α)} {value : α}
    (member : value ∈ (ofList bindings).values) : ∃ name, (name, value) ∈ bindings := by
  obtain ⟨name, found⟩ := mem_values_iff.1 member
  rw [find?_ofList] at found
  exact ⟨name, mem_of_lastValue?_eq_some found⟩

/-- The names of a list of bindings are those of the map that is made from it. -/
theorem mem_keys_ofList {bindings : List (String × α)} {name : String} :
    name ∈ (ofList bindings).keys ↔ name ∈ bindings.map (·.1) := by
  rw [← contains_iff_mem_keys, contains, find?_ofList, isSome_lastValue?_iff]

theorem mem_entries_ofList {bindings : List (String × α)} (nodup : (bindings.map (·.1)).Nodup)
    {entry : String × α} : entry ∈ (ofList bindings).entries ↔ entry ∈ bindings := by
  obtain ⟨name, value⟩ := entry
  have reversed : (bindings.reverse.map (·.1)).Nodup := by
    rw [List.map_reverse]
    exact (List.reverse_perm _).nodup_iff.2 nodup
  rw [← find?_eq_some_iff, find?_ofList, lastValue?, lookup_eq_some_iff reversed, List.mem_reverse]

theorem nodup_of_names {entries : List (String × α)} (names : (entries.map (·.1)).Nodup) :
    entries.Nodup :=
  List.Pairwise.of_map _ (fun _ _ different same => different (congrArg Prod.fst same)) names

/-- Bindings of different names are all kept, in another order. -/
theorem entries_ofList_perm {bindings : List (String × α)} (nodup : (bindings.map (·.1)).Nodup) :
    (ofList bindings).entries.Perm bindings :=
  (List.perm_ext_iff_of_nodup (nodup_of_names (ofList bindings).keys_nodup)
    (nodup_of_names nodup)).2 fun _ => mem_entries_ofList nodup

/-- The order of the names leaves only one way to list the bindings of a map. -/
theorem eq_of_perm {first second : Dictionary α} (same : first.entries.Perm second.entries) :
    first = second := by
  have listed : first.entries = second.entries := by
    refine same.eq_of_pairwise (fun _ _ _ _ below above => ?_) first.sorted second.sorted
    exact absurd above (String.lt_asymm below)
  obtain ⟨entries, sorted⟩ := first
  cases listed
  rfl

/-- Maps are told apart by what is found in them. -/
theorem ext_find? {first second : Dictionary α}
    (same : ∀ name, first.find? name = second.find? name) : first = second := by
  refine eq_of_perm ((List.perm_ext_iff_of_nodup (nodup_of_names first.keys_nodup)
    (nodup_of_names second.keys_nodup)).2 ?_)
  rintro ⟨name, value⟩
  rw [← find?_eq_some_iff, ← find?_eq_some_iff, same]

theorem ofList_perm {bindings other : List (String × α)} (nodup : (bindings.map (·.1)).Nodup)
    (same : bindings.Perm other) : ofList bindings = ofList other := by
  have listed := entries_ofList_perm ((same.map (·.1)).nodup_iff.1 nodup)
  exact eq_of_perm ((entries_ofList_perm nodup).trans (same.trans listed.symm))

@[simp] theorem ofList_entries (map : Dictionary α) : ofList map.entries = map :=
  eq_of_perm (entries_ofList_perm map.keys_nodup)

theorem lastValue?_entries (map : Dictionary α) (name : String) :
    lastValue? map.entries name = map.find? name := by
  rw [← find?_ofList, ofList_entries]

end Dictionary

end PipelineManifest
