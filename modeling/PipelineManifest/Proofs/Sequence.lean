import Mathlib.Data.List.Forall2
import Mathlib.Data.List.TakeWhile

/-!
# Sequences

How a sequence of two steps comes to its result or to its error, what comes of one step for each
item of a list if none of them fails, how lists are put together, and what is left of a list when
items are taken by their value or by their key.
-/

namespace PipelineManifest

namespace Sequence

/-! ## Steps that can fail -/

section

variable {ε α β : Type} {first : Except ε α} {second : α → Except ε β}

@[simp] theorem ok_bind (value : α) (second : α → Except ε β) :
    (Except.ok value >>= second) = second value := rfl

theorem bind_eq_ok_iff {result : β} :
    (first >>= second) = .ok result ↔ ∃ value, first = .ok value ∧ second value = .ok result := by
  cases first with
  | error cause =>
    constructor
    · intro impossible
      cases impossible
    · rintro ⟨value, impossible, _⟩
      cases impossible
  | ok value =>
    refine ⟨fun succeeds => ⟨value, rfl, succeeds⟩, ?_⟩
    rintro ⟨_, same, succeeds⟩
    cases same
    exact succeeds

theorem bind_eq_error_iff {cause : ε} :
    (first >>= second) = .error cause ↔
      first = .error cause ∨ ∃ value, first = .ok value ∧ second value = .error cause := by
  cases first with
  | error other =>
    refine ⟨fun failed => .inl (Except.error.inj failed ▸ rfl), ?_⟩
    rintro (same | ⟨value, impossible, _⟩)
    · cases same
      rfl
    · cases impossible
  | ok value =>
    refine ⟨fun failed => .inr ⟨value, rfl, failed⟩, ?_⟩
    rintro (impossible | ⟨_, same, failed⟩)
    · cases impossible
    · cases same
      exact failed

theorem toOption_bind (first : Except ε α) (second : α → Except ε β) :
    (first >>= second).toOption = first.toOption.bind fun value => (second value).toOption := by
  cases first <;> rfl

/-- A result of which something is seen is there. -/
theorem exists_ok_of_toOption {attempt : Except ε α} {look : α → β} {seen : β}
    (sees : attempt.toOption.map look = some seen) : ∃ a, attempt = .ok a ∧ look a = seen := by
  cases attempt with
  | error error => cases sees
  | ok a => exact ⟨a, rfl, Option.some.inj sees⟩

/-- What is seen of a result in the end is seen of the value that is made from it on the way. -/
theorem look_eq_of_bind {γ : Type} {attempt : Except ε α} {made : α} {next : α → Option β}
    {value : β} {look : β → γ} {seen : γ} (succeeds : attempt = .ok made)
    (follows : next made = some value)
    (sees : (attempt.toOption.bind next).map look = some seen) : look value = seen := by
  rw [succeeds] at sees
  exact Option.some.inj ((congrArg (Option.map look) follows).symm.trans sees)

theorem mapM_eq_pure_map {m : Type → Type} [Monad m] [LawfulMonad m] {step : α → m β}
    {result : α → β} {items : List α} (each : ∀ item ∈ items, step item = pure (result item)) :
    items.mapM step = pure (items.map result) := by
  induction items with
  | nil => rw [List.mapM_nil, List.map_nil]
  | cons item rest ih =>
    rw [List.mapM_cons, each item List.mem_cons_self, pure_bind,
      ih fun other member => each other (List.mem_cons_of_mem _ member), pure_bind, List.map_cons]

/-- A list is made position by position. -/
theorem mapM_eq_some_iff {step : α → Option β} {items : List α}
    {related : α → β → Prop} {results : List β}
    (each : ∀ item ∈ items, ∀ result, step item = some result ↔ related item result) :
    items.mapM step = some results ↔ List.Forall₂ related items results := by
  induction items generalizing results with
  | nil =>
    rw [List.mapM_nil, List.forall₂_nil_left_iff]
    exact Option.some_inj.trans eq_comm
  | cons item rest ih =>
    have later : ∀ others, rest.mapM step = some others ↔ List.Forall₂ related rest others :=
      fun others => ih fun other member => each other (List.mem_cons_of_mem _ member)
    rw [List.mapM_cons, List.forall₂_cons_left_iff]
    constructor
    · intro succeeds
      obtain ⟨first, ends, succeeds⟩ := Option.bind_eq_some_iff.1 succeeds
      obtain ⟨others, follow, same⟩ := Option.bind_eq_some_iff.1 succeeds
      exact ⟨first, others, (each item List.mem_cons_self first).1 ends, (later others).1 follow,
        (Option.some.inj same).symm⟩
    · rintro ⟨first, others, ends, follow, rfl⟩
      refine Option.bind_eq_some_iff.2 ⟨first, (each item List.mem_cons_self first).2 ends, ?_⟩
      exact Option.bind_eq_some_iff.2 ⟨others, (later others).2 follow, rfl⟩

theorem exists_of_mem_mapM {step : α → Option β} {items : List α} :
    ∀ {results : List β}, items.mapM step = some results →
      ∀ {result : β}, result ∈ results → ∃ item ∈ items, step item = some result := by
  induction items with
  | nil =>
    intro results succeeds result member
    obtain rfl := Option.some.inj succeeds
    cases member
  | cons item rest ih =>
    intro results succeeds result member
    rw [List.mapM_cons] at succeeds
    obtain ⟨first, ends, succeeds⟩ := Option.bind_eq_some_iff.1 succeeds
    obtain ⟨others, follow, same⟩ := Option.bind_eq_some_iff.1 succeeds
    obtain rfl := Option.some.inj same
    rcases List.mem_cons.1 member with rfl | later
    · exact ⟨item, List.mem_cons_self, ends⟩
    · obtain ⟨source, listed, made⟩ := ih follow later
      exact ⟨source, List.mem_cons_of_mem _ listed, made⟩

/-- What succeeds for each item leaves out nothing. -/
theorem filterMap_of_mapM {step : α → Option β} {items : List α} :
    ∀ {results : List β}, items.mapM step = some results → items.filterMap step = results := by
  induction items with
  | nil => exact fun succeeds => Option.some.inj succeeds
  | cons item rest ih =>
    intro results succeeds
    rw [List.mapM_cons] at succeeds
    obtain ⟨first, ends, succeeds⟩ := Option.bind_eq_some_iff.1 succeeds
    obtain ⟨others, follow, same⟩ := Option.bind_eq_some_iff.1 succeeds
    obtain rfl := Option.some.inj same
    rw [List.filterMap_cons_some ends, ih follow]

theorem isSome_mapM_iff {step : α → Option β} {items : List α} :
    (items.mapM step).isSome ↔ ∀ item ∈ items, (step item).isSome := by
  induction items with
  | nil =>
    refine iff_of_true rfl ?_
    intro item impossible
    cases impossible
  | cons item rest ih =>
    rw [List.forall_mem_cons, ← ih, List.mapM_cons]
    cases step item with
    | none =>
      refine iff_of_false Bool.false_ne_true ?_
      rintro ⟨impossible, -⟩
      cases impossible
    | some first => cases rest.mapM step <;> simp

end

/-! ## Items of lists -/

section

variable {α : Type}

/-- Two lists of the same items are empty, or have one item, or have more. -/
theorem none_one_or_more {items other : List α} (same : items.Perm other) :
    (items = [] ∧ other = []) ∨ (∃ item, items = [item] ∧ other = [item]) ∨
      ∃ first second rest first' second' rest', items = first :: second :: rest ∧
        other = first' :: second' :: rest' := by
  match items, other, same with
  | [], other, same => exact .inl ⟨rfl, same.nil_eq.symm⟩
  | [item], other, same => exact .inr (.inl ⟨item, rfl, same.symm.eq_singleton⟩)
  | _ :: _ :: _, [], same => exact absurd same.length_eq (by simp)
  | _ :: _ :: _, [_], same => exact absurd same.length_eq (by simp)
  | _ :: _ :: _, _ :: _ :: _, _ => exact .inr (.inr ⟨_, _, _, _, _, _, rfl, rfl⟩)

/-- A list that is put together one item at a time, with a separator behind each but the last. -/
theorem eq_intercalate {β : Type} {separator : β} {write : α → List β} {joined : List α → List β}
    (none : joined [] = []) (one : ∀ item, joined [item] = write item)
    (more : ∀ item other rest, joined (item :: other :: rest) =
      write item ++ separator :: joined (other :: rest)) :
    ∀ items, joined items = [separator].intercalate (items.map write)
  | [] => none
  | [item] => (one item).trans List.intercalate_singleton.symm
  | item :: other :: rest => by
    rw [more, eq_intercalate none one more (other :: rest)]
    simp only [List.map_cons, List.intercalate_cons_cons, List.append_assoc, List.singleton_append]

/-- A list ends in an item of its last part. -/
theorem getLast?_append_ne {items : List α} {item : α} (nonempty : items ≠ [])
    (absent : item ∉ items) (before : List α) : (before ++ items).getLast? ≠ some item := by
  rw [List.getLast?_append_of_ne_nil _ nonempty]
  exact fun last => absent (List.mem_of_getLast? last)

variable [DecidableEq α]

/-- An item ends what stands ahead of it, unless one in that does. -/
theorem takeWhile_append_cons (before after : List α) (c : α) :
    (before ++ c :: after).takeWhile (· ≠ c) = before.takeWhile (· ≠ c) := by
  rw [List.takeWhile_append, List.takeWhile_cons_of_neg (by simp), List.append_nil]
  split
  next whole => exact ((List.takeWhile_prefix _).eq_of_length whole).symm
  next => rfl

theorem takeWhile_of_plain {items : List α} {c : α} (plain : c ∉ items) :
    items.takeWhile (· ≠ c) = items :=
  List.takeWhile_eq_self_iff.2 fun _ member => decide_eq_true fun same => plain (same ▸ member)

theorem eraseDups_concat (items : List α) (item : α) :
    (items ++ [item]).eraseDups =
      if item ∈ items then items.eraseDups else items.eraseDups ++ [item] := by
  rw [List.eraseDups_append, List.removeAll, List.filter_cons]
  by_cases known : item ∈ items
  · simp [known]
  · simp [known, List.eraseDups_cons]

theorem eraseDups_eq_self {items : List α} (distinct : items.Nodup) :
    items.eraseDups = items := by
  induction items with
  | nil => rfl
  | cons item rest ih =>
    have ⟨absent, others⟩ := List.nodup_cons.1 distinct
    have apart : rest.filter (fun other => !other == item) = rest := by
      refine List.filter_eq_self.2 fun other member => ?_
      simpa using fun same : other = item => absent (same ▸ member)
    rw [List.eraseDups_cons, apart, ih others]

end

section

variable {α β : Type} [DecidableEq β]

theorem filter_eq_singleton {key : α → β} {items : List α}
    (distinct : (items.map key).Nodup) {item : α} (member : item ∈ items) :
    items.filter (key · = key item) = [item] := by
  obtain ⟨before, after, rfl⟩ := List.append_of_mem member
  rw [List.map_append, List.map_cons] at distinct
  obtain ⟨-, tail, apart⟩ := List.nodup_append.1 distinct
  have notBefore : ∀ other ∈ before, key other ≠ key item := fun other inBefore =>
    apart _ (List.mem_map_of_mem inBefore) _ List.mem_cons_self
  have notAfter : ∀ other ∈ after, key other ≠ key item := fun other inAfter same =>
    (List.nodup_cons.1 tail).1 (same ▸ List.mem_map_of_mem inAfter)
  rw [List.filter_append, List.filter_cons_of_pos (by simp),
    List.filter_eq_nil_iff.2 (by simpa using notBefore),
    List.filter_eq_nil_iff.2 (by simpa using notAfter)]
  rfl

theorem find?_eq_some {key : α → β} {items : List α}
    (distinct : (items.map key).Nodup) {item : α} (member : item ∈ items) {name : β}
    (named : key item = name) : items.find? (key · = name) = some item := by
  rw [← named, ← List.head?_filter, filter_eq_singleton distinct member]
  rfl

end

end Sequence

end PipelineManifest
