import Mathlib.Algebra.Group.Int.Defs
import PipelineManifest.Yaml.Value

/-!
# Values that a document delivers

A reading is a sequence of steps that follow aliases. What a node is read as is told by its kind: a
scalar gives a value that is no container, and a container gives one of what is inside it. Whole
numbers come from scalars alone, so none has more than 64 bits.

Results:
1. `Decoding.exists_of_mem_mapM` and `Decoding.mapM_bind_lift`: reading a list item by item.
2. `Value.isScalar_of_ofScalar?`: the values of scalars.
3. `Decoding.sized_of_value`: the whole numbers in a value that is read.
-/

namespace PipelineManifest

/-! ## Steps of a reading -/

namespace Yaml.Decoding

variable {α β : Type}

theorem bind_eq_some_iff {first : Decoding α} {second : α → Decoding β} {before after : Aliases}
    {result : β} :
    (first >>= second) before = some (result, after) ↔
      ∃ value between, first before = some (value, between) ∧
        second value between = some (result, after) := by
  constructor
  · intro succeeds
    obtain ⟨⟨value, between⟩, ends, follows⟩ := Option.bind_eq_some_iff.1 succeeds
    exact ⟨value, between, ends, follows⟩
  · rintro ⟨value, between, ends, follows⟩
    exact Option.bind_eq_some_iff.2 ⟨(value, between), ends, follows⟩

theorem pure_eq_some_iff {value result : α} {before after : Aliases} :
    (pure value : Decoding α) before = some (result, after) ↔ value = result ∧ before = after := by
  constructor
  · intro same
    exact Prod.mk.inj (Option.some.inj same)
  · rintro ⟨rfl, rfl⟩
    rfl

theorem lift_eq_some_iff {attempt : Option α} {result : α} {before after : Aliases} :
    (attempt : Decoding α) before = some (result, after) ↔
      attempt = some result ∧ before = after := by
  cases attempt with
  | none =>
    constructor
    · intro impossible
      cases impossible
    · rintro ⟨impossible, -⟩
      cases impossible
  | some value =>
    refine pure_eq_some_iff.trans ?_
    rw [Option.some.injEq]

theorem exists_of_mem_mapM {step : α → Decoding β} {items : List α} {results : List β}
    {before after : Aliases} (reads : items.mapM step before = some (results, after)) :
    ∀ result ∈ results, ∃ item ∈ items, ∃ start stop, step item start = some (result, stop) := by
  induction items generalizing results before with
  | nil =>
    rw [List.mapM_nil] at reads
    obtain ⟨rfl, -⟩ := pure_eq_some_iff.1 reads
    intro result member
    cases member
  | cons item rest ih =>
    rw [List.mapM_cons] at reads
    obtain ⟨first, between, ends, reads⟩ := bind_eq_some_iff.1 reads
    obtain ⟨others, _, follow, reads⟩ := bind_eq_some_iff.1 reads
    obtain ⟨rfl, rfl⟩ := pure_eq_some_iff.1 reads
    intro result member
    rcases List.mem_cons.1 member with rfl | later
    · exact ⟨item, List.mem_cons_self, before, between, ends⟩
    · obtain ⟨source, listed, made⟩ := ih follow result later
      exact ⟨source, List.mem_cons_of_mem _ listed, made⟩

/-- What is made of each item once it is read can be made of all of them once they are read. -/
theorem mapM_bind_lift {γ : Type} {step : α → Decoding β} {made : β → Option γ} {items : List α}
    {results : List β} {before after : Aliases}
    (reads : items.mapM step before = some (results, after)) {instead : List γ} {stop : Aliases} :
    (items.mapM fun item => step item >>= fun result => (made result : Decoding γ)) before =
        some (instead, stop) ↔ results.mapM made = some instead ∧ after = stop := by
  induction items generalizing results before instead stop with
  | nil =>
    rw [List.mapM_nil] at reads ⊢
    obtain ⟨rfl, rfl⟩ := pure_eq_some_iff.1 reads
    rw [List.mapM_nil, pure_eq_some_iff]
    exact and_congr_left fun _ => Option.some_inj.symm
  | cons item rest ih =>
    rw [List.mapM_cons] at reads ⊢
    obtain ⟨first, between, ends, reads⟩ := bind_eq_some_iff.1 reads
    obtain ⟨others, _, follow, reads⟩ := bind_eq_some_iff.1 reads
    obtain ⟨rfl, rfl⟩ := pure_eq_some_iff.1 reads
    rw [List.mapM_cons]
    constructor
    · intro succeeds
      obtain ⟨head, _, makes, follows⟩ := bind_eq_some_iff.1 succeeds
      obtain ⟨_, _, ends', lifted⟩ := bind_eq_some_iff.1 makes
      cases ends.symm.trans ends'
      obtain ⟨converts, rfl⟩ := lift_eq_some_iff.1 lifted
      obtain ⟨tail, _, makes, same⟩ := bind_eq_some_iff.1 follows
      obtain ⟨rfl, rfl⟩ := pure_eq_some_iff.1 same
      obtain ⟨converted, rfl⟩ := (ih follow).1 makes
      rw [converts, converted]
      exact ⟨rfl, rfl⟩
    · rintro ⟨converted, rfl⟩
      obtain ⟨head, converts, converted⟩ := Option.bind_eq_some_iff.1 converted
      obtain ⟨tail, converted, same⟩ := Option.bind_eq_some_iff.1 converted
      refine bind_eq_some_iff.2 ⟨head, between, bind_eq_some_iff.2 ⟨first, between, ends,
        lift_eq_some_iff.2 ⟨converts, rfl⟩⟩, bind_eq_some_iff.2 ⟨tail, _,
        (ih follow).2 ⟨converted, rfl⟩, pure_eq_some_iff.2 ⟨Option.some.inj same, rfl⟩⟩⟩

end Yaml.Decoding

/-! ## Scalars of a value -/

namespace Yaml.Value

mutual

/-- What a value lists, in lists of lists too. A value that is no list is all there is. -/
def scalars : Value → List Value
  | .sequence items => scalarsOfItems items
  | value => [value]

def scalarsOfItems : List Value → List Value
  | [] => []
  | item :: rest => item.scalars ++ scalarsOfItems rest

end

/-- A text, a number or a truth value. -/
def HasText : Value → Prop
  | .null | .sequence _ | .mapping _ => False
  | _ => True

def IsList : Value → Prop
  | .sequence _ => True
  | _ => False

/-- A whole number of 64 bits, with a sign or without. -/
def Sized (n : Int) : Prop := -2 ^ 63 ≤ n ∧ n < 2 ^ 64

/-- A value that a scalar can have. -/
def IsScalar : Value → Prop
  | .sequence _ | .mapping _ => False
  | .int n => Sized n
  | _ => True

theorem scalars_eq_singleton {value : Value} (single : ¬ value.IsList) :
    value.scalars = [value] := by
  cases value with
  | sequence items => exact absurd trivial single
  | _ => rw [scalars]; exact fun items impossible => nomatch impossible

theorem exists_items {value : Value} (list : value.IsList) : ∃ items, value = .sequence items := by
  cases value with
  | sequence items => exact ⟨items, rfl⟩
  | _ => exact absurd list not_false

theorem mem_scalarsOfItems {items : List Value} {scalar : Value} :
    scalar ∈ scalarsOfItems items ↔ ∃ item ∈ items, scalar ∈ item.scalars := by
  induction items with
  | nil => simp [scalarsOfItems]
  | cons item rest ih => rw [scalarsOfItems]; simp [ih]

/-! ## Values of scalars -/

theorem isScalar_of_ofInt? {n : Int} {value : Value} (delivered : ofInt? n = some value) :
    value.IsScalar := by
  unfold ofInt? at delivered
  split at delivered
  · next sized =>
    obtain rfl := Option.some.inj delivered
    exact sized
  · cases delivered

theorem isScalar_of_ofPlain? {text : List Char} {value : Value}
    (delivered : ofPlain? text = some value) : value.IsScalar := by
  unfold ofPlain? at delivered
  split at delivered
  · exact Option.some.inj delivered ▸ trivial
  split at delivered
  · exact Option.some.inj delivered ▸ trivial
  split at delivered
  · exact isScalar_of_ofInt? delivered
  split at delivered <;> exact Option.some.inj delivered ▸ trivial

theorem isScalar_of_ofScalar? {properties : Properties} {plain : Bool} {text : List Char}
    {value : Value} (delivered : ofScalar? properties plain text = some value) :
    value.IsScalar := by
  obtain ⟨tag, -, delivered⟩ := Option.bind_eq_some_iff.1 delivered
  cases tag with
  | none =>
    dsimp only at delivered
    split at delivered
    · exact isScalar_of_ofPlain? delivered
    · exact Option.some.inj delivered ▸ trivial
  | some tag =>
    dsimp only at delivered
    split at delivered
    · obtain ⟨_, -, rfl⟩ := Option.map_eq_some_iff.1 delivered
      trivial
    split at delivered
    · obtain ⟨n, -, delivered⟩ := Option.bind_eq_some_iff.1 delivered
      exact isScalar_of_ofInt? delivered
    split at delivered
    · obtain ⟨_, -, rfl⟩ := Option.map_eq_some_iff.1 delivered
      trivial
    split at delivered
    · split at delivered
      · exact Option.some.inj delivered ▸ trivial
      · cases delivered
    · exact Option.some.inj delivered ▸ trivial

theorem IsScalar.sized {value : Value} (scalar : value.IsScalar) {n : Int}
    (member : .int n ∈ value.scalars) : Sized n := by
  have single : ¬ value.IsList := by
    cases value with
    | sequence items => exact absurd scalar not_false
    | _ => exact not_false
  rw [scalars_eq_singleton single, List.mem_singleton] at member
  subst member
  exact scalar

end Yaml.Value

namespace Yaml.Decoding

-- the recursion goes through a match inside the step, so the equations are stated by hand

theorem value_zero (tree : Tree) :
    Decoding.value 0 tree = follow tree >>= fun node => match node with
      | .scalar properties plain text => (Value.ofScalar? properties plain text : Option Value)
      | _ => failure := by
  delta Decoding.value
  refine bind_congr (m := Decoding) (x := follow tree) fun node => ?_
  cases node <;> rfl

theorem value_succ (depth : Nat) (tree : Tree) :
    Decoding.value (depth + 1) tree = follow tree >>= fun node => match node with
      | .scalar properties plain text => (Value.ofScalar? properties plain text : Option Value)
      | .sequence properties items => do
        checkTag properties
        return .sequence (← items.mapM (value depth))
      | .mapping properties pairs => do
        checkTag properties
        return .mapping (← pairs.mapM fun (key, item) => do
          return (← rawText key, ← value depth item))
      | .alias _ => failure := by
  delta Decoding.value
  refine bind_congr (m := Decoding) (x := follow tree) fun node => ?_
  cases node <;> rfl

/-- Whole numbers are delivered with at most 64 bits. -/
theorem sized_of_value {depth : Nat} {tree : Tree} {before after : Aliases} {value : Value}
    (delivered : Decoding.value depth tree before = some (value, after)) :
    ∀ n, .int n ∈ value.scalars → Value.Sized n := by
  induction depth generalizing tree before after value with
  | zero =>
    rw [value_zero] at delivered
    obtain ⟨node, between, -, delivered⟩ := bind_eq_some_iff.1 delivered
    cases node with
    | scalar properties plain text =>
      obtain ⟨scalar, -⟩ := lift_eq_some_iff.1 delivered
      exact fun n => (Value.isScalar_of_ofScalar? scalar).sized
    | _ => cases delivered
  | succ depth ih =>
    rw [value_succ] at delivered
    obtain ⟨node, between, -, delivered⟩ := bind_eq_some_iff.1 delivered
    cases node with
    | scalar properties plain text =>
      obtain ⟨scalar, -⟩ := lift_eq_some_iff.1 delivered
      exact fun n => (Value.isScalar_of_ofScalar? scalar).sized
    | sequence properties items =>
      obtain ⟨_, _, -, delivered⟩ := bind_eq_some_iff.1 delivered
      obtain ⟨values, _, reads, same⟩ := bind_eq_some_iff.1 delivered
      obtain ⟨rfl, -⟩ := pure_eq_some_iff.1 same
      intro n member
      rw [Value.scalars] at member
      obtain ⟨item, listed, inside⟩ := Value.mem_scalarsOfItems.1 member
      obtain ⟨source, -, start, stop, made⟩ := exists_of_mem_mapM reads item listed
      exact ih made n inside
    | mapping properties pairs =>
      obtain ⟨_, _, -, delivered⟩ := bind_eq_some_iff.1 delivered
      obtain ⟨values, _, -, same⟩ := bind_eq_some_iff.1 delivered
      obtain ⟨rfl, -⟩ := pure_eq_some_iff.1 same
      intro n member
      have single : ¬ (Value.mapping values).IsList := id
      rw [Value.scalars_eq_singleton single] at member
      cases List.mem_singleton.1 member
    | _ => cases delivered

end Yaml.Decoding

end PipelineManifest
