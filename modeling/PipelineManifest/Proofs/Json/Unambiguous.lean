import Mathlib.Data.List.Basic
import PipelineManifest.Proofs.Json.RoundTrip

/-!
# Text that stands for one value

Two values without floating-point numbers are never written as the same text. The first token of a
text tells what kind of value it is and what scalar, and the text of a container goes on with what
is in it. So two texts that begin alike are compared from the first token on, and wherever the text
of a value ends the other one ends too, whatever stands behind them (`compact_cancel`). Nothing
limits the size of numbers or the depth of containers, and members need not be listed by name.

Results:
1. `takeToken_numeral`: a whole number is one token.
2. `takeToken_compact`: the first token of the text of a value, and what the text goes on with.
3. `joined_cancel`: what a container holds is told apart item by item.
4. `compactText_inj`: values of the same text are the same.
-/

namespace PipelineManifest

namespace Json

/-! ## Definitions -/

/-- No floating-point number is anywhere in a value. -/
inductive Unfloated : Json → Prop
  | null : Unfloated .null
  | bool (value : Bool) : Unfloated (.bool value)
  | int (n : Int) : Unfloated (.int n)
  | string (text : String) : Unfloated (.string text)
  | array {items : List Json} : (∀ item ∈ items, Unfloated item) → Unfloated (.array items)
  | object {members : List (String × Json)} :
      (∀ entry ∈ members, Unfloated entry.2) → Unfloated (.object members)

/-- What can stand behind the text of a value: nothing, a comma or a bracket at the end. -/
def Stops (rest : List Char) : Prop :=
  ∀ c ∈ rest.head?, c = ',' ∨ c = ']' ∨ c = '}'

/-- How a whole number is written. -/
def numeral (n : Int) : Numeral where
  negative := n < 0
  whole := (Nat.toDigits 10 n.natAbs).map digitValue
  fraction := none
  power := none

/-- The first token of the text of a value, and what the text goes on with. The text of a
floating-point number is left aside. -/
def opening? : Json → Option (Token × List Char)
  | .null => some (.null, [])
  | .bool value => some (.bool value, [])
  | .int n => some (.number (numeral n), [])
  | .float _ => none
  | .string text => some (.text text, [])
  | .array items => some (.leftBracket, [','].intercalate (items.map compact) ++ [']'])
  | .object members =>
    some (.leftBrace, [','].intercalate (members.map (member compact [])) ++ ['}'])

/-! ## Whole numbers -/

theorem foldl_digitValue (n : Nat) :
    ((Nat.toDigits 10 n).map digitValue).foldl (fun sum digit => 10 * sum + digit) 0 = n := by
  rw [List.foldl_map]
  exact Nat.ofDigitChars_eq_foldl.symm.trans Nat.ofDigitChars_ten_toDigits

theorem numeral_injective {n m : Int} (same : numeral n = numeral m) : n = m := by
  obtain ⟨signs, digits, -, -⟩ := Numeral.mk.inj same
  have sizes : n.natAbs = m.natAbs := by
    rw [← foldl_digitValue n.natAbs, digits, foldl_digitValue]
  have negative : n < 0 ↔ m < 0 := decide_eq_decide.1 signs
  omega

/-- Only zero begins with a zero. -/
theorem head?_toDigits {n : Nat} (pos : 0 < n) : (Nat.toDigits 10 n).head? ≠ some '0' := by
  induction n using Nat.strongRecOn with
  | ind n ih =>
    by_cases small : n < 10
    · rw [Nat.toDigits_of_lt_base small]
      simp only [List.head?_cons, ne_eq, Option.some.injEq, Nat.digitChar_eq_zero]
      omega
    · have shorter := Nat.toDigits_of_base_le (b := 10) (by decide) (Nat.le_of_not_lt small)
      rw [shorter, List.head?_append_of_ne_nil _ Nat.toDigits_ne_nil]
      exact ih (n / 10) (by omega) (by omega)

theorem isDigit_of_mem_toDigits {n : Nat} {c : Char} (member : c ∈ Nat.toDigits 10 n) :
    c.isDigit :=
  Nat.isDigit_of_mem_toDigits (by decide) (by decide) member

theorem eq_zero_of_digitValue {c : Char} (digit : c.isDigit) (zero : digitValue c = 0) :
    c = '0' := by
  have least : 48 ≤ c.toNat := (Char.isDigit_iff_toNat.1 digit).1
  exact Char.toNat_inj.1 (Nat.le_antisymm (Nat.le_of_sub_eq_zero zero) least)

theorem isPadded_toDigits (n : Nat) : isPadded ((Nat.toDigits 10 n).map digitValue) = false := by
  rcases Nat.eq_zero_or_pos n with rfl | pos
  · rfl
  · cases written : Nat.toDigits 10 n with
    | nil => rfl
    | cons c rest =>
      have digit := isDigit_of_mem_toDigits (written ▸ List.mem_cons_self : c ∈ Nat.toDigits 10 n)
      have shown := head?_toDigits pos
      rw [written, List.head?_cons] at shown
      have notZero : digitValue c ≠ 0 := fun zero =>
        shown (congrArg some (eq_zero_of_digitValue digit zero))
      rw [List.map_cons]
      unfold isPadded
      split
      next same => exact absurd (List.cons.inj same).1 notZero
      · rfl

/-! ### As a token -/

theorem Stops.nil : Stops [] := fun _ impossible => nomatch impossible

theorem Stops.cons {c : Char} (rest : List Char) (ends : c = ',' ∨ c = ']' ∨ c = '}') :
    Stops (c :: rest) := by
  rintro other ⟨⟩
  exact ends

/-- A text that begins with a digit is a numeral. -/
theorem takeToken_toDigits (n : Nat) (rest : List Char) :
    takeToken (Nat.toDigits 10 n ++ rest) = takeNumeral false (Nat.toDigits 10 n ++ rest) := by
  cases written : Nat.toDigits 10 n with
  | nil => exact absurd written Nat.toDigits_ne_nil
  | cons c others =>
    have digit := isDigit_of_mem_toDigits (written ▸ List.mem_cons_self : c ∈ Nat.toDigits 10 n)
    rw [List.cons_append]
    unfold takeToken
    split
    case h_12 => rfl
    all_goals
      next same =>
        obtain ⟨rfl, -⟩ := List.cons.inj same
        exact absurd digit (by decide)

section

variable {rest : List Char} (stops : Stops rest)

include stops

theorem takeDigits_toDigits (n : Nat) :
    takeDigits (Nat.toDigits 10 n ++ rest) = some ((Nat.toDigits 10 n).map digitValue, rest) := by
  have digits : ∀ c ∈ Nat.toDigits 10 n, c.isDigit := fun _ => isDigit_of_mem_toDigits
  have noDigit : rest.takeWhile Char.isDigit = [] ∧ rest.dropWhile Char.isDigit = rest := by
    cases rest with
    | nil => exact ⟨rfl, rfl⟩
    | cons c rest => rcases stops c rfl with rfl | rfl | rfl <;> exact ⟨rfl, rfl⟩
  rw [takeDigits, List.takeWhile_append_of_pos digits, List.dropWhile_append_of_pos digits,
    noDigit.1, noDigit.2, List.append_nil]
  split
  next none => exact absurd none Nat.toDigits_ne_nil
  · rfl

theorem takeNumeral_toDigits (negative : Bool) (n : Nat) :
    takeNumeral negative (Nat.toDigits 10 n ++ rest) =
      some (.number ⟨negative, (Nat.toDigits 10 n).map digitValue, none, none⟩, rest) := by
  have noFraction : takeFraction rest = some (none, rest) := by
    cases rest with
    | nil => rfl
    | cons c rest => rcases stops c rfl with rfl | rfl | rfl <;> rfl
  have noPower : takePower rest = some (none, rest) := by
    cases rest with
    | nil => rfl
    | cons c rest => rcases stops c rfl with rfl | rfl | rfl <;> rfl
  rw [takeNumeral, takeDigits_toDigits stops]
  simp only [Option.bind_eq_bind, Option.bind_some, isPadded_toDigits, Bool.false_eq_true,
    if_false, noFraction, noPower]
  rfl

/-- A whole number is one token, and what stands behind it is left. -/
theorem takeToken_numeral (n : Int) :
    takeToken ((Int.repr n).toList ++ rest) = some (.number (numeral n), rest) := by
  cases n with
  | ofNat n =>
    show takeToken ((Nat.repr n).toList ++ rest) = _
    rw [Nat.toList_repr, takeToken_toDigits, takeNumeral_toDigits stops]
    rfl
  | negSucc n =>
    show takeToken (("-" ++ Nat.repr (n + 1)).toList ++ rest) = _
    have minus : "-".toList = ['-'] := rfl
    rw [String.toList_append, Nat.toList_repr, minus, List.append_assoc, List.singleton_append,
      takeToken, takeNumeral_toDigits stops, numeral, decide_eq_true (Int.negSucc_lt_zero n)]
    rfl

end

/-! ## The first token -/

theorem quoted_cancel {text other : String} {rest rest' : List Char}
    (same : quoted text ++ rest = quoted other ++ rest') : text = other ∧ rest = rest' := by
  have token := congrArg takeToken same
  rw [takeToken_quoted, takeToken_quoted] at token
  obtain ⟨texts, rests⟩ := Prod.mk.inj (Option.some.inj token)
  exact ⟨Token.text.inj texts, rests⟩

theorem takeToken_compact {value : Json} (unfloated : Unfloated value) {rest : List Char}
    (stops : Stops rest) :
    takeToken (compact value ++ rest) =
      (opening? value).map fun (token, inside) => (token, inside ++ rest) := by
  cases unfloated with
  | null => rfl
  | bool value => cases value <;> rfl
  | int n => exact takeToken_numeral stops n
  | string text => exact takeToken_quoted text rest
  | array _ => rw [compact_array, List.append_nil]; rfl
  | object _ => rw [compact_object, List.append_nil]; rfl

/-! ## What a container holds -/

section

variable {α : Type}

/-- The text of what follows the first item, each item with a comma ahead of it. -/
def following (write : α → List Char) (items : List α) : List Char :=
  items.flatMap fun item => ',' :: write item

theorem intercalate_cons (write : α → List Char) (item : α) (items : List α) :
    [','].intercalate ((item :: items).map write) = write item ++ following write items := by
  induction items generalizing item with
  | nil => simp [following]
  | cons other rest ih =>
    rw [List.map_cons, List.map_cons, List.intercalate_cons_cons, ← List.map_cons, ih]
    simp [following]

/-- The text of an item ends where that of any other good one ends if they are written alike. -/
def Cancels (write : α → List Char) (good : α → Prop) (item : α) : Prop :=
  ∀ {other : α} {rest rest' : List Char}, good other → Stops rest → Stops rest' →
    write item ++ rest = write other ++ rest' → item = other ∧ rest = rest'

/-- The text of an item is not taken for a bracket. -/
def Begins (write : α → List Char) (bracket : Char) (item : α) : Prop :=
  ∀ {rest rest' : List Char}, Stops rest → write item ++ rest ≠ bracket :: rest'

variable {write : α → List Char} {good : α → Prop} {bracket : Char}

theorem stops_following (items : List α) (ends : bracket = ']' ∨ bracket = '}')
    (rest : List Char) : Stops (following write items ++ bracket :: rest) := by
  cases items with
  | nil => exact .cons rest (.inr ends)
  | cons item items => exact .cons _ (.inl rfl)

theorem following_cancel (ends : bracket = ']' ∨ bracket = '}') {items : List α}
    (cancels : ∀ item ∈ items, Cancels write good item) :
    ∀ {others : List α} {rest rest' : List Char}, (∀ other ∈ others, good other) →
      following write items ++ bracket :: rest = following write others ++ bracket :: rest' →
      items = others ∧ rest = rest' := by
  have noComma : bracket ≠ ',' := by rcases ends with rfl | rfl <;> decide
  induction items with
  | nil =>
    intro others rest rest' _ same
    cases others with
    | nil => exact ⟨rfl, (List.cons.inj same).2⟩
    | cons other others => exact absurd (List.cons.inj same).1 noComma
  | cons item items ih =>
    intro others rest rest' goods same
    cases others with
    | nil => exact absurd (List.cons.inj same).1.symm noComma
    | cons other others =>
      have ⟨first, later⟩ := List.forall_mem_cons.1 cancels
      have ⟨isGood, others'⟩ := List.forall_mem_cons.1 goods
      simp only [following, List.flatMap_cons, List.cons_append, List.append_assoc,
        List.cons.injEq, true_and] at same
      obtain ⟨rfl, behind⟩ := first isGood (stops_following items ends rest)
        (stops_following others ends rest') same
      obtain ⟨rfl, rests⟩ := ih later others' behind
      exact ⟨rfl, rests⟩

/-- Two containers of the same text hold the same. -/
theorem joined_cancel (ends : bracket = ']' ∨ bracket = '}') {items others : List α}
    (cancels : ∀ item ∈ items, Cancels write good item)
    (begins : ∀ item, good item → Begins write bracket item)
    (goods : ∀ item ∈ items, good item) (goods' : ∀ other ∈ others, good other)
    {rest rest' : List Char}
    (same : [','].intercalate (items.map write) ++ bracket :: rest =
      [','].intercalate (others.map write) ++ bracket :: rest') :
    items = others ∧ rest = rest' := by
  cases items with
  | nil =>
    cases others with
    | nil => exact ⟨rfl, (List.cons.inj same).2⟩
    | cons other others =>
      rw [intercalate_cons, List.append_assoc] at same
      exact absurd same.symm (begins other (goods' other List.mem_cons_self)
        (stops_following others ends rest'))
  | cons item items =>
    rw [intercalate_cons, List.append_assoc] at same
    cases others with
    | nil =>
      exact absurd same (begins item (goods item List.mem_cons_self)
        (stops_following items ends rest))
    | cons other others =>
      have ⟨first, later⟩ := List.forall_mem_cons.1 cancels
      have ⟨isGood, others'⟩ := List.forall_mem_cons.1 goods'
      rw [intercalate_cons, List.append_assoc] at same
      obtain ⟨rfl, behind⟩ := first isGood (stops_following items ends rest)
        (stops_following others ends rest') same
      obtain ⟨rfl, rests⟩ := following_cancel ends later others' behind
      exact ⟨rfl, rests⟩

end

/-! ## Values -/

theorem begins_compact {value : Json} (unfloated : Unfloated value) :
    Begins compact ']' value := by
  intro rest rest' stops same
  have token := congrArg takeToken same
  rw [takeToken_compact unfloated stops] at token
  cases unfloated <;> cases token

theorem begins_member (entry : String × Json) : Begins (member compact []) '}' entry :=
  fun _ same => nomatch same

/-- A text that begins like that of a value goes on like it. -/
theorem opening_cancel {value other : Json} (unfloated : Unfloated value)
    (unfloated' : Unfloated other) {rest rest' : List Char} (stops : Stops rest)
    (stops' : Stops rest') (same : compact value ++ rest = compact other ++ rest') :
    (opening? value).map (fun (token, inside) => (token, inside ++ rest)) =
      (opening? other).map fun (token, inside) => (token, inside ++ rest') := by
  rw [← takeToken_compact unfloated stops, ← takeToken_compact unfloated' stops', same]

/-- Whatever stands behind them, two values whose texts begin alike are the same, and so is what
stands behind them. -/
theorem compact_cancel {value : Json} (unfloated : Unfloated value) :
    Cancels compact Unfloated value := by
  induction unfloated with
  | null =>
    intro other rest rest' unfloated' stops stops' same
    have opens := opening_cancel .null unfloated' stops stops' same
    cases unfloated' <;> cases opens
    exact ⟨rfl, rfl⟩
  | bool value =>
    intro other rest rest' unfloated' stops stops' same
    have opens := opening_cancel (.bool value) unfloated' stops stops' same
    cases unfloated' <;> cases opens
    exact ⟨rfl, rfl⟩
  | int n =>
    intro other rest rest' unfloated' stops stops' same
    have opens := opening_cancel (.int n) unfloated' stops stops' same
    cases unfloated' with
    | int m =>
      obtain ⟨tokens, rests⟩ := Prod.mk.inj (Option.some.inj opens)
      exact ⟨congrArg _ (numeral_injective (Token.number.inj tokens)), rests⟩
    | _ => cases opens
  | string text =>
    intro other rest rest' unfloated' stops stops' same
    have opens := opening_cancel (.string text) unfloated' stops stops' same
    cases unfloated' <;> cases opens
    exact ⟨rfl, rfl⟩
  | @array items each ih =>
    intro other rest rest' unfloated' stops stops' same
    have opens := opening_cancel (.array each) unfloated' stops stops' same
    cases unfloated' with
    | @array others each' =>
      obtain ⟨-, inside⟩ := Prod.mk.inj (Option.some.inj opens)
      rw [List.append_assoc, List.append_assoc] at inside
      obtain ⟨rfl, rests⟩ := joined_cancel (.inl rfl) ih (fun _ => begins_compact) each each' inside
      exact ⟨rfl, rests⟩
    | _ => cases opens
  | @object members each ih =>
    intro other rest rest' unfloated' stops stops' same
    have opens := opening_cancel (.object each) unfloated' stops stops' same
    cases unfloated' with
    | @object others each' =>
      obtain ⟨-, inside⟩ := Prod.mk.inj (Option.some.inj opens)
      rw [List.append_assoc, List.append_assoc] at inside
      have cancels : ∀ entry ∈ members,
          Cancels (member compact []) (fun entry => Unfloated entry.2) entry := by
        intro entry listed other behind behind' good ends ends' alike
        simp only [member, List.nil_append, List.append_assoc, List.cons_append] at alike
        obtain ⟨names, values⟩ := quoted_cancel alike
        obtain ⟨value, rests⟩ := ih entry listed good ends ends' (List.cons.inj values).2
        exact ⟨Prod.ext names value, rests⟩
      obtain ⟨rfl, rests⟩ := joined_cancel (.inr rfl) cancels (fun entry _ => begins_member entry)
        each each' inside
      exact ⟨rfl, rests⟩
    | _ => cases opens

/-- Values of the same text are the same. -/
theorem compactText_inj {value other : Json} (unfloated : Unfloated value)
    (unfloated' : Unfloated other) : value.compactText = other.compactText ↔ value = other := by
  constructor
  · intro same
    have texts : compact value ++ [] = compact other ++ [] := by
      rw [String.ofList_inj.1 same]
    exact (compact_cancel unfloated unfloated' .nil .nil texts).1
  · rintro rfl
    rfl

/-- An object that is written in a string stays apart from the object itself. -/
example : (Json.array [.string "\x7b\"a\":1\x7d"]).compactText = "[\"\x7b\\\"a\\\":1\x7d\"]" ∧
    (Json.array [.object [("a", .int 1)]]).compactText = "[\x7b\"a\":1\x7d]" := by decide +kernel

end Json

end PipelineManifest
