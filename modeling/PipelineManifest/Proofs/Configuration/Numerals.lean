import PipelineManifest.Configuration.Reader
import PipelineManifest.Proofs.Decimal.Shortest
import PipelineManifest.Proofs.FreshName
import PipelineManifest.Proofs.Sequence
import PipelineManifest.Proofs.Yaml.Value

/-!
# Numbers of a document as texts

An entry of a document has a name and a value, and what the value lists is read as texts, one for
each text, number and truth value in it. A whole number is written as its numeral if a signed number
of 64 bits can hold it. A larger one goes through a floating-point number, and the numeral that is
written is that of the roundest number with the same floating-point number.

Results:
1. `ArgumentValue.numeral_iff`: the text of a whole number.
2. `ArgumentValue.texts?_eq_mapM`: the texts of a value are those of the scalars that it lists.
3. `Configuration.texts_of_entries`: how the entries of a list are read.
4. `Configuration.largest_not_kept`: the largest number of 64 bits is not written as its numeral.
-/

namespace PipelineManifest

open Yaml

/-! ## Texts -/

namespace ArgumentValue

/-- How a whole number is written: as its own numeral if a signed number of 64 bits can hold it, and
else as that of the roundest number with the same floating-point number. -/
structure Numeral (n : Int) (text : String) : Prop where
  sized : Value.Sized n
  narrow : n < 2 ^ 63 → text = n.repr
  wide : 2 ^ 63 ≤ n → ∃ m, Decimal.Roundest n.toNat m ∧ 100 ∣ m ∧ text = m.repr
  exact_iff : text = n.repr ↔ n < 2 ^ 63 ∨ Decimal.Roundest n.toNat n.toNat

theorem intText_of_lt {n : Int} (narrow : n < 2 ^ 63) : intText n = n.repr := if_pos narrow

theorem exists_intText {n : Nat} (wide : Binary64.Wide n) :
    ∃ m, Decimal.Roundest n m ∧ intText n = m.repr := by
  obtain ⟨m, roundest, written⟩ := Decimal.exists_write wide floatLayout rfl rfl rfl
  have large : ¬ (n : Int) < (Nat.pow 2 63 : Nat) := Int.not_lt.2 (Int.ofNat_le.2 wide.least)
  refine ⟨m, roundest, ?_⟩
  rw [intText, if_neg large, Int.toNat_natCast, floatText, wide.isNaN_ofNat, wide.isFinite_ofNat,
    written, Nat.repr_eq_ofList_toDigits]
  rfl

theorem numeral_intText {n : Int} (sized : Value.Sized n) : Numeral n (intText n) := by
  rcases Int.lt_or_le n (2 ^ 63) with narrow | large
  · rw [intText_of_lt narrow]
    exact ⟨sized, fun _ => rfl, fun large => absurd narrow (Int.not_lt.2 large),
      iff_of_true rfl (.inl narrow)⟩
  · obtain ⟨n, rfl⟩ := Int.eq_ofNat_of_zero_le (by omega : 0 ≤ n)
    have wide : Binary64.Wide n := ⟨by omega, by have := sized.2; omega⟩
    obtain ⟨m, roundest, written⟩ := exists_intText wide
    rw [written]
    refine ⟨sized, fun narrow => absurd narrow (Int.not_lt.2 large),
      fun _ => ⟨m, roundest, roundest.hundreds wide, rfl⟩, ?_⟩
    constructor
    · intro same
      have numerals : m.repr = n.repr := same
      obtain rfl : m = n := by rw [← ofDigitChars_repr m, numerals, ofDigitChars_repr]
      exact .inr roundest
    · rintro (narrow | itself)
      · exact absurd narrow (Int.not_lt.2 large)
      · exact congrArg Nat.repr (roundest.unique itself)

/-- A whole number has one text. -/
theorem numeral_iff {n : Int} (sized : Value.Sized n) {text : String} :
    Numeral n text ↔ text = intText n := by
  refine ⟨fun numeral => ?_, fun same => same ▸ numeral_intText sized⟩
  have written := numeral_intText sized
  rcases Int.lt_or_le n (2 ^ 63) with narrow | large
  · rw [numeral.narrow narrow, written.narrow narrow]
  · obtain ⟨m, roundest, -, rfl⟩ := numeral.wide large
    obtain ⟨m', roundest', -, same⟩ := written.wide large
    rw [same, roundest.unique roundest']

/-- Some numbers are kept although they are too large. -/
example : intText 10000000000000000000 = "10000000000000000000" := by decide +kernel

/-- What the text of a value that is no list must be. -/
def TextOf : Value → String → Prop
  | .text content, text => text = content
  | .int n, text => Numeral n text
  | .float x, text => text = floatText x
  | .bool value, text => text = if value then "true" else "false"
  | _, _ => False

/-- The text of a value that is no list. -/
def text? : Value → Option String
  | .text content => some content
  | .int n => some (intText n)
  | .float x => some (floatText x)
  | .bool value => some (if value then "true" else "false")
  | .null | .sequence _ | .mapping _ => none

theorem text?_eq_some_iff {value : Value} (sized : ∀ n, value = .int n → Value.Sized n)
    {text : String} : text? value = some text ↔ TextOf value text := by
  cases value with
  | int n => exact Option.some_inj.trans (eq_comm.trans (numeral_iff (sized n rfl)).symm)
  | text content => exact Option.some_inj.trans eq_comm
  | float x => exact Option.some_inj.trans eq_comm
  | bool value => exact Option.some_inj.trans eq_comm
  | _ => exact iff_of_false (fun impossible => by cases impossible) not_false

mutual

theorem texts?_eq_mapM : (value : Value) → texts? value = value.scalars.mapM text?
  | .sequence items => by
    rw [texts?, Value.scalars]
    exact textsOfItems?_eq_mapM items
  | .null => rfl
  | .bool _ => rfl
  | .int _ => rfl
  | .float _ => rfl
  | .text _ => rfl
  | .mapping _ => rfl

theorem textsOfItems?_eq_mapM :
    (items : List Value) → textsOfItems? items = (Value.scalarsOfItems items).mapM text?
  | [] => rfl
  | item :: rest => by
    rw [textsOfItems?, Value.scalarsOfItems, List.mapM_append, texts?_eq_mapM item,
      textsOfItems?_eq_mapM rest]

end

theorem ofYaml?_of_list (items : List Value) :
    ofYaml? (.sequence items) = (texts? (.sequence items)).map .several := by
  rw [ofYaml?]
  cases texts? (.sequence items) <;> rfl

theorem ofYaml?_of_single {value : Value} (single : ¬ value.IsList) :
    ofYaml? value = (text? value).map .single := by
  cases value with
  | sequence items => exact absurd trivial single
  | _ => rfl

theorem isSome_text?_iff {value : Value} : (text? value).isSome ↔ value.HasText := by
  cases value with
  | null => exact iff_of_false Bool.false_ne_true not_false
  | sequence items => exact iff_of_false Bool.false_ne_true not_false
  | mapping pairs => exact iff_of_false Bool.false_ne_true not_false
  | _ => exact iff_of_true rfl trivial

theorem isSome_ofYaml?_iff {value : Value} :
    (ofYaml? value).isSome ↔ ∀ scalar ∈ value.scalars, scalar.HasText := by
  simp only [← isSome_text?_iff]
  by_cases list : value.IsList
  · obtain ⟨items, rfl⟩ := Value.exists_items list
    rw [ofYaml?_of_list, Option.isSome_map, texts?_eq_mapM, Sequence.isSome_mapM_iff]
  · rw [ofYaml?_of_single list, Option.isSome_map, Value.scalars_eq_singleton list,
      List.forall_mem_singleton]

section

variable {value : Value} (sized : ∀ n, .int n ∈ value.scalars → Value.Sized n)

include sized

theorem texts?_eq_some_iff {texts : List String} :
    texts? value = some texts ↔ List.Forall₂ TextOf value.scalars texts := by
  rw [texts?_eq_mapM]
  exact Sequence.mapM_eq_some_iff fun scalar member text =>
    text?_eq_some_iff fun n same => sized n (same ▸ member)

theorem ofYaml?_eq_some_iff {given : ArgumentValue} :
    ofYaml? value = some given ↔ ((∃ texts, given = .several texts) ↔ value.IsList) ∧
      List.Forall₂ TextOf value.scalars given.texts := by
  by_cases list : value.IsList
  · obtain ⟨items, rfl⟩ := Value.exists_items list
    rw [ofYaml?_of_list, Option.map_eq_some_iff]
    simp only [texts?_eq_some_iff sized]
    constructor
    · rintro ⟨texts, written, rfl⟩
      exact ⟨iff_of_true ⟨texts, rfl⟩ trivial, written⟩
    · rintro ⟨several, written⟩
      obtain ⟨texts, rfl⟩ := several.2 trivial
      exact ⟨texts, written, rfl⟩
  · have itself : ∀ n, value = .int n → Value.Sized n := by
      rw [Value.scalars_eq_singleton list] at sized
      exact fun n same => sized n (List.mem_singleton.2 same.symm)
    rw [ofYaml?_of_single list, Option.map_eq_some_iff, Value.scalars_eq_singleton list]
    simp only [text?_eq_some_iff itself]
    constructor
    · rintro ⟨text, written, rfl⟩
      refine ⟨iff_of_false ?_ list, .cons written .nil⟩
      rintro ⟨texts, impossible⟩
      cases impossible
    · rintro ⟨several, written⟩
      cases given with
      | several texts => exact absurd (several.1 ⟨texts, rfl⟩) list
      | single text =>
        obtain ⟨written, -⟩ := List.forall₂_cons.1 written
        exact ⟨text, written, rfl⟩

theorem ofYaml?_eq_single_iff {text : String} :
    ofYaml? value = some (.single text) ↔ TextOf value text := by
  rw [ofYaml?_eq_some_iff sized]
  by_cases list : value.IsList
  · obtain ⟨items, rfl⟩ := Value.exists_items list
    refine iff_of_false (fun ⟨listed, _⟩ => ?_) not_false
    obtain ⟨texts, impossible⟩ := listed.2 trivial
    cases impossible
  · rw [Value.scalars_eq_singleton list]
    constructor
    · rintro ⟨-, written⟩
      exact (List.forall₂_cons.1 written).1
    · intro written
      refine ⟨iff_of_false ?_ list, .cons written .nil⟩
      rintro ⟨texts, impossible⟩
      cases impossible

end

end ArgumentValue

/-! ## Entries -/

namespace Configuration

/-- The name of an entry and its value as the document delivers it. -/
def entryValue (depth : Nat) (tree : Tree) : Decoding (String × Value) := do
  let members ← members ["name", "value"] (some tree)
  let name ← required members "name" Decoding.rawText
  let value ← required members "value" (Decoding.value (depthLimit - (depth + 1)))
  return (name, value)

def toArgument? (entry : String × Value) : Option NamedArgument :=
  (ArgumentValue.ofYaml? entry.2).map (⟨entry.1, ·⟩)

def toVariable? (entry : String × Value) : Option Variable :=
  match ArgumentValue.ofYaml? entry.2 with
  | some (.single text) => some ⟨entry.1, text⟩
  | _ => none

theorem namedArgument_eq (depth : Nat) (tree : Tree) :
    namedArgument depth tree =
      entryValue depth tree >>= fun entry => (toArgument? entry : Decoding NamedArgument) := by
  have lifted (name : String) (value : Value) :
      (toArgument? (name, value) : Decoding NamedArgument) =
        (ArgumentValue.ofYaml? value : Decoding ArgumentValue) >>= fun given =>
          pure ⟨name, given⟩ := by
    unfold toArgument?
    cases ArgumentValue.ofYaml? value <;> rfl
  simp only [namedArgument, entryValue, required, argumentValue, bind_assoc, pure_bind, lifted]

theorem variableEntry_eq (depth : Nat) (tree : Tree) :
    variableEntry depth tree =
      entryValue depth tree >>= fun entry => (toVariable? entry : Decoding Variable) := by
  rw [variableEntry, namedArgument_eq, bind_assoc]
  refine bind_congr fun entry => ?_
  unfold toArgument? toVariable?
  rcases ArgumentValue.ofYaml? entry.2 with _ | ⟨text | texts⟩ <;> rfl

theorem sized_of_entryValue {depth : Nat} {tree : Tree} {before after : Aliases}
    {entry : String × Value} (delivered : entryValue depth tree before = some (entry, after)) :
    ∀ n, .int n ∈ entry.2.scalars → Value.Sized n := by
  obtain ⟨_, _, -, delivered⟩ := Decoding.bind_eq_some_iff.1 delivered
  obtain ⟨_, _, -, delivered⟩ := Decoding.bind_eq_some_iff.1 delivered
  obtain ⟨value, _, found, same⟩ := Decoding.bind_eq_some_iff.1 delivered
  obtain ⟨_, _, -, found⟩ := Decoding.bind_eq_some_iff.1 found
  obtain ⟨rfl, -⟩ := Decoding.pure_eq_some_iff.1 same
  exact Decoding.sized_of_value found

/-- An entry is read as an argument that has a text for everything that its value lists. -/
structure ReadsAs (entry : String × Value) (argument : NamedArgument) : Prop where
  name : argument.name = entry.1
  several : (∃ texts, argument.value = .several texts) ↔ entry.2.IsList
  texts : List.Forall₂ ArgumentValue.TextOf entry.2.scalars argument.value.texts

/-- An entry is read as a variable that has the text of its value. -/
structure Sets (entry : String × Value) (setting : Variable) : Prop where
  name : setting.name = entry.1
  text : ArgumentValue.TextOf entry.2 setting.value

section

variable {entry : String × Value} (sized : ∀ n, .int n ∈ entry.2.scalars → Value.Sized n)

include sized

theorem toArgument?_eq_some_iff {argument : NamedArgument} :
    toArgument? entry = some argument ↔ ReadsAs entry argument := by
  unfold toArgument?
  rw [Option.map_eq_some_iff]
  simp only [ArgumentValue.ofYaml?_eq_some_iff sized]
  constructor
  · rintro ⟨value, ⟨several, texts⟩, rfl⟩
    exact ⟨rfl, several, texts⟩
  · obtain ⟨name, value⟩ := argument
    rintro ⟨rfl, several, texts⟩
    exact ⟨value, ⟨several, texts⟩, rfl⟩

theorem toVariable?_eq_some_iff {setting : Variable} :
    toVariable? entry = some setting ↔ Sets entry setting := by
  constructor
  · intro made
    unfold toVariable? at made
    split at made
    · next text single =>
      obtain rfl := Option.some.inj made
      exact ⟨rfl, (ArgumentValue.ofYaml?_eq_single_iff sized).1 single⟩
    · cases made
  · obtain ⟨name, text⟩ := setting
    rintro ⟨rfl, written⟩
    rw [toVariable?, (ArgumentValue.ofYaml?_eq_single_iff sized).2 written]

end

theorem isSome_toArgument?_iff {entry : String × Value} :
    (toArgument? entry).isSome ↔ ∀ scalar ∈ entry.2.scalars, scalar.HasText := by
  rw [toArgument?, Option.isSome_map, ArgumentValue.isSome_ofYaml?_iff]

theorem isSome_toVariable?_iff {entry : String × Value} :
    (toVariable? entry).isSome ↔ entry.2.HasText := by
  rw [← ArgumentValue.isSome_text?_iff]
  unfold toVariable?
  by_cases list : entry.2.IsList
  · obtain ⟨items, same⟩ := Value.exists_items list
    rw [same, ArgumentValue.ofYaml?_of_list]
    cases ArgumentValue.texts? (.sequence items) <;> exact Iff.rfl
  · rw [ArgumentValue.ofYaml?_of_single list]
    cases ArgumentValue.text? entry.2 <;> exact Iff.rfl

section

variable {α β : Type} {listed : List (String × Tree)} {field : String} {step : Tree → Decoding α}
  {before after : Aliases} {results : List α}
  (delivered : listOf listed field step before = some (results, after))

include delivered

theorem exists_of_mem_listOf {result : α} (member : result ∈ results) :
    ∃ tree start stop, step tree start = some (result, stop) := by
  unfold listOf at delivered
  cases there : listed.lookup field with
  | none =>
    rw [there] at delivered
    obtain ⟨rfl, -⟩ := Decoding.pure_eq_some_iff.1 delivered
    cases member
  | some tree =>
    rw [there] at delivered
    obtain ⟨trees, _, -, reads⟩ := Decoding.bind_eq_some_iff.1 delivered
    obtain ⟨tree, -, start, stop, made⟩ := Decoding.exists_of_mem_mapM reads result member
    exact ⟨tree, start, stop, made⟩

theorem listOf_bind_lift {made : α → Option β} {instead : List β} {stop : Aliases} :
    listOf listed field (fun tree => step tree >>= fun result => (made result : Decoding β))
        before = some (instead, stop) ↔ results.mapM made = some instead ∧ after = stop := by
  unfold listOf at delivered ⊢
  cases there : listed.lookup field with
  | none =>
    rw [there] at delivered
    obtain ⟨rfl, rfl⟩ := Decoding.pure_eq_some_iff.1 delivered
    rw [Decoding.pure_eq_some_iff, List.mapM_nil]
    exact and_congr_left fun _ => Option.some_inj.symm
  | some tree =>
    rw [there] at delivered
    obtain ⟨trees, between, found, reads⟩ := Decoding.bind_eq_some_iff.1 delivered
    rw [← Decoding.mapM_bind_lift reads, Decoding.bind_eq_some_iff]
    constructor
    · rintro ⟨_, _, found', makes⟩
      cases found.symm.trans found'
      exact makes
    · exact fun makes => ⟨trees, between, found, makes⟩

end

/-- The entries of a list are read position by position, and the list is read exactly if each of
them can be. -/
structure ReadsEach {α : Type} (reading : Option (List α × Aliases))
    (entries : List (String × Value)) (after : Aliases) (related : String × Value → α → Prop)
    (readable : Value → Prop) : Prop where
  each : ∀ results stop,
    reading = some (results, stop) ↔ List.Forall₂ related entries results ∧ after = stop
  succeeds : reading.isSome ↔ ∀ entry ∈ entries, readable entry.2

theorem readsEach_listOf {α : Type} {listed : List (String × Tree)} {field : String} {depth : Nat}
    {before after : Aliases} {entries : List (String × Value)} {made : String × Value → Option α}
    {related : String × Value → α → Prop} {readable : Value → Prop}
    (delivered : listOf listed field (entryValue depth) before = some (entries, after))
    (makes : ∀ entry ∈ entries, ∀ result, made entry = some result ↔ related entry result)
    (able : ∀ entry, (made entry).isSome ↔ readable entry.2) :
    ReadsEach (listOf listed field
        (fun tree => entryValue depth tree >>= fun entry => (made entry : Decoding α)) before)
      entries after related readable := by
  constructor
  · intro results stop
    rw [listOf_bind_lift delivered, Sequence.mapM_eq_some_iff makes]
  · simp only [← able]
    rw [← Sequence.isSome_mapM_iff, Option.isSome_iff_exists, Option.isSome_iff_exists]
    constructor
    · rintro ⟨⟨results, stop⟩, reads⟩
      exact ⟨results, ((listOf_bind_lift delivered).1 reads).1⟩
    · rintro ⟨results, converted⟩
      exact ⟨(results, after), (listOf_bind_lift delivered).2 ⟨converted, rfl⟩⟩

/-- The entries of arguments and of variables are read with the texts of what the document delivers,
whole numbers among it at any depth of lists. -/
theorem texts_of_entries {listed : List (String × Tree)} {field : String} {depth : Nat}
    {before after : Aliases} {entries : List (String × Value)}
    (delivered : listOf listed field (entryValue depth) before = some (entries, after)) :
    ReadsEach (listOf listed field (namedArgument depth) before) entries after ReadsAs
        (fun value => ∀ scalar ∈ value.scalars, scalar.HasText) ∧
      ReadsEach (listOf listed field (variableEntry depth) before) entries after Sets
        Value.HasText := by
  have sized : ∀ entry ∈ entries, ∀ n, .int n ∈ entry.2.scalars → Value.Sized n := by
    intro entry member
    obtain ⟨tree, start, stop, found⟩ := exists_of_mem_listOf delivered member
    exact sized_of_entryValue found
  rw [funext (namedArgument_eq depth), funext (variableEntry_eq depth)]
  constructor
  · exact readsEach_listOf delivered
      (fun entry member _ => toArgument?_eq_some_iff (sized entry member))
      fun _ => isSome_toArgument?_iff
  · exact readsEach_listOf delivered
      (fun entry member _ => toVariable?_eq_some_iff (sized entry member))
      fun _ => isSome_toVariable?_iff

/-- A list of one argument, whose value is a list in a list. -/
def limits : List (String × Tree) :=
  [("beamArgs", .sequence .none [.mapping .none [
    (.scalar .none true "name".toList, .scalar .none true "limits".toList),
    (.scalar .none true "value".toList, .sequence .none [
      .scalar .none true "-7".toList,
      .sequence .none [.scalar .none true "18446744073709551615".toList]])]])]

theorem texts_of_entries_limits : ∃ entries after arguments,
    listOf limits "beamArgs" (entryValue 4) ⟨[], 0⟩ = some (entries, after) ∧
      listOf limits "beamArgs" (namedArgument 4) ⟨[], 0⟩ = some (arguments, after) ∧
      arguments = [⟨"limits", .several ["-7", "18446744073709552000"]⟩] ∧
      List.Forall₂ ReadsAs entries arguments := by
  have read : (listOf limits "beamArgs" (namedArgument 4) ⟨[], 0⟩).map (·.1) =
      some [⟨"limits", .several ["-7", "18446744073709552000"]⟩] := by decide +kernel
  have there : (listOf limits "beamArgs" (entryValue 4) ⟨[], 0⟩).isSome := by decide +kernel
  obtain ⟨⟨entries, after⟩, delivered⟩ := Option.isSome_iff_exists.1 there
  obtain ⟨⟨arguments, stop⟩, reads, seen⟩ := Option.map_eq_some_iff.1 read
  obtain ⟨related, rfl⟩ := ((texts_of_entries delivered).1.each arguments stop).1 reads
  exact ⟨entries, after, arguments, delivered, reads, seen, related⟩

/-- The largest whole number of 64 bits is delivered, and another one is written for it. -/
theorem largest_not_kept :
    Value.ofPlain? "18446744073709551615".toList = some (.int 18446744073709551615) ∧
      ∃ document, PipelineDocument.ofText?
          "name: taxi\nenv:\n- name: LIMIT\n  value: 18446744073709551615\n" = some document ∧
        document.environment = [⟨"LIMIT", "18446744073709552000"⟩] ∧
        "18446744073709552000" ≠ (18446744073709551615 : Int).repr := by
  have truth : bool? "18446744073709551615".toList = none := by decide +kernel
  have number : int? "18446744073709551615".toList = some 18446744073709551615 := by decide +kernel
  have read : (PipelineDocument.ofText?
      "name: taxi\nenv:\n- name: LIMIT\n  value: 18446744073709551615\n").map (·.environment) =
      some [⟨"LIMIT", "18446744073709552000"⟩] := by decide +kernel
  obtain ⟨document, reads, seen⟩ := Option.map_eq_some_iff.1 read
  refine ⟨?_, document, reads, seen, by decide +kernel⟩
  rw [Value.ofPlain?, if_neg (by decide +kernel), truth, number]
  exact if_pos (by decide +kernel)

end Configuration

end PipelineManifest
