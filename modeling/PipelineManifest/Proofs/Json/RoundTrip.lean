import Mathlib.Tactic.SplitIfs
import PipelineManifest.Json.Parser
import PipelineManifest.Json.Printer
import PipelineManifest.Proofs.Sequence

/-!
# Reading back what was written

A document that is made of text only, in arrays and in objects that list their members by name
(`Json.Textual`), is read back from either way of writing it. Whatever stands behind the text of a
value, the reader takes the text and is then where it would be if the value had been put there at
once (`Json.Readable`). So one law for arrays and one for objects serve both ways of writing.

Results:
1. `takeText_escaped`: what is escaped is taken as it was.
2. `Reads.append`: texts that are read one behind the other are read as one.
3. `readable_array`, `readable_object`: containers are read if what they hold is.
4. `read_compactText`, `read_documentText`: documents of text are read back.
-/

namespace PipelineManifest

namespace Json

/-! ## Documents of text -/

/-- A value has no numbers, no truth values and no nulls in it, lists the members of its objects by
name and nests containers at most so deep. -/
inductive Textual : Nat → Json → Prop
  | string {depth : Nat} (text : String) : Textual depth (.string text)
  | array {depth : Nat} {items : List Json} :
      (∀ item ∈ items, Textual depth item) → Textual (depth + 1) (.array items)
  | object {depth : Nat} {members : Dictionary Json} :
      (∀ value ∈ members.values, Textual depth value) → Textual (depth + 1) (.ofDictionary members)

/-! ## Escaped text -/

/-- A character ahead of what is taken. -/
def ahead (c : Char) (taken : List Char × List Char) : List Char × List Char :=
  (c :: taken.1, taken.2)

theorem takeText_short {c char : Char} (short : shortEscape? c = some char) (rest : List Char) :
    takeText ('\\' :: c :: rest) = (takeText rest).map (ahead char) := by
  have other : c ≠ 'u' := by
    rintro rfl
    cases short
  rw [takeText.eq_4 c rest fun _ _ _ _ _ same => absurd same other, short]
  cases takeText rest <;> rfl

theorem takeText_number {a b c d : Char} {unit : Nat}
    (number : Text.hexNumber? [a, b, c, d] = some unit) (whole : unit < 0x20) (rest : List Char) :
    takeText ('\\' :: 'u' :: a :: b :: c :: d :: rest) =
      (takeText rest).map (ahead (.ofNat unit)) := by
  have noHalf : ¬ (0xD800 ≤ unit ∧ unit ≤ 0xDFFF) := by omega
  rw [takeText, number, Option.bind_eq_bind, Option.bind_some, if_neg noHalf]
  cases takeText rest <;> rfl

theorem takeText_plain {c : Char} (noQuote : c ≠ '"') (noBackslash : c ≠ '\\')
    (shown : ¬ c.toNat < 0x20) (rest : List Char) :
    takeText (c :: rest) = (takeText rest).map (ahead c) := by
  rw [takeText.eq_5 c rest noQuote (fun _ _ _ _ _ same => absurd same noBackslash)
    fun _ _ same => absurd same noBackslash, if_neg shown]
  cases takeText rest <;> rfl

theorem takeText_escape (c : Char) (rest : List Char) :
    takeText (escape c ++ rest) = (takeText rest).map (ahead c) := by
  unfold escape
  split_ifs with quote backslash _ _ _ _ _ control
  -- a letter of its own, a number or the character itself
  any_goals
    subst_vars
    exact takeText_short rfl rest
  · have reads : ∀ n < 0x20, Text.hexNumber? (Text.hexDigits false 4 n) = some n := by
      decide +kernel
    have number := takeText_number (reads c.toNat control) control rest
    rw [Char.ofNat_toNat] at number
    exact number
  · exact takeText_plain quote backslash control rest

/-- Escaped text is taken as it was, up to the quote behind it. -/
theorem takeText_escaped (rest : List Char) :
    ∀ text : List Char, takeText (text.flatMap escape ++ '"' :: rest) = some (text, rest)
  | [] => rfl
  | c :: text => by
    rw [List.flatMap_cons, List.append_assoc, takeText_escape, takeText_escaped rest text]
    rfl

theorem takeToken_quoted (text : String) (rest : List Char) :
    takeToken (quoted text ++ rest) = some (.text text, rest) := by
  rw [quoted, List.cons_append, List.append_assoc, takeToken]
  show Option.map _ (takeText (text.toList.flatMap escape ++ '"' :: rest)) = _
  rw [takeText_escaped]
  simp

/-! ## Tokens -/

theorem tokens_eq (cs : List Char) : tokens cs = match cs.dropWhile isBlank with
    | [] => some []
    | c :: text => match takeToken (c :: text) with
      | none => none
      | some (token, rest) => (tokens rest).map (token :: ·) := by
  rw [tokens]
  split
  next gap => rw [gap]
  next c text gap =>
    rw [gap]
    dsimp only
    split
    next failed => rw [failed]
    next taken => rw [taken]

theorem tokens_blank {blanks : List Char} (blank : ∀ c ∈ blanks, isBlank c) (rest : List Char) :
    tokens (blanks ++ rest) = tokens rest := by
  rw [tokens_eq, tokens_eq rest, List.dropWhile_append_of_pos blank]

theorem tokens_cons {c : Char} {text rest : List Char} {token : Token} (shown : isBlank c = false)
    (taken : takeToken (c :: text) = some (token, rest)) :
    tokens (c :: text) = (tokens rest).map (token :: ·) := by
  rw [tokens_eq, List.dropWhile_cons_of_neg (by simp [shown])]
  dsimp only
  rw [taken]

/-! ## The reader -/

/-- A text is cut into tokens that take the reader from one state to another, whatever stands behind
the text. -/
def Reads (limit : Nat) (text : List Char) (before after : Reader) : Prop :=
  ∃ taken, (∀ rest, tokens (text ++ rest) = (tokens rest).map (taken ++ ·)) ∧
    taken.foldlM (Reader.take limit) before = some after

theorem Reads.append {limit : Nat} {first second : List Char} {before between after : Reader}
    (reads : Reads limit first before between) (onward : Reads limit second between after) :
    Reads limit (first ++ second) before after := by
  obtain ⟨taken, cut, moves⟩ := reads
  obtain ⟨taken', cut', moves'⟩ := onward
  refine ⟨taken ++ taken', fun rest => ?_, ?_⟩
  · rw [List.append_assoc, cut, cut', Option.map_map]
    congr 1
    funext behind
    exact (List.append_assoc taken taken' behind).symm
  · rw [List.foldlM_append, moves]
    exact moves'

theorem reads_blank (limit : Nat) {blanks : List Char} (blank : ∀ c ∈ blanks, isBlank c)
    (reader : Reader) : Reads limit blanks reader reader := by
  refine ⟨[], fun rest => ?_, rfl⟩
  rw [tokens_blank blank]
  simp

theorem reads_token (token : Token) {limit : Nat} {c : Char} {text : List Char}
    {before after : Reader} (shown : isBlank c = false)
    (taken : ∀ rest, takeToken (c :: text ++ rest) = some (token, rest))
    (moves : Reader.take limit before token = some after) :
    Reads limit (c :: text) before after := by
  refine ⟨[token], fun rest => ?_, ?_⟩
  · exact tokens_cons shown (taken rest)
  · rw [List.foldlM_cons, moves]
    rfl

/-- A value can be put where the reader is, the first item of an array too. -/
def Open (reader : Reader) : Prop :=
  reader.expected = .value ∨ reader.expected = .itemOrEnd

theorem take_open {limit : Nat} {reader : Reader} (isOpen : Open reader) {token : Token}
    (other : token ≠ .rightBracket) :
    reader.take limit token = Reader.takeValue limit reader.opened token := by
  obtain ⟨opened, expected⟩ := reader
  rcases isOpen with rfl | rfl
  · rfl
  · cases token <;> first | rfl | exact absurd rfl other

/-- A text is read as a value wherever a value can be put that nests containers so deep. -/
def Readable (limit depth : Nat) (text : List Char) (value : Json) : Prop :=
  ∀ reader : Reader, Open reader → reader.opened.length + depth ≤ limit →
    Reads limit text reader (Reader.finish value reader.opened)

theorem Readable.behind {limit depth : Nat} {text : List Char} {value : Json}
    (readable : Readable limit depth text value) {blanks : List Char}
    (blank : ∀ c ∈ blanks, isBlank c) : Readable limit depth (blanks ++ text) value :=
  fun reader isOpen enough =>
    (reads_blank limit blank reader).append (readable reader isOpen enough)

theorem readable_string (limit depth : Nat) (text : String) :
    Readable limit depth (quoted text) (.string text) := by
  intro reader isOpen _
  refine reads_token (.text text) rfl (takeToken_quoted text) ?_
  rw [take_open isOpen (by simp)]
  rfl

/-! ## Containers -/

section

variable {limit depth : Nat} {outer : List Frame}

section

variable {α β : Type} {write : α → List Char} {frame : β → Frame} {add : β → α → β}
  {first next : Expected}

/-- What a container holds is read with commas between, each item as it is read by itself. -/
theorem reads_joined
    (comma : ∀ held, Reader.take limit ⟨frame held :: outer, .commaOrEnd⟩ .comma =
      some ⟨frame held :: outer, next⟩) :
    ∀ {items : List α} {held : β} {expected : Expected}, items ≠ [] →
      (expected = first ∨ expected = next) →
      (∀ item ∈ items, ∀ held expected, (expected = first ∨ expected = next) →
        Reads limit (write item) ⟨frame held :: outer, expected⟩
          ⟨frame (add held item) :: outer, .commaOrEnd⟩) →
      Reads limit ([','].intercalate (items.map write)) ⟨frame held :: outer, expected⟩
        ⟨frame (items.foldl add held) :: outer, .commaOrEnd⟩
  | [], _, _, nonempty, _, _ => absurd rfl nonempty
  | [item], held, expected, _, ready, each => by
    rw [List.map_singleton, List.intercalate_singleton]
    exact each item List.mem_cons_self held expected ready
  | item :: other :: rest, held, expected, _, ready, each => by
    have before := each item List.mem_cons_self held expected ready
    have between : Reads limit [','] ⟨frame (add held item) :: outer, .commaOrEnd⟩
        ⟨frame (add held item) :: outer, next⟩ := reads_token .comma rfl (fun _ => rfl) (comma _)
    rw [List.map_cons, List.map_cons, List.intercalate_cons_cons]
    -- behind the comma the others are read as if they were all there is
    exact (before.append between).append (reads_joined comma (List.cons_ne_nil other rest)
      (.inr rfl) fun later member => each later (List.mem_cons_of_mem _ member))

/-- The bracket at the end may follow what is held or, if nothing is held, the one at the beginning.
Blanks may stand ahead of it. -/
theorem reads_contents (frame : β → Frame) (add : β → α → β) (held : β) {items : List α}
    {gap : List Char} {bracket : Char} {after : Reader}
    (comma : ∀ held, Reader.take limit ⟨frame held :: outer, .commaOrEnd⟩ .comma =
      some ⟨frame held :: outer, next⟩)
    (each : ∀ item ∈ items, ∀ held expected, (expected = first ∨ expected = next) →
      Reads limit (write item) ⟨frame held :: outer, expected⟩
        ⟨frame (add held item) :: outer, .commaOrEnd⟩)
    (blank : ∀ c ∈ gap, isBlank c)
    (closes : ∀ expected, (expected = first ∨ expected = .commaOrEnd) →
      Reads limit [bracket] ⟨frame (items.foldl add held) :: outer, expected⟩ after) :
    Reads limit ([','].intercalate (items.map write) ++ gap ++ [bracket])
      ⟨frame held :: outer, first⟩ after := by
  by_cases none : items = []
  · subst none
    exact (reads_blank limit blank _).append (closes first (.inl rfl))
  · exact ((reads_joined comma none (.inl rfl) each).append (reads_blank limit blank _)).append
      (closes .commaOrEnd (.inr rfl))

end

/-- Items between brackets. -/
theorem readable_array {write : Json → List Char} {items : List Json} {gap : List Char}
    (blank : ∀ c ∈ gap, isBlank c)
    (each : ∀ item ∈ items, Readable limit depth (write item) item) :
    Readable limit (depth + 1) ('[' :: ([','].intercalate (items.map write) ++ gap ++ [']']))
      (.array items) := by
  intro reader isOpen enough
  have opens : Reads limit ['['] reader ⟨.array [] :: reader.opened, .itemOrEnd⟩ := by
    refine reads_token .leftBracket rfl (fun _ => rfl) ?_
    rw [take_open isOpen (by simp), Reader.takeValue, if_pos (by omega)]
  have comma : ∀ held, Reader.take limit ⟨.array held :: reader.opened, .commaOrEnd⟩ .comma =
      some ⟨.array held :: reader.opened, .value⟩ := fun _ => rfl
  refine opens.append (reads_contents .array (fun held item => item :: held) [] comma ?_ blank ?_)
  · intro item member held expected ready
    exact each item member _ ready.symm (by simp only [List.length_cons]; omega)
  · have same : items.foldl (fun held item => item :: held) [] = items.reverse := by simp
    rintro expected (rfl | rfl)
    all_goals
      refine reads_token .rightBracket rfl (fun _ => rfl) ?_
      rw [same]
      exact congrArg (fun items => some (Reader.finish (.array items) reader.opened))
        items.reverse_reverse

/-- The name of a member, a colon and what is bound to the name. -/
def member (write : Json → List Char) (gap : List Char) (entry : String × Json) : List Char :=
  quoted entry.1 ++ ':' :: (gap ++ write entry.2)

theorem reads_member {write : Json → List Char} {gap : List Char} (blank : ∀ c ∈ gap, isBlank c)
    {entry : String × Json} (readable : Readable limit depth (write entry.2) entry.2)
    (enough : outer.length + 1 + depth ≤ limit) (members : Dictionary Json) (key : String)
    {expected : Expected} (ready : expected = .keyOrEnd ∨ expected = .key) :
    Reads limit (member write gap entry) ⟨.object members key :: outer, expected⟩
      ⟨.object (members.insert entry.1 entry.2) entry.1 :: outer, .commaOrEnd⟩ := by
  have named : Reads limit (quoted entry.1) ⟨.object members key :: outer, expected⟩
      ⟨.object members key :: outer, .colon entry.1⟩ := by
    refine reads_token (.text entry.1) rfl (takeToken_quoted entry.1) ?_
    rcases ready with rfl | rfl <;> rfl
  have bound : Reads limit [':'] ⟨.object members key :: outer, .colon entry.1⟩
      ⟨.object members entry.1 :: outer, .value⟩ := reads_token .colon rfl (fun _ => rfl) rfl
  have value := readable.behind blank ⟨.object members entry.1 :: outer, .value⟩ (.inl rfl)
    (by simp only [List.length_cons]; omega)
  exact named.append (bound.append value)

/-- Members between braces. -/
theorem readable_object {write : Json → List Char} {members : Dictionary Json}
    {before gap behind : List Char} (blankBefore : ∀ c ∈ before, isBlank c)
    (blank : ∀ c ∈ gap, isBlank c) (blankBehind : ∀ c ∈ behind, isBlank c)
    (each : ∀ value ∈ members.values, Readable limit depth (write value) value) :
    Readable limit (depth + 1)
      ('{' :: ([','].intercalate
        (members.entries.map fun entry => before ++ member write gap entry) ++ behind ++ ['}']))
      (.ofDictionary members) := by
  intro reader isOpen enough
  have opens : Reads limit ['{'] reader ⟨.object ∅ "" :: reader.opened, .keyOrEnd⟩ := by
    refine reads_token .leftBrace rfl (fun _ => rfl) ?_
    rw [take_open isOpen (by simp), Reader.takeValue, if_pos (by omega)]
  have comma : ∀ held : Dictionary Json × String, Reader.take limit
      ⟨.object held.1 held.2 :: reader.opened, .commaOrEnd⟩ .comma =
      some ⟨.object held.1 held.2 :: reader.opened, .key⟩ := fun _ => rfl
  refine opens.append (reads_contents (fun held : Dictionary Json × String =>
    .object held.1 held.2) (fun held entry => (held.1.insert entry.1 entry.2, entry.1)) (∅, "")
    comma ?_ blankBehind ?_)
  · intro entry listed held expected ready
    have readable := each entry.2 (List.mem_map_of_mem listed)
    exact (reads_blank limit blankBefore _).append
      (reads_member blank readable (by omega) held.1 held.2 ready)
  · have same : (members.entries.foldl (fun held entry => (held.1.insert entry.1 entry.2, entry.1))
        ((∅ : Dictionary Json), "")).1 = members := by
      -- the name of the last member is held too, but only the map counts in the end
      have inserted := @List.foldl_hom _ _ _ Prod.fst
        (fun (held : Dictionary Json × String) (entry : String × Json) =>
          (held.1.insert entry.1 entry.2, entry.1))
        (fun map entry => map.insert entry.1 entry.2) members.entries (∅, "") fun _ _ => rfl
      exact inserted.symm.trans members.ofList_entries
    rintro expected (rfl | rfl)
    all_goals
      refine reads_token .rightBrace rfl (fun _ => rfl) ?_
      exact congrArg (fun map => some (Reader.finish (.ofDictionary map) reader.opened)) same

end

/-! ## Printed documents -/

theorem compact_array (items : List Json) :
    compact (.array items) = '[' :: ([','].intercalate (items.map compact) ++ [] ++ [']']) := by
  have joined : ∀ items, compactItems items = [','].intercalate (items.map compact) :=
    Sequence.eq_intercalate rfl (fun _ => rfl) fun _ _ _ => rfl
  rw [compact, joined, List.append_nil]

theorem compact_object (members : List (String × Json)) :
    compact (.object members) = '{' :: ([','].intercalate
      (members.map fun entry => [] ++ member compact [] entry) ++ [] ++ ['}']) := by
  have joined : ∀ members, compactMembers members =
      [','].intercalate (members.map fun entry => [] ++ member compact [] entry) :=
    Sequence.eq_intercalate rfl (fun _ => rfl) fun _ _ _ => by simp [compactMembers, member]
  rw [compact, joined, List.append_nil]

theorem pretty_array (indent : Nat) (items : List Json) :
    pretty indent (.array items) = '[' :: ([','].intercalate
      (items.map fun item => newLine (indent + 1) ++ pretty (indent + 1) item) ++
        (if items.isEmpty then [] else newLine indent) ++ [']']) := by
  have joined : ∀ items, prettyItems (indent + 1) items = [','].intercalate
      (items.map fun item => newLine (indent + 1) ++ pretty (indent + 1) item) :=
    Sequence.eq_intercalate rfl (fun _ => rfl) fun _ _ _ => rfl
  rw [← joined]
  cases items <;> rfl

theorem pretty_object (indent : Nat) (members : List (String × Json)) :
    pretty indent (.object members) = '{' :: ([','].intercalate (members.map fun entry =>
      newLine (indent + 1) ++ member (pretty (indent + 1)) [' '] entry) ++
        (if members.isEmpty then [] else newLine indent) ++ ['}']) := by
  have joined : ∀ members, prettyMembers (indent + 1) members = [','].intercalate
      (members.map fun entry =>
        newLine (indent + 1) ++ member (pretty (indent + 1)) [' '] entry) :=
    Sequence.eq_intercalate rfl (fun _ => by simp [prettyMembers, member])
      fun _ _ _ => by simp [prettyMembers, member]
  rw [← joined]
  cases members <;> rfl

theorem blank_nil : ∀ c ∈ ([] : List Char), isBlank c := fun _ impossible => nomatch impossible

theorem blank_newLine (indent : Nat) : ∀ c ∈ newLine indent, isBlank c := by
  intro c listed
  rcases List.mem_cons.1 listed with rfl | inIndent
  · rfl
  · rw [List.eq_of_mem_replicate inIndent]
    rfl

theorem blank_ending (indent : Nat) (bare : Bool) :
    ∀ c ∈ (if bare then [] else newLine indent), isBlank c := by
  cases bare with
  | true => exact blank_nil
  | false => exact blank_newLine indent

theorem readable_compact {limit depth : Nat} {value : Json} (textual : Textual depth value) :
    Readable limit depth value.compact value := by
  induction textual with
  | string text => exact readable_string limit _ text
  | array _ ih =>
    rw [compact_array]
    exact readable_array blank_nil ih
  | object _ ih =>
    rw [ofDictionary, compact_object]
    exact readable_object blank_nil blank_nil blank_nil ih

theorem readable_pretty {limit depth : Nat} {value : Json} (textual : Textual depth value) :
    ∀ indent, Readable limit depth (value.pretty indent) value := by
  induction textual with
  | string text => exact fun indent => readable_string limit _ text
  | array _ ih =>
    intro indent
    rw [pretty_array]
    exact readable_array (blank_ending indent _) fun item listed =>
      (ih item listed (indent + 1)).behind (blank_newLine _)
  | object _ ih =>
    intro indent
    rw [ofDictionary, pretty_object]
    exact readable_object (blank_newLine _) (by simp [isBlank]) (blank_ending indent _)
      fun value listed => ih value listed (indent + 1)

theorem readWithin_of_readable {limit depth : Nat} {text : List Char} {value : Json}
    (readable : Readable limit depth text value) (enough : depth ≤ limit) {gap : List Char}
    (blank : ∀ c ∈ gap, isBlank c) : readWithin limit (text ++ gap) = some value := by
  have reads := readable ⟨[], .value⟩ (.inl rfl) (by simpa using enough)
  obtain ⟨taken, cut, moves⟩ := reads.append (reads_blank limit blank _)
  have all := cut []
  rw [List.append_nil] at all
  have none : tokens [] = some [] := by rw [tokens_eq]; rfl
  rw [readWithin, all, none]
  simp [moves]
  rfl

/-- A document of text is read back from its text on one line. -/
theorem read_compactText {depth : Nat} {document : Json} (textual : Textual depth document)
    (enough : depth ≤ depthLimit) : read document.compactText = some document := by
  rw [read, compactText, String.toList_ofList, ← List.append_nil document.compact]
  exact readWithin_of_readable (readable_compact textual) enough blank_nil

/-- A document of text is read back from a file of its own. -/
theorem read_documentText {depth : Nat} {document : Json} (textual : Textual depth document)
    (enough : depth ≤ depthLimit) : read document.documentText = some document := by
  rw [read, documentText, String.toList_ofList]
  exact readWithin_of_readable (readable_pretty textual 0) enough (by simp [isBlank])

end Json

end PipelineManifest
