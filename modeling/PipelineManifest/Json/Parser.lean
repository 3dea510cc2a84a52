import PipelineManifest.Json.Value
import PipelineManifest.Text.Hexadecimal

/-!
Reading JSON text. The text is cut into tokens, and the tokens are taken one at a time by a
machine that keeps the open containers on a stack (`Json.Reader.take`). `Json.read` gives no value
if the text is not JSON, holds a number that is too large, or nests containers deeper than its
limit.
-/

namespace PipelineManifest

namespace Json

/-- A numeral by its parts; each list of digits has one at least. -/
structure Numeral where
  negative : Bool
  whole : List Nat
  fraction : Option (List Nat)
  /-- The power of ten: whether it has a minus sign, and its digits. -/
  power : Option (Bool × List Nat)
deriving DecidableEq, Repr

inductive Token
  | leftBracket
  | rightBracket
  | leftBrace
  | rightBrace
  | comma
  | colon
  | text (value : String)
  | null
  | bool (value : Bool)
  | number (numeral : Numeral)
deriving DecidableEq, Repr

/-! ### Numbers -/

def greatestSignificand : Nat := Nat.pow 2 64 - 1

/-- Appends digits as long as the significand has room for them, and gives back the others. -/
def gather (significand : Nat) : List Nat → Nat × List Nat
  | [] => (significand, [])
  | digit :: rest =>
    if significand * 10 + digit ≤ greatestSignificand then gather (significand * 10 + digit) rest
    else (significand, digit :: rest)

def powerOfTen (n : Nat) : Binary64 := .ofNat (Nat.pow 10 n)

/-- Multiplies by a power of ten, rounding after every step: a power below the least one of a
floating-point number takes two. Overflow gives no number. -/
def scaleByTen (x : Binary64) (power : Int) : Option Binary64 :=
  if 308 < power then if x.isZero then some x else none
  else if 0 ≤ power then
    let product := x.mul (powerOfTen power.toNat)
    if product.isFinite then some product else none
  else if -308 ≤ power then some (x.div (powerOfTen (-power).toNat))
  else if -616 ≤ power then
    some ((x.div (powerOfTen 308)).div (powerOfTen (-power - 308).toNat))
  else some (.zero false)

/-- The greatest power of ten that is read as a number. -/
def greatestPower : Nat := Nat.pow 2 31 - 1

def signed (negative : Bool) (x : Binary64) : Json := .float (if negative then x.neg else x)

/-- A whole number is kept if it fits into 64 bits, with or without a sign; minus zero and all other
numerals are floating-point numbers. -/
def Numeral.value? (numeral : Numeral) : Option Json :=
  let (whole, dropped) := gather 0 numeral.whole
  let (significand, power) : Nat × Int := match numeral.fraction with
    | none => (whole, dropped.length)
    | some digits =>
      let (significand, left) := gather whole digits
      (significand, dropped.length - (digits.length - left.length))
  match numeral.fraction, numeral.power, dropped with
  | none, none, [] =>
    if ¬ numeral.negative then some (.int whole)
    else if whole ≠ 0 ∧ whole ≤ Nat.pow 2 63 then some (.int (-whole))
    else some (signed numeral.negative (.ofNat whole))
  | _, none, _ => (scaleByTen (.ofNat significand) power).map (signed numeral.negative)
  | _, some (negativePower, digits), _ =>
    let written := digits.foldl (fun n digit => n * 10 + digit) 0
    if greatestPower < written then
      if significand ≠ 0 ∧ ¬ negativePower then none
      else some (signed numeral.negative (.zero false))
    else
      let power := if negativePower then power - written else power + written
      (scaleByTen (.ofNat significand) power).map (signed numeral.negative)

/-! ### Tokens -/

def digitValue (c : Char) : Nat := c.toNat - '0'.toNat

/-- The digits at the start of a text, one at least, and what follows them. -/
def takeDigits (cs : List Char) : Option (List Nat × List Char) :=
  match cs.takeWhile Char.isDigit with
  | [] => none
  | digits => some (digits.map digitValue, cs.dropWhile Char.isDigit)

theorem takeDigits_shorter {cs rest : List Char} {digits : List Nat}
    (h : takeDigits cs = some (digits, rest)) : rest.length < cs.length := by
  match cs with
  | [] => simp [takeDigits] at h
  | c :: tail =>
    by_cases isDigit : c.isDigit
    · simp only [takeDigits, List.takeWhile_cons, List.dropWhile_cons, isDigit, if_true,
        Option.some.injEq, Prod.mk.injEq] at h
      exact h.2 ▸ Nat.lt_succ_of_le (List.dropWhile_sublist Char.isDigit).length_le
    · simp [takeDigits, isDigit] at h

/-- A fraction has a digit after its point. -/
def takeFraction : List Char → Option (Option (List Nat) × List Char)
  | '.' :: rest => do
    let (digits, rest) ← takeDigits rest
    return (some digits, rest)
  | rest => some (none, rest)

theorem takeFraction_shorter {cs rest : List Char} {fraction : Option (List Nat)}
    (h : takeFraction cs = some (fraction, rest)) : rest.length ≤ cs.length := by
  unfold takeFraction at h
  split at h
  · obtain ⟨⟨digits, behind⟩, taken, same⟩ := Option.bind_eq_some_iff.1 h
    cases same
    exact Nat.le_succ_of_le (Nat.le_of_lt (takeDigits_shorter taken))
  · cases h
    exact Nat.le_refl _

/-- Whether a minus sign stands ahead; a plus sign is passed over. -/
def takeSign : List Char → Bool × List Char
  | '-' :: rest => (true, rest)
  | '+' :: rest => (false, rest)
  | rest => (false, rest)

theorem takeSign_shorter (cs : List Char) : (takeSign cs).2.length ≤ cs.length := by
  unfold takeSign
  split <;> simp

/-- A power has a digit after its sign. -/
def takePower : List Char → Option (Option (Bool × List Nat) × List Char)
  | c :: rest =>
    if c = 'e' ∨ c = 'E' then do
      let (digits, behind) ← takeDigits (takeSign rest).2
      return (some ((takeSign rest).1, digits), behind)
    else some (none, c :: rest)
  | [] => some (none, [])

theorem takePower_shorter {cs rest : List Char} {power : Option (Bool × List Nat)}
    (h : takePower cs = some (power, rest)) : rest.length ≤ cs.length := by
  unfold takePower at h
  split at h
  next c tail =>
    split at h
    · obtain ⟨⟨digits, behind⟩, taken, same⟩ := Option.bind_eq_some_iff.1 h
      cases same
      have := takeDigits_shorter taken
      have := takeSign_shorter tail
      simp only [List.length_cons]
      omega
    · cases h
      exact Nat.le_refl _
  · cases h
    exact Nat.le_refl _

/-- Digits that are more than the zero they begin with. -/
def isPadded : List Nat → Bool
  | 0 :: _ :: _ => true
  | _ => false

/-- A numeral without its sign. A zero is the only digit of the whole part that it begins. -/
def takeNumeral (negative : Bool) (cs : List Char) : Option (Token × List Char) := do
  let (whole, rest) ← takeDigits cs
  if isPadded whole then none
  else
    let (fraction, rest) ← takeFraction rest
    let (power, rest) ← takePower rest
    return (.number ⟨negative, whole, fraction, power⟩, rest)

theorem takeNumeral_shorter {cs rest : List Char} {negative : Bool} {token : Token}
    (h : takeNumeral negative cs = some (token, rest)) : rest.length < cs.length := by
  obtain ⟨⟨whole, afterWhole⟩, takenWhole, h⟩ := Option.bind_eq_some_iff.1 h
  simp only at h
  split at h
  · cases h
  · obtain ⟨⟨fraction, afterFraction⟩, takenFraction, h⟩ := Option.bind_eq_some_iff.1 h
    obtain ⟨⟨power, afterPower⟩, takenPower, h⟩ := Option.bind_eq_some_iff.1 h
    cases h
    have behindFraction := takeFraction_shorter takenFraction
    have behindPower := takePower_shorter takenPower
    exact Nat.lt_of_le_of_lt (Nat.le_trans behindPower behindFraction)
      (takeDigits_shorter takenWhole)

/-- The character of a backslash and one more character. -/
def shortEscape? : Char → Option Char
  | '"' => some '"'
  | '\\' => some '\\'
  | '/' => some '/'
  | 'b' => some '\x08'
  | 'f' => some '\x0c'
  | 'n' => some '\n'
  | 'r' => some '\r'
  | 't' => some '\t'
  | _ => none

/-- The character of two code units of 16 bits, the first from the upper half of the surrogates and
the second from the lower. -/
def joinUnits? (high low : Nat) : Option Char :=
  if 0xD800 ≤ high ∧ high ≤ 0xDBFF ∧ 0xDC00 ≤ low ∧ low ≤ 0xDFFF then
    some (.ofNat (0x10000 + (high - 0xD800) * 0x400 + (low - 0xDC00)))
  else none

/-- The characters up to the closing quote, and what follows it. -/
def takeText : List Char → Option (List Char × List Char)
  | [] => none
  | '"' :: rest => some ([], rest)
  | '\\' :: 'u' :: a :: b :: c :: d :: rest => do
    let unit ← Text.hexNumber? [a, b, c, d]
    if 0xD800 ≤ unit ∧ unit ≤ 0xDFFF then
      match rest with
      | '\\' :: 'u' :: e :: f :: g :: h :: rest =>
        let char ← joinUnits? unit (← Text.hexNumber? [e, f, g, h])
        let (others, rest) ← takeText rest
        return (char :: others, rest)
      | _ => none
    else
      let (others, rest) ← takeText rest
      return (.ofNat unit :: others, rest)
  | '\\' :: c :: rest => do
    let char ← shortEscape? c
    let (others, rest) ← takeText rest
    return (char :: others, rest)
  | c :: rest =>
    if c.toNat < 0x20 then none
    else do
      let (others, rest) ← takeText rest
      return (c :: others, rest)

/-- A character that is put before a text leaves what is behind the text as it is. -/
theorem length_of_prepended {c : Char} {taken : Option (List Char × List Char)}
    {text rest : List Char} {bound : Nat}
    (shorter : ∀ {text rest}, taken = some (text, rest) → rest.length < bound)
    (h : (do let (others, rest) ← taken; return (c :: others, rest)) = some (text, rest)) :
    rest.length < bound := by
  obtain ⟨⟨others, behind⟩, found, same⟩ := Option.bind_eq_some_iff.1 h
  cases same
  exact shorter found

theorem takeText_shorter {cs text rest : List Char}
    (h : takeText cs = some (text, rest)) : rest.length < cs.length := by
  fun_induction takeText cs generalizing text rest with
  | case1 => cases h
  | case2 => cases h; simp
  | case3 a b c d tail ihPair ih =>
    obtain ⟨unit, _, h⟩ := Option.bind_eq_some_iff.1 h
    split at h
    · split at h
      · obtain ⟨low, _, h⟩ := Option.bind_eq_some_iff.1 h
        obtain ⟨char, _, h⟩ := Option.bind_eq_some_iff.1 h
        have := length_of_prepended ihPair h
        simp only [List.length_cons]
        omega
      · cases h
    · have := length_of_prepended ih h
      simp only [List.length_cons]
      omega
  | case4 c tail _ ih =>
    obtain ⟨char, _, h⟩ := Option.bind_eq_some_iff.1 h
    exact Nat.lt_succ_of_lt (Nat.lt_succ_of_lt (length_of_prepended ih h))
  | case5 => cases h
  | case6 c tail _ _ _ _ ih => exact Nat.lt_succ_of_lt (length_of_prepended ih h)

def isBlank (c : Char) : Bool := c = ' ' ∨ c = '\n' ∨ c = '\r' ∨ c = '\t'

/-- The token at the start of a text. -/
def takeToken : List Char → Option (Token × List Char)
  | '[' :: rest => some (.leftBracket, rest)
  | ']' :: rest => some (.rightBracket, rest)
  | '{' :: rest => some (.leftBrace, rest)
  | '}' :: rest => some (.rightBrace, rest)
  | ',' :: rest => some (.comma, rest)
  | ':' :: rest => some (.colon, rest)
  | 'n' :: 'u' :: 'l' :: 'l' :: rest => some (.null, rest)
  | 't' :: 'r' :: 'u' :: 'e' :: rest => some (.bool true, rest)
  | 'f' :: 'a' :: 'l' :: 's' :: 'e' :: rest => some (.bool false, rest)
  | '"' :: rest => (takeText rest).map fun (text, rest) => (.text (.ofList text), rest)
  | '-' :: rest => takeNumeral true rest
  | rest => takeNumeral false rest

theorem takeToken_shorter {cs rest : List Char} {token : Token}
    (h : takeToken cs = some (token, rest)) : rest.length < cs.length := by
  unfold takeToken at h
  split at h
  case h_10 =>
    obtain ⟨⟨text, behind⟩, taken, same⟩ := Option.map_eq_some_iff.1 h
    cases same
    exact Nat.lt_succ_of_lt (takeText_shorter taken)
  case h_11 => exact Nat.lt_succ_of_lt (takeNumeral_shorter h)
  case h_12 => exact takeNumeral_shorter h
  all_goals
    cases h
    simp only [List.length_cons]
    omega

/-- The tokens of a text. -/
def tokens (cs : List Char) : Option (List Token) :=
  match _gap : cs.dropWhile isBlank with
  | [] => some []
  | c :: text => match _taken : takeToken (c :: text) with
    | none => none
    | some (token, rest) => (tokens rest).map (token :: ·)
termination_by cs.length
decreasing_by
  have bound : (c :: text).length ≤ cs.length := _gap ▸ (List.dropWhile_sublist isBlank).length_le
  exact Nat.lt_of_lt_of_le (takeToken_shorter _taken) bound

/-! ### Values -/

/-- An open container with what it holds so far. -/
inductive Frame
  /-- The last item stands first. -/
  | array (items : List Json)
  | object (members : Dictionary Json) (key : String)

/-- What the next token may be. -/
inductive Expected
  | value
  | itemOrEnd
  | keyOrEnd
  | key
  | colon (key : String)
  | commaOrEnd
  | nothing (read : Json)

structure Reader where
  opened : List Frame
  expected : Expected

namespace Reader

/-- Puts a whole value into the innermost container. A later member of a name replaces an earlier.
-/
def finish (value : Json) : List Frame → Reader
  | [] => ⟨[], .nothing value⟩
  | .array items :: outer => ⟨.array (value :: items) :: outer, .commaOrEnd⟩
  | .object members key :: outer => ⟨.object (members.insert key value) key :: outer, .commaOrEnd⟩

/-- Takes a token where a value may stand. -/
def takeValue (limit : Nat) (opened : List Frame) : Token → Option Reader
  | .leftBracket =>
    if opened.length < limit then some ⟨.array [] :: opened, .itemOrEnd⟩ else none
  | .leftBrace =>
    if opened.length < limit then some ⟨.object ∅ "" :: opened, .keyOrEnd⟩ else none
  | .text value => some (finish (.string value) opened)
  | .null => some (finish .null opened)
  | .bool value => some (finish (.bool value) opened)
  | .number numeral => numeral.value?.map (finish · opened)
  | _ => none

/-- Closes the innermost container. -/
def close : List Frame → Token → Option Reader
  | .array items :: outer, .rightBracket => some (finish (.array items.reverse) outer)
  | .object members _ :: outer, .rightBrace => some (finish (.ofDictionary members) outer)
  | _, _ => none

def take (limit : Nat) (reader : Reader) (token : Token) : Option Reader :=
  match reader.expected, token with
  | .value, token => takeValue limit reader.opened token
  | .itemOrEnd, .rightBracket => close reader.opened token
  | .itemOrEnd, token => takeValue limit reader.opened token
  | .keyOrEnd, .text key | .key, .text key => some ⟨reader.opened, .colon key⟩
  | .keyOrEnd, token => close reader.opened token
  | .colon key, .colon => match reader.opened with
    | .object members _ :: outer => some ⟨.object members key :: outer, .value⟩
    | _ => none
  | .commaOrEnd, .comma => match reader.opened with
    | .object _ _ :: _ => some ⟨reader.opened, .key⟩
    | _ => some ⟨reader.opened, .value⟩
  | .commaOrEnd, token => close reader.opened token
  | _, _ => none

end Reader

/-- The value of a text whose containers are nested at most `limit` deep. -/
def readWithin (limit : Nat) (text : List Char) : Option Json := do
  let reader ← (← tokens text).foldlM (Reader.take limit) ⟨[], .value⟩
  match reader.expected with
  | .nothing value => some value
  | _ => none

/-- How deep containers are nested in a document at most. -/
def depthLimit : Nat := 127

def read (text : String) : Option Json := readWithin depthLimit text.toList

end Json

end PipelineManifest
