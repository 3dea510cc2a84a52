import PipelineManifest.Decimal.Layout
import PipelineManifest.Proofs.Decimal.Rounding

/-!
# Shortest numerals of wide numbers

The shortest numeral of a floating-point number is found on the coarsest grid of multiples of a
power of ten that meets the interval of the number. For a whole number that needs the last of 64
bits the interval is that of the whole numbers with the same floating-point number, so what is
written is the one of those that ends in the most zeros, the closest if there are several.

Results:
1. `nearestInside_spec`: the multiple that is chosen on one grid.
2. `firstGrid_spec`: the grid at which the walk ends.
3. `holds_ofNat_iff`: the multiples inside the interval of a wide number.
4. `exists_write`: the numeral of a wide number, and `Roundest.unique`: there is only one.
-/

namespace PipelineManifest

namespace Decimal

/-! ## One grid -/

/-- `a` is closer to `middle` than `b`, or as close as `b` and not smaller. -/
def Closer (middle a b : Nat) : Prop :=
  ((a : Int) - middle).natAbs < ((b : Int) - middle).natAbs ∨
    ((a : Int) - middle).natAbs = ((b : Int) - middle).natAbs ∧ b ≤ a

theorem Closer.trans {middle a b c : Nat} (first : Closer middle a b) (second : Closer middle b c) :
    Closer middle a c := by
  unfold Closer at *
  omega

/-- On a grid an interval lies around the number that it belongs to. -/
structure Interval.Around (bounds : Interval) (points : Grid) (middle : Nat) : Prop where
  low : bounds.low * points.quarter < middle
  central : bounds.middle * points.quarter = middle
  high : middle < bounds.high * points.quarter

section

variable {bounds : Interval} {points : Grid} {middle : Nat} (around : bounds.Around points middle)

include around

/-- What lies between a multiple inside the interval and the middle lies inside too. -/
theorem Interval.Around.between {c d : Nat} (inside : bounds.holds points c = true)
    (between : c * points.step ≤ d * points.step ∧ d * points.step ≤ middle ∨
      middle ≤ d * points.step ∧ d * points.step ≤ c * points.step) :
    bounds.holds points d = true := by
  obtain ⟨low, -, high⟩ := around
  by_cases closed : bounds.closed
  all_goals
    simp only [Interval.holds, closed, Bool.false_eq_true, if_true, if_false,
      decide_eq_true_eq] at inside ⊢
    omega

variable (pos : 0 < points.step)

include pos

/-- Of the two multiples around the middle the closer one is chosen. -/
theorem nearestInside_neighbours {c : Nat} (inside : bounds.holds points c = true)
    (neighbour : c = middle / points.step ∨ c = middle / points.step + 1) :
    ∃ best, nearestInside .up bounds points = some best ∧ bounds.holds points best = true ∧
      Closer middle (best * points.step) (c * points.step) := by
  have least := Nat.div_mul_le_self middle points.step
  have most := Nat.lt_div_mul_add (a := middle) pos
  unfold nearestInside Closer
  rw [around.central]
  dsimp only
  generalize middle / points.step = below at *
  have next : (below + 1) * points.step = below * points.step + points.step := Nat.succ_mul _ _
  have halfway : (2 * below + 1) * points.step = 2 * (below * points.step) + points.step := by
    rw [Nat.succ_mul, Nat.mul_assoc]
  rcases neighbour with rfl | rfl
  · rw [inside]
    cases upper : bounds.holds points (c + 1) with
    | false => exact ⟨_, rfl, inside, by omega⟩
    | true =>
      dsimp only
      split
      · exact ⟨_, rfl, inside, by omega⟩
      · exact ⟨_, ite_self _, upper, by omega⟩
  · rw [inside]
    cases lower : bounds.holds points below with
    | false => exact ⟨_, rfl, inside, by omega⟩
    | true =>
      dsimp only
      split
      · exact ⟨_, rfl, lower, by omega⟩
      · exact ⟨_, ite_self _, inside, by omega⟩

/-- The multiple that is chosen lies inside, and none inside is closer to the middle. -/
theorem nearestInside_spec {c : Nat} (inside : bounds.holds points c = true) :
    ∃ best, nearestInside .up bounds points = some best ∧ bounds.holds points best = true ∧
      Closer middle (best * points.step) (c * points.step) := by
  have least := Nat.div_mul_le_self middle points.step
  have most := Nat.lt_mul_div_succ middle pos
  rw [Nat.mul_comm] at most
  rcases Nat.lt_or_ge (middle / points.step) c with (above : _ + 1 ≤ c) | below
  · have further := Nat.mul_le_mul_right points.step above
    have upper := around.between inside (.inr ⟨Nat.le_of_lt most, further⟩)
    obtain ⟨best, found, holds, closer⟩ :=
      nearestInside_neighbours around pos upper (.inr rfl)
    refine ⟨best, found, holds, closer.trans ?_⟩
    unfold Closer
    omega
  · have further := Nat.mul_le_mul_right points.step below
    have lower := around.between inside (.inl ⟨further, least⟩)
    obtain ⟨best, found, holds, closer⟩ :=
      nearestInside_neighbours around pos lower (.inl rfl)
    refine ⟨best, found, holds, closer.trans ?_⟩
    unfold Closer
    omega

end

theorem holds_of_nearestInside {tie : Tie} {bounds : Interval} {points : Grid} {c : Nat}
    (chosen : nearestInside tie bounds points = some c) : bounds.holds points c = true := by
  cases tie <;> grind [nearestInside]

/-! ## The walk through the grids -/

/-- The walk goes on: the number lies below the first multiple or none lies inside. -/
def Passed (tie : Tie) (x : Binary64) (bounds : Interval) (k : Int) : Prop :=
  bounds.middle * (grid x k).quarter < (grid x k).step ∨
    nearestInside tie bounds (grid x k) = none

/-- The walk ends at the first grid that it does not pass. -/
theorem firstGrid_spec {tie : Tie} {x : Binary64} {bounds : Interval} {stop : Int}
    (stops : ¬ Passed tie x bounds stop) (steps : Nat) :
    ∀ {start : Int}, stop ≤ start → start < stop + steps →
      ∃ c k, firstGrid tie x bounds steps start = (c, k) ∧ stop ≤ k ∧ k ≤ start ∧
        nearestInside tie bounds (grid x k) = some c ∧
        ∀ j, k < j → j ≤ start → Passed tie x bounds j := by
  induction steps with
  | zero =>
    intro start reaches short
    omega
  | succ steps ih =>
    intro start reaches short
    by_cases passed : Passed tie x bounds start
    · have further : stop ≤ start - 1 := by
        rcases Int.lt_or_eq_of_le reaches with less | rfl
        · omega
        · exact absurd passed stops
      obtain ⟨c, k, found, least, most, chosen, before⟩ := ih further (by omega)
      refine ⟨c, k, ?_, least, by omega, chosen, fun j after upTo => ?_⟩
      · rw [firstGrid, ← found]
        rcases passed with small | missed
        · exact if_pos small
        · rw [missed]
          exact ite_self _
      · rcases Int.lt_or_eq_of_le upTo with less | rfl
        · exact before j after (by omega)
        · exact passed
    · obtain ⟨reached, hits⟩ := not_or.1 passed
      obtain ⟨c, chosen⟩ := Option.ne_none_iff_exists'.1 hits
      refine ⟨c, start, ?_, reaches, Int.le_refl _, chosen, fun j after upTo => by omega⟩
      rw [firstGrid, chosen]
      exact if_neg reached

/-- Zeros are moved, and the value stays. -/
theorem withoutZeros_spec (steps c : Nat) (k : Int) :
    ∃ zeros, (withoutZeros steps (c, k)).2 = k + (zeros : Nat) ∧
      (withoutZeros steps (c, k)).1 * 10 ^ zeros = c := by
  induction steps generalizing c k with
  | zero => exact ⟨0, (Int.add_zero k).symm, Nat.mul_one c⟩
  | succ steps ih =>
    rw [withoutZeros]
    split
    · next divides =>
      obtain ⟨zeros, power, value⟩ := ih (c / 10) (k + 1)
      refine ⟨zeros + 1, by omega, ?_⟩
      rw [Nat.pow_succ, ← Nat.mul_assoc, value]
      omega
    · exact ⟨0, (Int.add_zero k).symm, Nat.mul_one c⟩

/-! ## Whole numerals -/

theorem toDigits_append_zeros {digits : Nat} (pos : 0 < digits) (zeros : Nat) :
    Nat.toDigits 10 digits ++ List.replicate zeros '0' = Nat.toDigits 10 (digits * 10 ^ zeros) := by
  induction zeros with
  | zero => rw [List.replicate_zero, List.append_nil, Nat.pow_zero, Nat.mul_one]
  | succ zeros ih =>
    have last := Nat.toDigits_append_toDigits (b := 10) (n := digits * 10 ^ zeros) (d := 0)
      (by decide) (Nat.mul_pos pos (Nat.pow_pos (by decide))) (by decide)
    rw [List.replicate_succ', ← List.append_assoc, ih]
    refine last.trans ?_
    rw [Nat.add_zero, Nat.pow_succ, Nat.mul_comm 10, Nat.mul_assoc]

/-- A numeral without point and power of ten is written as the number that it stands for. -/
theorem Layout.text_whole {layout : Layout} (positional : layout.positional = none)
    (bare : layout.whole = "") {digits : Nat} (pos : 0 < digits) (zeros : Nat) :
    layout.text ⟨false, digits, zeros⟩ = Nat.toDigits 10 (digits * 10 ^ zeros) := by
  have written : 0 < (Nat.toDigits 10 digits).length := Nat.length_toDigits_pos
  have behind : (((Nat.toDigits 10 digits).length : Int) + zeros -
      (Nat.toDigits 10 digits).length).toNat = zeros := by omega
  unfold Layout.text
  rw [positional]
  dsimp only
  rw [if_neg Bool.false_ne_true, if_pos (.inl rfl), Layout.positionalText, if_neg (by omega),
    if_pos (by omega), Layout.zeros, behind, bare, toDigits_append_zeros pos]
  exact List.append_nil _

/-! ## Wide numbers -/

open Binary64

/-- Among all numbers with the same floating-point number as `n`, `m` ends in the most zeros, and is
the closest to the floating-point number among those that end in as many. -/
structure Roundest (n m : Nat) : Prop where
  same : ofNat m = ofNat n
  zeros : ∀ places other, ofNat other = ofNat n → 10 ^ places ∣ other → 10 ^ places ∣ m
  closest : ∀ other, ofNat other = ofNat n → (∀ places, 10 ^ places ∣ m → 10 ^ places ∣ other) →
    Closer (ofNat n).ratio.1 m other

theorem Roundest.unique {n m m' : Nat} (roundest : Roundest n m) (roundest' : Roundest n m') :
    m = m' := by
  have nearer := roundest.closest m' roundest'.same fun places =>
    roundest'.zeros places m roundest.same
  have nearer' := roundest'.closest m roundest.same fun places =>
    roundest.zeros places m' roundest'.same
  unfold Closer at nearer nearer'
  omega

section

variable {n : Nat} (wide : Wide n)

include wide

theorem grid_ofNat (k : Nat) :
    grid (ofNat n) k = ⟨10 ^ k, 2 ^ (8 + rounded 63 n / 2 ^ 52)⟩ := by
  unfold grid
  rw [wide.exponent_ofNat]
  generalize rounded 63 n / 2 ^ 52 = places
  have up : (((10 + places : Nat) : Int) - 2).toNat = 8 + places := by omega
  have down : (-(((10 + places : Nat) : Int) - 2)).toNat = 0 := by omega
  have whole : (-(k : Int)).toNat = 0 := by omega
  dsimp only
  rw [up, down, whole, Int.toNat_natCast]
  change Grid.mk (10 ^ k * 1) (1 * 2 ^ (8 + places)) = _
  rw [Nat.mul_one, Nat.one_mul]

theorem interval_ofNat :
    interval (ofNat n) = ⟨4 * (2 ^ 52 + rounded 63 n % 2 ^ 52) -
        (if rounded 63 n % 2 ^ 52 = 0 then 1 else 2),
      4 * (2 ^ 52 + rounded 63 n % 2 ^ 52), 4 * (2 ^ 52 + rounded 63 n % 2 ^ 52) + 2,
      rounded 63 n % 2 = 0⟩ := by
  have normal : 1 < 1085 + rounded 63 n / 2 ^ 52 := by omega
  have parity : (2 ^ 52 + rounded 63 n % 2 ^ 52) % 2 = rounded 63 n % 2 := by omega
  unfold interval
  rw [wide.significand_ofNat, wide.fraction_ofNat, wide.exponentField_ofNat]
  simp only [normal, parity, and_true]

theorem around_ofNat (k : Nat) :
    (interval (ofNat n)).Around (grid (ofNat n) k) (2048 * rounded 63 n) := by
  obtain ⟨least, most⟩ := wide.rounded_bounds
  rw [grid_ofNat wide, interval_ofNat wide]
  generalize rounded 63 n = s at least most ⊢
  rcases (by omega : s / 2 ^ 52 = 1 ∨ s / 2 ^ 52 = 2) with same | same
  all_goals
    rw [same]
    constructor
    · dsimp only
      split <;> omega
    · dsimp only
      omega
    · dsimp only
      omega

/-- A multiple lies inside the interval of a wide number exactly if it has the same floating-point
number. -/
theorem holds_ofNat_iff (k c : Nat) :
    (interval (ofNat n)).holds (grid (ofNat n) k) c = true ↔ ofNat (c * 10 ^ k) = ofNat n := by
  obtain ⟨least, most⟩ := wide.rounded_bounds
  rw [wide.ofNat_eq_iff, grid_ofNat wide, interval_ofNat wide, Interval.holds]
  generalize rounded 63 n = s at least most ⊢
  dsimp only
  generalize c * 10 ^ k = a
  by_cases narrow : s % 2 ^ 52 = 0 <;> by_cases even : s % 2 = 0 <;>
    rcases (by omega : s / 2 ^ 52 = 1 ∨ s / 2 ^ 52 = 2) with same | same
  all_goals
    simp only [same, narrow, even, decide_true, decide_false, Bool.false_eq_true, if_true, if_false,
      decide_eq_true_eq]
    constructor
    · rintro ⟨_, _⟩
      constructor <;> omega
    · rintro ⟨_, _, _, _⟩
      omega

/-- A multiple of 100 has the same floating-point number as a wide number. -/
theorem ofNat_hundreds : ofNat (2048 * rounded 63 n / 100 * 10 ^ 2) = ofNat n := by
  obtain ⟨least, most⟩ := wide.rounded_bounds
  rw [wide.ofNat_eq_iff]
  generalize rounded 63 n = s at least most ⊢
  constructor <;> omega

theorem not_passed_ofNat : ¬ Passed .up (ofNat n) (interval (ofNat n)) (2 : Nat) := by
  obtain ⟨least, -⟩ := wide.rounded_bounds
  have around := around_ofNat wide 2
  have inside := (holds_ofNat_iff wide 2 _).2 (ofNat_hundreds wide)
  have step : (grid (ofNat n) (2 : Nat)).step = 100 := by
    rw [grid_ofNat wide]
    rfl
  obtain ⟨best, found, -⟩ := nearestInside_spec around (by omega) inside
  rintro (small | missed)
  · rw [around.central, step] at small
    omega
  · rw [found] at missed
    cases missed

theorem pos_of_same {m : Nat} (same : ofNat m = ofNat n) : 0 < m := by
  obtain ⟨least, -⟩ := wide.rounded_bounds
  obtain ⟨below, -⟩ := wide.ofNat_eq_iff.1 same
  omega

theorem places_le_of_dvd {m places : Nat} (same : ofNat m = ofNat n) (divides : 10 ^ places ∣ m) :
    places ≤ 19 := by
  obtain ⟨least, most⟩ := wide.rounded_bounds
  obtain ⟨-, -, above, -⟩ := wide.ofNat_eq_iff.1 same
  have fits : 10 ^ places ≤ m := Nat.le_of_dvd (pos_of_same wide same) divides
  have short : 10 ^ places < 10 ^ 20 := by omega
  exact Nat.lt_succ_iff.1 ((Nat.pow_lt_pow_iff_right (by decide)).1 short)

/-- A grid that is passed has no number with the same floating-point number. -/
theorem not_dvd_of_passed {m places : Nat}
    (passed : Passed .up (ofNat n) (interval (ofNat n)) places) (same : ofNat m = ofNat n) :
    ¬ 10 ^ places ∣ m := by
  intro divides
  obtain ⟨least, most⟩ := wide.rounded_bounds
  have around := around_ofNat wide places
  have step : (grid (ofNat n) places).step = 10 ^ places := by rw [grid_ofNat wide]
  rcases passed with small | missed
  · -- only 10 ^ 19 is large enough, and it is a floating-point number itself
    rw [around.central, step] at small
    have most' := places_le_of_dvd wide same divides
    have least' : 18 < places := (Nat.pow_lt_pow_iff_right (a := 10) (by decide)).1 (by omega)
    obtain rfl : places = 19 := by omega
    obtain ⟨c, rfl⟩ := divides
    have pos := pos_of_same wide same
    obtain ⟨-, -, above, -⟩ := wide.ofNat_eq_iff.1 same
    omega
  · obtain ⟨c, rfl⟩ := divides
    rw [Nat.mul_comm] at same
    obtain ⟨best, found, -⟩ := nearestInside_spec around (step ▸ Nat.pow_pos (by decide))
      ((holds_ofNat_iff wide places c).2 same)
    rw [found] at missed
    cases missed

theorem start_ofNat : (19 : Int) ≤
    (((ofNat n).significand.log2 : Int) + (ofNat n).exponent) * 30103 / 100000 + 1 ∧
    (((ofNat n).significand.log2 : Int) + (ofNat n).exponent) * 30103 / 100000 + 1 ≤ 20 := by
  obtain ⟨least, most⟩ := wide.rounded_bounds
  have places : (ofNat n).significand.log2 = 52 := by
    rw [wide.significand_ofNat]
    exact (Nat.log2_eq_iff (by omega)).2 ⟨by omega, by omega⟩
  rw [places, wide.exponent_ofNat]
  omega

theorem Roundest.hundreds {m : Nat} (roundest : Roundest n m) : 100 ∣ m :=
  roundest.zeros 2 _ (ofNat_hundreds wide) (Nat.dvd_mul_left _ _)

theorem roundest_of_chosen {c k : Nat}
    (chosen : nearestInside .up (interval (ofNat n)) (grid (ofNat n) k) = some c)
    (before : ∀ j : Nat, k < j → j ≤ 19 → Passed .up (ofNat n) (interval (ofNat n)) j) :
    Roundest n (c * 10 ^ k) := by
  have step : (grid (ofNat n) k).step = 10 ^ k := by rw [grid_ofNat wide]
  constructor
  · exact (holds_ofNat_iff wide k c).1 (holds_of_nearestInside chosen)
  · intro places other same divides
    rcases Nat.lt_or_ge k places with more | less
    · have passed := before places more (places_le_of_dvd wide same divides)
      exact absurd divides (not_dvd_of_passed wide passed same)
    · exact Nat.dvd_trans (Nat.pow_dvd_pow 10 less) (Nat.dvd_mul_left _ _)
  · intro other same divides
    obtain ⟨d, rfl⟩ := divides k (Nat.dvd_mul_left _ _)
    rw [Nat.mul_comm (10 ^ k) d] at same ⊢
    obtain ⟨best, found, -, closer⟩ := nearestInside_spec (around_ofNat wide k)
      (step ▸ Nat.pow_pos (by decide)) ((holds_ofNat_iff wide k d).2 same)
    obtain rfl : best = c := Option.some.inj (found.symm.trans chosen)
    rwa [wide.ratio_ofNat, ← step]

theorem roundest_shortest : ∃ digits zeros : Nat,
    shortest .up (ofNat n) = ⟨false, digits, zeros⟩ ∧ Roundest n (digits * 10 ^ zeros) := by
  obtain ⟨least, most⟩ := start_ofNat wide
  have normal : (ofNat n).significand ≠ 0 := by
    rw [wide.significand_ofNat]
    omega
  obtain ⟨c, k, found, reaches, -, chosen, before⟩ := firstGrid_spec (not_passed_ofNat wide)
    gridLimit (Int.le_trans (by decide) least) (Int.lt_of_le_of_lt most (by decide))
  obtain ⟨k, rfl⟩ := Int.eq_ofNat_of_zero_le (Int.le_trans (by decide) reaches)
  obtain ⟨zeros, power, value⟩ := withoutZeros_spec 20 c k
  refine ⟨(withoutZeros 20 (c, k)).1, k + zeros, ?_, ?_⟩
  · unfold shortest
    rw [if_neg normal]
    dsimp only
    rw [found, wide.isNegative_ofNat, power]
    rfl
  · rw [Nat.add_comm, Nat.pow_add, ← Nat.mul_assoc, value]
    exact roundest_of_chosen wide chosen fun j after upTo => before j (by omega) (by omega)

/-- What is written for a wide number in a layout without points and powers of ten. -/
theorem exists_write (layout : Layout) (tie : layout.tie = .up)
    (positional : layout.positional = none) (bare : layout.whole = "") :
    ∃ m, Roundest n m ∧ layout.write (ofNat n) = Nat.toDigits 10 m := by
  obtain ⟨digits, zeros, numeral, roundest⟩ := roundest_shortest wide
  have pos : 0 < digits := Nat.pos_of_mul_pos_right (pos_of_same wide roundest.same)
  refine ⟨_, roundest, ?_⟩
  rw [Layout.write, tie, numeral, Layout.text_whole positional bare pos]

end

end Decimal

end PipelineManifest
