import Mathlib.Algebra.Group.Nat.Defs
import PipelineManifest.Decimal.Binary64

/-!
# Whole numbers as floating-point numbers

The number nearest to a whole number is given by its bits: the field of the exponent counts the
binary digits, and the significand is the whole number divided by a power of two and rounded. For a
number that needs the last of 64 bits the divisor is 2048, so all numbers that lie close enough
share one floating-point number.

Results:
1. `roundHalfEven_eq_iff`: the numbers that are rounded to a given one.
2. `toNat_bits_ofNat`: the bits of a whole number.
3. `Wide.ofNat_eq_iff`: the whole numbers that share the floating-point number of a wide one.
-/

namespace PipelineManifest

namespace Binary64

/-! ## Rounding -/

theorem roundHalfEven_eq_iff {num den q : Nat} (pos : 0 < den) :
    roundHalfEven num den = q ↔
      2 * (q * den) ≤ 2 * num + den ∧ 2 * num ≤ 2 * (q * den) + den ∧
        (q % 2 = 1 → 2 * (q * den) < 2 * num + den ∧ 2 * num < 2 * (q * den) + den) := by
  have whole : num / den * den + num % den = num := Nat.div_add_mod' num den
  have rest : num % den < den := Nat.mod_lt _ pos
  have next : (num / den + 1) * den = num / den * den + den := Nat.succ_mul _ _
  constructor
  · rintro rfl
    unfold roundHalfEven
    dsimp only
    split
    · rw [next]
      omega
    · omega
  · rintro ⟨below, above, odd⟩
    -- anything but the quotient and its successor is too far away
    have least : num / den ≤ q := by
      refine Nat.le_of_not_lt fun less => ?_
      have := Nat.mul_le_mul_right den less
      rw [Nat.succ_mul] at this
      omega
    have most : q ≤ num / den + 1 := by
      refine Nat.le_of_not_lt fun more => ?_
      have := Nat.mul_le_mul_right den more
      rw [Nat.succ_mul, next] at this
      omega
    unfold roundHalfEven
    dsimp only
    rcases Nat.lt_or_eq_of_le least with less | rfl
    · obtain rfl : q = num / den + 1 := by omega
      rw [next] at below above odd
      rw [if_pos (by omega)]
    · rw [if_neg (by omega)]

theorem le_roundHalfEven {num den q : Nat} (pos : 0 < den) (reaches : q * den ≤ num) :
    q ≤ roundHalfEven num den := by
  have quotient : q ≤ num / den := (Nat.le_div_iff_mul_le pos).2 reaches
  unfold roundHalfEven
  dsimp only
  split <;> omega

theorem roundHalfEven_le {num den q : Nat} (pos : 0 < den) (stays : num ≤ q * den) :
    roundHalfEven num den ≤ q := by
  obtain ⟨near, -, -⟩ := (roundHalfEven_eq_iff pos).1 (rfl : roundHalfEven num den = _)
  refine Nat.le_of_lt_succ (Nat.lt_of_mul_lt_mul_right (a := den) ?_)
  rw [Nat.succ_mul]
  omega

/-! ## Bits -/

theorem toNat_bits_inj {x y : Binary64} : x.bits.toNat = y.bits.toNat ↔ x = y := by
  rw [UInt64.toNat_inj]
  exact ⟨fun same => congrArg mk same, congrArg bits⟩

/-- The significand of a number with `places` binary digits after the first. -/
def rounded (places n : Nat) : Nat :=
  roundHalfEven (n * 2 ^ (52 - places)) (2 ^ (places - 52))

theorem scaled_bounds {n : Nat} (pos : 0 < n) :
    2 ^ 52 * 2 ^ (n.log2 - 52) ≤ n * 2 ^ (52 - n.log2) ∧
      n * 2 ^ (52 - n.log2) < 2 ^ 53 * 2 ^ (n.log2 - 52) := by
  have low : 2 ^ n.log2 ≤ n := Nat.log2_self_le (Nat.ne_of_gt pos)
  have high : n < 2 ^ (n.log2 + 1) := Nat.lt_log2_self
  have factor : 0 < 2 ^ (52 - n.log2) := Nat.two_pow_pos _
  constructor
  · calc 2 ^ 52 * 2 ^ (n.log2 - 52) = 2 ^ n.log2 * 2 ^ (52 - n.log2) := by
          rw [← Nat.pow_add, ← Nat.pow_add]
          congr 1
          omega
      _ ≤ n * 2 ^ (52 - n.log2) := Nat.mul_le_mul_right _ low
  · calc n * 2 ^ (52 - n.log2) < 2 ^ (n.log2 + 1) * 2 ^ (52 - n.log2) :=
          Nat.mul_lt_mul_of_pos_right high factor
      _ = 2 ^ 53 * 2 ^ (n.log2 - 52) := by
          rw [← Nat.pow_add, ← Nat.pow_add]
          congr 1
          omega

theorem rounded_bounds {n : Nat} (pos : 0 < n) :
    2 ^ 52 ≤ rounded n.log2 n ∧ rounded n.log2 n ≤ 2 ^ 53 := by
  have divisor : 0 < 2 ^ (n.log2 - 52) := Nat.two_pow_pos _
  obtain ⟨low, high⟩ := scaled_bounds pos
  exact ⟨le_roundHalfEven divisor low, roundHalfEven_le divisor (Nat.le_of_lt high)⟩

theorem scaled_one (n places : Nat) :
    scaled n 1 ((places : Int) - 52) = (n * 2 ^ (52 - places), 2 ^ (places - 52)) := by
  have up : (-((places : Int) - 52)).toNat = 52 - places := by omega
  have down : ((places : Int) - 52).toNat = places - 52 := by omega
  rw [scaled, up, down, Nat.one_mul]
  rfl

theorem scaleOf_one {n : Nat} (pos : 0 < n) : scaleOf n 1 = (n.log2 : Int) - 52 := by
  have guess : max ((n.log2 : Int) - (Nat.log2 1 : Nat) - 52) leastExponent =
      (n.log2 : Int) - 52 := by
    have nothing : Nat.log2 1 = 0 := by decide
    rw [nothing, leastExponent]
    omega
  unfold scaleOf
  rw [guess]
  dsimp only
  rw [scaled_one]
  refine if_neg fun ⟨_, short⟩ => Nat.not_lt.2 (scaled_bounds pos).1 ?_
  exact Nat.lt_of_lt_of_eq short (Nat.mul_comm _ _)

theorem toNat_bits_ofNat {n : Nat} (pos : 0 < n) :
    (ofNat n).bits.toNat = min ((n.log2 + 1022) * 2 ^ 52 + rounded n.log2 n) infinityBits := by
  have places : ((n.log2 : Int) - 52 - leastExponent).toNat = n.log2 + 1022 := by
    rw [leastExponent]
    omega
  rw [ofNat, ofRatio, if_neg (Nat.ne_of_gt pos), scaleOf_one pos]
  dsimp only
  rw [scaled_one, places, ofBits, if_neg Bool.false_ne_true, Nat.zero_add, UInt64.toNat_ofNat']
  refine Nat.mod_eq_of_lt (Nat.lt_of_le_of_lt (Nat.min_le_right _ _) ?_)
  decide +kernel

/-! ## Wide numbers -/

/-- A number that needs the last of 64 bits. -/
structure Wide (n : Nat) : Prop where
  least : 2 ^ 63 ≤ n
  less : n < 2 ^ 64

/-- Numbers that are close enough to the `significand` of a wide one. Below the first significand
the numbers lie half as far apart, and above the last one twice as far. -/
structure Near (significand n : Nat) : Prop where
  below : 2048 * significand ≤ n + 1024
  first : significand = 2 ^ 52 → 2048 * significand ≤ n + 512
  above : n ≤ 2048 * significand + 1024 ∨
    significand = 2 ^ 53 ∧ n ≤ 2048 * significand + 2048
  odd : significand % 2 = 1 → 2048 * significand < n + 1024 ∧ n < 2048 * significand + 1024

section

variable {s m : Nat} (low : 2 ^ 52 ≤ s) (high : s ≤ 2 ^ 53)

include low high

theorem Near.log2 (near : Near s m) : 62 ≤ m.log2 ∧ m.log2 ≤ 64 := by
  obtain ⟨below, first, above, -⟩ := near
  have pos : m ≠ 0 := by omega
  exact ⟨(Nat.le_log2 pos).2 (by omega), Nat.lt_succ_iff.1 ((Nat.log2_lt pos).2 (by omega))⟩

/-- A number with a place less is close enough only to the first significand, and one with a place
more only to the last. -/
theorem near_iff_rounded (places : 62 ≤ m.log2 ∧ m.log2 ≤ 64) :
    Near s m ↔ m.log2 * 2 ^ 52 + rounded m.log2 m = 63 * 2 ^ 52 + s := by
  have pos : m ≠ 0 := by
    rintro rfl
    exact absurd places.1 (by decide)
  obtain ⟨least, less⟩ := (Nat.log2_eq_iff pos).1 rfl
  obtain ⟨below, above, odd⟩ :=
    (roundHalfEven_eq_iff (q := rounded m.log2 m) (Nat.two_pow_pos _)).1 rfl
  generalize rounded m.log2 m = r at below above odd ⊢
  rcases (by omega : m.log2 = 62 ∨ m.log2 = 63 ∨ m.log2 = 64) with same | same | same
  all_goals
    rw [same] at least less below above odd ⊢
    simp only [Nat.reduceSub, Nat.reduceAdd] at least less below above odd
    constructor
    · rintro ⟨_, _, _, _⟩
      omega
    · intro
      constructor <;> omega

end

section

variable {n : Nat} (wide : Wide n)

include wide

theorem Wide.log2_eq : n.log2 = 63 :=
  (Nat.log2_eq_iff (by have := wide.least; omega)).2 ⟨wide.least, wide.less⟩

theorem Wide.rounded_bounds : 2 ^ 52 ≤ rounded 63 n ∧ rounded 63 n ≤ 2 ^ 53 := by
  have bounds := Binary64.rounded_bounds (n := n) (by have := wide.least; omega)
  rwa [wide.log2_eq] at bounds

theorem Wide.toNat_bits_ofNat : (ofNat n).bits.toNat = 1085 * 2 ^ 52 + rounded 63 n := by
  have finite : infinityBits = 2047 * 2 ^ 52 := rfl
  have := wide.rounded_bounds
  rw [Binary64.toNat_bits_ofNat (by have := wide.least; omega), wide.log2_eq, finite]
  omega

theorem Wide.isNegative_ofNat : (ofNat n).isNegative = false := by
  have := wide.rounded_bounds
  unfold isNegative
  rw [wide.toNat_bits_ofNat]
  refine decide_eq_false ?_
  change ¬ (1085 * 2 ^ 52 + rounded 63 n) / 2 ^ 63 % 2 = 1
  omega

theorem Wide.fraction_ofNat : (ofNat n).fraction = rounded 63 n % 2 ^ 52 := by
  unfold fraction
  rw [wide.toNat_bits_ofNat]
  exact Nat.mul_add_mod_self_right _ _ _

theorem Wide.exponentField_ofNat : (ofNat n).exponentField = 1085 + rounded 63 n / 2 ^ 52 := by
  have := wide.rounded_bounds
  unfold exponentField
  rw [wide.toNat_bits_ofNat]
  change (1085 * 2 ^ 52 + rounded 63 n) / 2 ^ 52 % 2 ^ 11 = _
  omega

theorem Wide.isNaN_ofNat : (ofNat n).isNaN = false := by
  have := wide.rounded_bounds
  refine decide_eq_false ?_
  rw [wide.exponentField_ofNat]
  omega

theorem Wide.isFinite_ofNat : (ofNat n).isFinite = true := by
  have := wide.rounded_bounds
  refine decide_eq_true ?_
  rw [wide.exponentField_ofNat]
  omega

theorem Wide.significand_ofNat : (ofNat n).significand = 2 ^ 52 + rounded 63 n % 2 ^ 52 := by
  unfold significand
  rw [wide.exponentField_ofNat, if_neg (by omega), wide.fraction_ofNat]
  rfl

theorem Wide.exponent_ofNat : (ofNat n).exponent = (10 + rounded 63 n / 2 ^ 52 : Nat) := by
  unfold exponent
  rw [wide.exponentField_ofNat, leastExponent]
  omega

theorem Wide.ratio_ofNat : (ofNat n).ratio.1 = 2048 * rounded 63 n := by
  obtain ⟨least, most⟩ := wide.rounded_bounds
  change (ofNat n).significand * 2 ^ (ofNat n).exponent.toNat = _
  rw [wide.significand_ofNat, wide.exponent_ofNat, Int.toNat_natCast]
  generalize rounded 63 n = s at least most ⊢
  rcases (by omega : s / 2 ^ 52 = 1 ∨ s / 2 ^ 52 = 2) with same | same
  all_goals
    rw [same]
    omega

/-- The numbers with the floating-point number of a wide one are those that are close enough. -/
theorem Wide.ofNat_eq_iff {m : Nat} : ofNat m = ofNat n ↔ Near (rounded 63 n) m := by
  have finite : infinityBits = 2047 * 2 ^ 52 := rfl
  obtain ⟨least, most⟩ := wide.rounded_bounds
  rw [← toNat_bits_inj, wide.toNat_bits_ofNat]
  generalize rounded 63 n = s at least most ⊢
  rcases Nat.eq_zero_or_pos m with rfl | pos
  · have nothing : (ofNat 0).bits.toNat = 0 := by decide
    rw [nothing]
    exact ⟨fun same => by omega, fun near => by have := near.below; omega⟩
  obtain ⟨low, high⟩ := Binary64.rounded_bounds pos
  rw [Binary64.toNat_bits_ofNat pos, finite]
  -- only three powers of two come into question
  by_cases places : 62 ≤ m.log2 ∧ m.log2 ≤ 64
  · rw [near_iff_rounded least most places]
    omega
  · exact ⟨fun same => by omega, fun near => absurd (near.log2 least most) places⟩

end

end Binary64

end PipelineManifest
