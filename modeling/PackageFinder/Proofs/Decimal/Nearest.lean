import Mathlib.Algebra.Order.Field.Power
import Mathlib.Data.Rat.Cast.Order
import Mathlib.Tactic.FieldSimp
import Mathlib.Tactic.Linarith
import Mathlib.Tactic.NormNum
import Mathlib.Tactic.Positivity
import Mathlib.Tactic.Ring
import PackageFinder.Decimal.Binary64

/-!
# How far rounding goes

A number from one on is rounded up by at most one part in `2 ^ 53`, so that it becomes an infinity only
near `2 ^ 1024`; from there on it always does. All is said of rationals, and only of numbers from one
on, since smaller ones have fewer places.
-/

namespace PackageFinder

/-! ## Rounding to whole numbers -/

/-- A quotient is rounded by at most a half. -/
lemma roundHalfEven_bounds (num : ℕ) {den : ℕ} (pos : 0 < den) :
    (num : ℚ) / den - 1 / 2 ≤ roundHalfEven num den
      ∧ (roundHalfEven num den : ℚ) ≤ num / den + 1 / 2 := by
  have below := Nat.mod_lt num pos
  have cut := Nat.div_add_mod num den
  have whole : 2 * num ≤ 2 * (den * roundHalfEven num den) + den
      ∧ 2 * (den * roundHalfEven num den) ≤ 2 * num + den := by
    unfold roundHalfEven
    dsimp only
    split
    · omega
    · split
      · rw [Nat.mul_add, Nat.mul_one]
        omega
      · split
        · omega
        · rw [Nat.mul_add, Nat.mul_one]
          omega
  have den_pos : (0 : ℚ) < den := by exact_mod_cast pos
  obtain ⟨upper, lower⟩ := whole
  have upper : (2 * num : ℚ) ≤ 2 * (den * roundHalfEven num den) + den := by exact_mod_cast upper
  have lower : (2 * (den * roundHalfEven num den) : ℚ) ≤ 2 * num + den := by exact_mod_cast lower
  constructor
  · rw [sub_le_iff_le_add, div_le_iff₀ den_pos]
    linarith
  · rw [← sub_le_iff_le_add, le_div_iff₀ den_pos]
    linarith

namespace Binary64
variable {num den : ℕ}

/-! ## Places -/

/-- Scaling multiplies by a power of two. -/
lemma scale_eq (num : ℕ) {den : ℕ} (pos : 0 < den) (e : ℤ) :
    0 < (scale num den e).2
      ∧ ((scale num den e).1 : ℚ) / (scale num den e).2 = num / den * 2 ^ e := by
  have den_ne : (den : ℚ) ≠ 0 := by exact_mod_cast pos.ne'
  unfold scale
  split
  case isTrue up =>
    obtain ⟨k, rfl⟩ := Int.eq_ofNat_of_zero_le up
    refine ⟨pos, ?_⟩
    simp only [Int.toNat_natCast, Nat.shiftLeft_eq, Nat.cast_mul, Nat.cast_pow, Nat.cast_ofNat,
      zpow_natCast]
    field_simp
  case isFalse down =>
    obtain ⟨k, hk⟩ := Int.eq_ofNat_of_zero_le (show 0 ≤ -e by omega)
    obtain rfl : e = -(k : ℤ) := by omega
    rw [neg_neg, Int.toNat_natCast, Nat.shiftLeft_eq]
    refine ⟨by positivity, ?_⟩
    simp only [Nat.cast_mul, Nat.cast_pow, Nat.cast_ofNat, zpow_neg, zpow_natCast]
    field_simp

/-- Scaling a bound. -/
lemma scaled_lt_iff {q : ℚ} {e : ℤ} {k : ℕ} : q * 2 ^ (-e) < 2 ^ k ↔ q < 2 ^ (e + k) := by
  rw [zpow_neg, ← div_eq_mul_inv, div_lt_iff₀ (by positivity), add_comm, zpow_add₀ two_ne_zero,
    zpow_natCast]

/-- A quotient lies between the powers of two that the sizes of its parts give. -/
lemma log2_bounds (hn : 0 < num) (hd : 0 < den) :
    (2 : ℚ) ^ ((num.log2 : ℤ) - den.log2 - 1) < num / den
      ∧ (num : ℚ) / den < 2 ^ ((num.log2 : ℤ) - den.log2 + 1) := by
  have num_low : (2 : ℚ) ^ num.log2 ≤ num := by exact_mod_cast Nat.log2_self_le hn.ne'
  have num_high : (num : ℚ) < 2 ^ (num.log2 + 1) := by exact_mod_cast Nat.lt_log2_self
  have den_low : (2 : ℚ) ^ den.log2 ≤ den := by exact_mod_cast Nat.log2_self_le hd.ne'
  have den_high : (den : ℚ) < 2 ^ (den.log2 + 1) := by exact_mod_cast Nat.lt_log2_self
  have den_pos : (0 : ℚ) < den := by exact_mod_cast hd
  constructor
  · rw [lt_div_iff₀ den_pos]
    calc (2 : ℚ) ^ ((num.log2 : ℤ) - den.log2 - 1) * den
        < 2 ^ ((num.log2 : ℤ) - den.log2 - 1) * 2 ^ (den.log2 + 1) :=
          mul_lt_mul_of_pos_left den_high (by positivity)
      _ = 2 ^ num.log2 := by
          rw [← zpow_natCast, ← zpow_natCast, ← zpow_add₀ two_ne_zero]
          congr 1
          push_cast
          ring
      _ ≤ num := num_low
  · rw [div_lt_iff₀ den_pos]
    calc (num : ℚ) < 2 ^ (num.log2 + 1) := num_high
      _ = 2 ^ ((num.log2 : ℤ) - den.log2 + 1) * 2 ^ den.log2 := by
          rw [← zpow_natCast, ← zpow_natCast, ← zpow_add₀ two_ne_zero]
          congr 1
          push_cast
          ring
      _ ≤ 2 ^ ((num.log2 : ℤ) - den.log2 + 1) * den :=
          mul_le_mul_of_nonneg_left den_low (by positivity)

/-- The last place of a number from one on leaves it 53 places. -/
lemma lastPlace_bounds (hd : 0 < den) (one : den ≤ num) :
    (2 : ℚ) ^ (lastPlace num den + 52) ≤ num / den
      ∧ (num : ℚ) / den < 2 ^ (lastPlace num den + 53) := by
  obtain ⟨low, high⟩ := log2_bounds (Nat.lt_of_lt_of_le hd one) hd
  have quotient_one : (1 : ℚ) ≤ num / den := by
    rw [one_le_div (by exact_mod_cast hd)]
    exact_mod_cast one
  have size : den.log2 ≤ num.log2 := by
    by_contra smaller
    have : (num : ℚ) / den < 2 ^ (0 : ℤ) :=
      lt_of_lt_of_le high (zpow_le_zpow_right₀ one_le_two (by omega))
    rw [zpow_zero] at this
    linarith
  unfold lastPlace
  obtain ⟨e, he⟩ : ∃ e : ℤ, e = (num.log2 : ℤ) - den.log2 - 52 := ⟨_, rfl⟩
  obtain ⟨scaled_pos, scaled⟩ := scale_eq num hd (-e)
  have scaled_pos : (0 : ℚ) < (scale num den (-e)).2 := by exact_mod_cast scaled_pos
  dsimp only
  rw [← he]
  -- the size of the quotient tells the place but for one, and the comparison decides
  have few : (scale num den (-e)).1 < (scale num den (-e)).2 <<< 52
      ↔ (num : ℚ) / den < 2 ^ (e + 52) := by
    rw [← Nat.cast_ofNat (R := ℤ) (n := 52), ← scaled_lt_iff, ← scaled, div_lt_iff₀ scaled_pos,
      Nat.shiftLeft_eq, Nat.mul_comm]
    exact_mod_cast Iff.rfl
  rw [max_eq_left (by split <;> omega)]
  split
  case isTrue less =>
    constructor
    · rw [show e - 1 + 52 = (num.log2 : ℤ) - den.log2 - 1 by omega]
      exact low.le
    · rw [show e - 1 + 53 = e + 52 by omega]
      exact few.1 less
  case isFalse enough =>
    constructor
    · exact not_lt.1 (mt few.2 enough)
    · rw [show e + 53 = (num.log2 : ℤ) - den.log2 + 1 by omega]
      exact high

/-! ## Bits -/

/-- The bits of an infinity have the largest exponent field and no fraction. -/
lemma infiniteMagnitude_eq : infiniteMagnitude = 2047 * 2 ^ 52 := rfl

/-- What bits stand for that are neither those of an infinity nor those of a number with fewer
places. -/
lemma view_ofMagnitude (field fraction : ℕ) (finite : field < 2047) (normal : 0 < field)
    (small : fraction < 2 ^ 52) :
    (ofMagnitude false (field * 2 ^ 52 + fraction)).view
      = .finite false (2 ^ 52 + fraction) (field - 1075) := by
  have bits : (ofMagnitude false (field * 2 ^ 52 + fraction)).toNat = field * 2 ^ 52 + fraction := by
    rw [ofMagnitude, toNat, if_neg Bool.false_ne_true]
    exact UInt64.toNat_ofNat_of_lt' (by rw [UInt64.size]; omega)
  have sign : (ofMagnitude false (field * 2 ^ 52 + fraction)).isNegative = false := by
    rw [isNegative, bits, decide_eq_false_iff_not, Nat.shiftLeft_eq]
    omega
  have field_eq : (ofMagnitude false (field * 2 ^ 52 + fraction)).exponentField = field := by
    rw [exponentField, bits, Nat.shiftRight_eq_div_pow, Nat.shiftLeft_eq]
    omega
  have fraction_eq : (ofMagnitude false (field * 2 ^ 52 + fraction)).fractionField = fraction := by
    rw [fractionField, bits, Nat.shiftLeft_eq]
    omega
  rw [view, field_eq, fraction_eq, sign, if_neg (by omega), if_neg (by omega), Nat.shiftLeft_eq,
    Nat.one_mul]

/-- The bits of a number from one on: those of its last place, and 53 places. -/
lemma exists_nearestMagnitude (hd : 0 < den) (one : den ≤ num) :
    ∃ k r : ℕ, nearestMagnitude num den = min (k * 2 ^ 52 + r) infiniteMagnitude ∧
      2 ^ 52 ≤ r ∧ r ≤ 2 ^ 53 ∧ (num : ℚ) / den < 2 ^ ((k : ℤ) - 1021) ∧
      (r : ℚ) * 2 ^ ((k : ℤ) - 1074) ≤ num / den * (1 + 1 / 2 ^ 53) := by
  obtain ⟨low, high⟩ := lastPlace_bounds hd one
  have least : -1074 ≤ lastPlace num den := le_max_right _ _
  obtain ⟨k, hk⟩ := Int.eq_ofNat_of_zero_le (show 0 ≤ lastPlace num den + 1074 by omega)
  obtain ⟨e, he⟩ : ∃ e, e = lastPlace num den := ⟨_, rfl⟩
  obtain ⟨scaled_pos, scaled⟩ := scale_eq num hd (-lastPlace num den)
  obtain ⟨below, above⟩ := roundHalfEven_bounds (scale num den (-lastPlace num den)).1 scaled_pos
  obtain ⟨r, hr⟩ : ∃ r, r = roundHalfEven (scale num den (-lastPlace num den)).1
    (scale num den (-lastPlace num den)).2 := ⟨_, rfl⟩
  have magnitude : nearestMagnitude num den = min (k * 2 ^ 52 + r) infiniteMagnitude := by
    rw [nearestMagnitude, if_neg (by omega)]
    dsimp only
    rw [← hr, hk, Int.toNat_natCast, Nat.shiftLeft_eq]
  rw [← hr, scaled, ← he] at below above
  rw [← he] at low high hk
  have power_pos : (0 : ℚ) < 2 ^ e := by positivity
  have few : (num : ℚ) / den * 2 ^ (-e) < 2 ^ 53 := scaled_lt_iff.2 high
  have enough : (2 : ℚ) ^ 52 ≤ num / den * 2 ^ (-e) := not_lt.1 (mt scaled_lt_iff.1 (not_lt.2 low))
  refine ⟨k, r, magnitude, ?_, ?_, ?_, ?_⟩
  · -- a half less than a whole number is not the next one
    have : (2 ^ 52 : ℚ) < r + 1 := by linarith
    have : 2 ^ 52 < r + 1 := by exact_mod_cast this
    omega
  · have : (r : ℚ) < 2 ^ 53 + 1 := by linarith
    have : r < 2 ^ 53 + 1 := by exact_mod_cast this
    omega
  · rwa [show (k : ℤ) - 1021 = e + 53 by omega]
  · rw [show (k : ℤ) - 1074 = e by omega]
    rw [zpow_add₀ two_ne_zero] at low
    rw [zpow_neg, ← div_eq_mul_inv, ← sub_le_iff_le_add, le_div_iff₀ power_pos, sub_mul] at above
    have half : 1 / 2 * (2 : ℚ) ^ e ≤ num / den * (1 / 2 ^ 53) := by
      norm_num at low ⊢
      linarith
    linarith

/-- A number from one on that is rounded to no infinity is rounded up by at most one part in
`2 ^ 53`. -/
lemma view_nearest (hd : 0 < den) (one : den ≤ num)
    (finite : nearestMagnitude num den < infiniteMagnitude) :
    ∃ (m : ℕ) (x : ℤ), (nearest false num den).view = .finite false m x ∧
      1 ≤ (m : ℚ) * 2 ^ x ∧ (m : ℚ) * 2 ^ x ≤ num / den * (1 + 1 / 2 ^ 53) := by
  obtain ⟨k, r, magnitude, low, high, bound, value⟩ := exists_nearestMagnitude hd one
  have least : 1 ≤ (r : ℚ) * 2 ^ ((k : ℤ) - 1074) := by
    have : (1 : ℚ) ≤ num / den := (one_le_div (by exact_mod_cast hd)).2 (by exact_mod_cast one)
    have : (2 : ℚ) ^ (0 : ℤ) < 2 ^ ((k : ℤ) - 1021) := by
      rw [zpow_zero]
      exact this.trans_lt bound
    have := (zpow_lt_zpow_iff_right₀ (one_lt_two (α := ℚ))).1 this
    calc (1 : ℚ) = 2 ^ (52 : ℤ) * 2 ^ (-52 : ℤ) := by norm_num
      _ ≤ r * 2 ^ ((k : ℤ) - 1074) :=
          mul_le_mul (by exact_mod_cast low) (zpow_le_zpow_right₀ one_le_two (by omega))
            (by positivity) (by positivity)
  have room : k * 2 ^ 52 + r < 2047 * 2 ^ 52 := by
    rw [magnitude, infiniteMagnitude_eq] at finite
    omega
  have same : nearestMagnitude num den = k * 2 ^ 52 + r := by
    rw [magnitude, infiniteMagnitude_eq, min_eq_left room.le]
  rw [nearest, same]
  -- when all 53 places are carried, the next place is the last
  rcases Nat.lt_or_eq_of_le high with fits | carried
  · refine ⟨r, k - 1074, ?_, least, value⟩
    have bits := view_ofMagnitude (k + 1) (r - 2 ^ 52) (by omega) (by omega) (by omega)
    rw [show (k + 1) * 2 ^ 52 + (r - 2 ^ 52) = k * 2 ^ 52 + r by omega] at bits
    rw [bits, show 2 ^ 52 + (r - 2 ^ 52) = r by omega,
      show ((k + 1 : ℕ) : ℤ) - 1075 = k - 1074 by omega]
  · have same : ((2 ^ 52 : ℕ) : ℚ) * 2 ^ ((k : ℤ) - 1073) = r * 2 ^ ((k : ℤ) - 1074) := by
      rw [carried, show (k : ℤ) - 1073 = k - 1074 + 1 by ring, zpow_add_one₀ two_ne_zero]
      push_cast
      ring
    refine ⟨2 ^ 52, k - 1073, ?_, least.trans_eq same.symm, same.trans_le value⟩
    have bits := view_ofMagnitude (k + 2) 0 (by omega) (by omega) (by omega)
    rw [show (k + 2) * 2 ^ 52 + 0 = k * 2 ^ 52 + r by omega] at bits
    rw [bits, Nat.add_zero, show ((k + 2 : ℕ) : ℤ) - 1075 = k - 1073 by omega]

/-- A number that rounding leaves below `2 ^ 1024` is rounded to no infinity. -/
lemma nearestMagnitude_lt (hd : 0 < den) (one : den ≤ num)
    (room : (num : ℚ) / den * (1 + 1 / 2 ^ 53) < 2 ^ 1024) :
    nearestMagnitude num den < infiniteMagnitude := by
  obtain ⟨k, r, magnitude, low, high, -, value⟩ := exists_nearestMagnitude hd one
  have less : (r : ℚ) * 2 ^ ((k : ℤ) - 1074) < 2 ^ (1024 : ℤ) :=
    lt_of_le_of_lt value (by exact_mod_cast room)
  have small : (k : ℤ) - 1074 < 972 := by
    by_contra large
    have low : (2 : ℚ) ^ (52 : ℤ) ≤ r := by exact_mod_cast low
    have : (2 : ℚ) ^ (1024 : ℤ) ≤ r * 2 ^ ((k : ℤ) - 1074) :=
      calc (2 : ℚ) ^ (1024 : ℤ) = 2 ^ (52 : ℤ) * 2 ^ (972 : ℤ) := by
            rw [← zpow_add₀ two_ne_zero]
            norm_num
        _ ≤ r * 2 ^ ((k : ℤ) - 1074) :=
            mul_le_mul low (zpow_le_zpow_right₀ one_le_two (by omega)) (by positivity)
              (by positivity)
    linarith
  have last : k = 2045 → r < 2 ^ 53 := by
    rintro rfl
    by_contra carried
    obtain rfl : r = 2 ^ 53 := by omega
    refine absurd less (not_lt.2 (le_of_eq ?_))
    rw [show (1024 : ℤ) = 53 + (((2045 : ℕ) : ℤ) - 1074) by norm_num, zpow_add₀ two_ne_zero]
    norm_num
  rw [magnitude, infiniteMagnitude_eq]
  omega

/-- From `2 ^ 1024` on numbers are rounded to an infinity. -/
lemma nearestMagnitude_eq_infinite (hd : 0 < den) (large : (2 : ℚ) ^ 1024 ≤ num / den) :
    nearestMagnitude num den = infiniteMagnitude := by
  have one : den ≤ num := by
    have den_pos : (0 : ℚ) < den := by exact_mod_cast hd
    have : (1 : ℚ) ≤ num / den := le_trans (one_le_pow₀ one_le_two) large
    rw [one_le_div den_pos] at this
    exact_mod_cast this
  obtain ⟨k, r, magnitude, low, -, bound, -⟩ := exists_nearestMagnitude hd one
  have far : (1024 : ℤ) < k - 1021 := by
    have : (2 : ℚ) ^ (1024 : ℤ) < 2 ^ ((k : ℤ) - 1021) := lt_of_le_of_lt (by exact_mod_cast large) bound
    exact (zpow_lt_zpow_iff_right₀ one_lt_two).1 this
  rw [magnitude, infiniteMagnitude_eq]
  omega

/-! ## Products -/

/-- A product from one on that rounding leaves below `2 ^ 1024` is finite. -/
lemma times_isFinite {x y : Binary64} {a b : ℕ} {e f : ℤ} (hx : x.view = .finite false a e)
    (hy : y.view = .finite false b f) (one : 1 ≤ (a : ℚ) * 2 ^ e * (b * 2 ^ f))
    (room : (a : ℚ) * 2 ^ e * (b * 2 ^ f) * (1 + 1 / 2 ^ 53) < 2 ^ 1024) :
    (x.times y).isFinite = true := by
  obtain ⟨den_pos, quotient⟩ := scale_eq (a * b) Nat.one_pos (e + f)
  have value : ((scale (a * b) 1 (e + f)).1 : ℚ) / (scale (a * b) 1 (e + f)).2
      = a * 2 ^ e * (b * 2 ^ f) := by
    rw [quotient, zpow_add₀ two_ne_zero]
    push_cast
    ring
  have le : (scale (a * b) 1 (e + f)).2 ≤ (scale (a * b) 1 (e + f)).1 := by
    rw [← value, one_le_div (by exact_mod_cast den_pos)] at one
    exact_mod_cast one
  rw [← value] at room
  obtain ⟨m, z, view, -⟩ := view_nearest den_pos le (nearestMagnitude_lt den_pos le room)
  rw [times, hx, hy]
  dsimp only
  rw [isFinite, view]

end Binary64

end PackageFinder
