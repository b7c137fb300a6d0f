import PackageFinder.Proofs.Json.Numeral

/-!
# Which numbers are not too large

The digits that are kept of a number form none that is farther from zero, and the three roundings on
the way to a double move it by less than what is left between the bound and `2 ^ 1024`.
-/

namespace PackageFinder.Json
open Decimal (IsDigits digitsValue)

/-- A bound below which all roundings stay finite. -/
def safeMagnitude : ℚ := 179769313486231 * 10 ^ 294

/-! ## Kept digits -/

/-- More digits make a number larger by a power of ten. -/
lemma mul_pow_le_ofDigitChars (d : List Char) (x : ℕ) :
    x * 10 ^ d.length ≤ Nat.ofDigitChars 10 d x := by
  induction d generalizing x with
  | nil => exact le_of_eq (Nat.mul_one x)
  | cons c d ih =>
    rw [Nat.ofDigitChars_cons, List.length_cons]
    calc x * 10 ^ (d.length + 1) = 10 * x * 10 ^ d.length := by ring
      _ ≤ (10 * x + (c.toNat - '0'.toNat)) * 10 ^ d.length :=
          Nat.mul_le_mul_right _ (Nat.le_add_right _ _)
      _ ≤ _ := ih _

/-- So some digits make as much of a number as the digits after them leave. -/
lemma take_mul_pow_le_ofDigitChars (d : List Char) (k x : ℕ) :
    Nat.ofDigitChars 10 (d.take k) x * 10 ^ (d.length - k) ≤ Nat.ofDigitChars 10 d x := by
  have rest := mul_pow_le_ofDigitChars (d.drop k) (Nat.ofDigitChars 10 (d.take k) x)
  rwa [← Nat.ofDigitChars_append, List.take_append_drop, List.length_drop] at rest

namespace Numeral
variable (n : Numeral)

/-- The kept digits without the power of ten that the exponent gives. -/
lemma exists_kept : ∃ power : ℕ, n.kept.2 + (n.places.getD []).length = power ∧
    n.kept.1 * 10 ^ power ≤ digitsValue (n.whole ++ n.places.getD []) := by
  obtain ⟨k, hk, m, small, hm, taken, full⟩ :=
    takeFitting_digits n.digits (by decide : 0 < UInt64.size)
  have alone := taken [] Decimal.stops_nil
  rw [List.append_nil, List.append_nil] at alone
  obtain ⟨p, hp⟩ : ∃ p, p = n.places.getD [] := ⟨_, rfl⟩
  have places : IsDigits p := by
    subst hp
    cases h : n.places with
    | none => exact nofun
    | some p => exact (n.places_digits p h).1
  obtain ⟨i, hi, m', small', hm', taken', -⟩ := takeFitting_digits places small
  have alone' := taken' [] Decimal.stops_nil
  rw [List.append_nil, List.append_nil] at alone'
  have kept : n.kept = (m', (n.whole.length : ℤ) - k - i) := by
    rw [Numeral.kept, alone]
    subst hp
    cases h : n.places with
    | none =>
      rw [h] at alone'
      cases alone'
      exact congrArg _ (Int.sub_zero _).symm
    | some p =>
      rw [h] at alone'
      dsimp only [Option.getD_some] at alone'
      dsimp only
      rw [alone']
  rw [kept, ← hp]
  refine ⟨n.whole.length - k + (p.length - i), by omega, ?_⟩
  dsimp only
  rw [digitsValue, Nat.ofDigitChars_append]
  rcases Nat.lt_or_eq_of_le hk with dropped | rfl
  · -- a digit has been dropped, so that the number has more digits than are ever kept
    have whole : UInt64.size * 10 ^ (n.whole.length - (k + 1)) ≤ Nat.ofDigitChars 10 n.whole 0 :=
      le_trans (Nat.mul_le_mul_right _ (full dropped)) (take_mul_pow_le_ofDigitChars _ _ _)
    have all := mul_pow_le_ofDigitChars p (Nat.ofDigitChars 10 n.whole 0)
    cases i with
    | zero =>
      obtain rfl : m' = m := hm'
      have first := take_mul_pow_le_ofDigitChars n.whole k 0
      rw [← hm] at first
      calc m' * 10 ^ (n.whole.length - k + (p.length - 0))
          = m' * 10 ^ (n.whole.length - k) * 10 ^ p.length := by rw [Nat.sub_zero]; ring
        _ ≤ Nat.ofDigitChars 10 n.whole 0 * 10 ^ p.length := Nat.mul_le_mul_right _ first
        _ ≤ _ := all
    | succ i =>
      -- a smaller digit after the point may fit where the dropped one did not
      calc m' * 10 ^ (n.whole.length - k + (p.length - (i + 1)))
          ≤ UInt64.size * 10 ^ (n.whole.length - (k + 1) + p.length) :=
            Nat.mul_le_mul small'.le (Nat.pow_le_pow_right (by decide) (by omega))
        _ = UInt64.size * 10 ^ (n.whole.length - (k + 1)) * 10 ^ p.length := by ring
        _ ≤ Nat.ofDigitChars 10 n.whole 0 * 10 ^ p.length := Nat.mul_le_mul_right _ whole
        _ ≤ _ := all
  · rw [List.take_length] at hm
    rw [← hm, hm', Nat.sub_self, Nat.zero_add]
    exact take_mul_pow_le_ofDigitChars p i m

/-- The kept digits form no number that is farther from zero. -/
lemma kept_le_magnitude :
    (n.kept.1 : ℚ) * 10 ^ (n.kept.2 + n.power) ≤ n.magnitude := by
  obtain ⟨power, same, le⟩ := n.exists_kept
  have le : (n.kept.1 : ℚ) * 10 ^ power ≤ digitsValue (n.whole ++ n.places.getD []) := by
    exact_mod_cast le
  have cut : (n.kept.2 + n.power : ℤ) = power + (n.power - (n.places.getD []).length) := by omega
  rw [magnitude, cut, zpow_add₀ (by norm_num), ← mul_assoc, zpow_natCast]
  exact mul_le_mul_of_nonneg_right le (by positivity)

end Numeral

/-! ## Roundings -/

/-- Three roundings do not lift such a number out of the range of doubles. -/
lemma safeMagnitude_room : safeMagnitude * (1 + 1 / 2 ^ 53) ^ 3 < 2 ^ 1024 := by
  have whole : 179769313486231 * 10 ^ 294 * (2 ^ 53 + 1) ^ 3 < 2 ^ 1024 * (2 ^ 53) ^ 3 := by
    decide +kernel
  have ratio : (1 + 1 / 2 ^ 53 : ℚ) = (2 ^ 53 + 1) / 2 ^ 53 := by norm_num
  rw [safeMagnitude, ratio, div_pow, ← mul_div_assoc, div_lt_iff₀ (by positivity)]
  exact_mod_cast whole

/-- A whole number within the bound is rounded to a finite one. -/
lemma exists_view {m : ℕ} (one : 1 ≤ m) (small : (m : ℚ) ≤ safeMagnitude) :
    ∃ (a : ℕ) (x : ℤ), (Binary64.nearest false m 1).view = .finite false a x ∧
      1 ≤ (a : ℚ) * 2 ^ x ∧ (a : ℚ) * 2 ^ x ≤ m * (1 + 1 / 2 ^ 53) := by
  have room : (m : ℚ) / (1 : ℕ) * (1 + 1 / 2 ^ 53) < 2 ^ 1024 := by
    rw [Nat.cast_one, div_one]
    calc (m : ℚ) * (1 + 1 / 2 ^ 53) ≤ safeMagnitude * (1 + 1 / 2 ^ 53) ^ 3 :=
          mul_le_mul small (le_self_pow₀ (by norm_num) (by decide)) (by positivity)
            (by rw [safeMagnitude]; positivity)
      _ < 2 ^ 1024 := safeMagnitude_room
  obtain ⟨a, x, view, low, high⟩ :=
    Binary64.view_nearest Nat.one_pos one (Binary64.nearestMagnitude_lt Nat.one_pos one room)
  rw [Nat.cast_one, div_one] at high
  exact ⟨a, x, view, low, high⟩

section
variable {m k : ℕ} (one : 1 ≤ m) (small : (m : ℚ) * 10 ^ k ≤ safeMagnitude)
include one small

/-- A power of ten of a number within the bound is a double. -/
lemma le_of_safe : k ≤ 308 := by
  by_contra many
  have bound : 179769313486231 * 10 ^ 294 < 1 * 10 ^ 309 := by decide +kernel
  have bound : safeMagnitude < 1 * 10 ^ 309 := by
    rw [safeMagnitude]
    exact_mod_cast bound
  have large : (1 : ℚ) * 10 ^ 309 ≤ m * 10 ^ k :=
    mul_le_mul (by exact_mod_cast one) (pow_le_pow_right₀ (by norm_num) (by omega)) (by positivity)
      (by positivity)
  exact absurd small (not_le.2 (bound.trans_le large))

/-- The product of the digits and the power of ten is finite. -/
lemma times_tenTo_isFinite : ((Binary64.nearest false m 1).times (tenTo k)).isFinite = true := by
  have digits : (m : ℚ) ≤ safeMagnitude :=
    le_trans (le_mul_of_one_le_right (by positivity) (one_le_pow₀ (by norm_num))) small
  have power : ((10 ^ k : ℕ) : ℚ) ≤ safeMagnitude := by
    rw [Nat.cast_pow, Nat.cast_ofNat]
    exact le_trans (le_mul_of_one_le_left (by positivity) (by exact_mod_cast one)) small
  obtain ⟨a, x, hx, low, high⟩ := exists_view one digits
  obtain ⟨b, y, hy, low', high'⟩ := exists_view (Nat.one_le_pow _ _ (by decide)) power
  rw [Nat.cast_pow, Nat.cast_ofNat] at high'
  refine Binary64.times_isFinite hx hy (one_le_mul_of_one_le_of_one_le low low') ?_
  calc (a : ℚ) * 2 ^ x * (b * 2 ^ y) * (1 + 1 / 2 ^ 53)
      ≤ (m : ℚ) * (1 + 1 / 2 ^ 53) * (10 ^ k * (1 + 1 / 2 ^ 53)) * (1 + 1 / 2 ^ 53) := by gcongr
    _ = (m : ℚ) * 10 ^ k * (1 + 1 / 2 ^ 53) ^ 3 := by ring
    _ ≤ safeMagnitude * (1 + 1 / 2 ^ 53) ^ 3 := by gcongr
    _ < 2 ^ 1024 := safeMagnitude_room

end

/-- A number within the bound is rounded to a finite one. -/
lemma double?_ne_none {m : ℕ} {e : ℤ} (small : (m : ℚ) * 10 ^ e ≤ safeMagnitude) :
    double? m e ≠ none := by
  unfold double?
  dsimp only
  split
  · exact nofun
  · rename_i up
    split
    · exact nofun
    · rename_i nonzero
      obtain ⟨k, rfl⟩ := Int.eq_ofNat_of_zero_le (Int.not_lt.1 up)
      rw [zpow_natCast] at small
      have one : 1 ≤ m := Nat.one_le_iff_ne_zero.2 nonzero
      have few := le_of_safe one small
      rw [if_pos (by omega), Int.toNat_natCast, times_tenTo_isFinite one small, if_pos rfl]
      exact nofun

/-- A number within the bound is not too large, unless its exponent is. -/
lemma Numeral.number?_ne_none {n : Numeral} (small : n.magnitude ≤ safeMagnitude)
    (exponent : n.power ≤ exponentBound) : n.number? ≠ none := by
  unfold Numeral.number?
  split
  · exact nofun
  · unfold Numeral.scaled?
    split
    · rename_i large
      rw [if_neg]
      · exact nofun
      · rintro ⟨-, up⟩
        omega
    · have finite := double?_ne_none (n.kept_le_magnitude.trans small)
      exact fun none => finite (Option.map_eq_none_iff.1 none)

end PackageFinder.Json
