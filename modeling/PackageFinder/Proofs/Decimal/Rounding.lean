import Mathlib.Data.Nat.Bitwise
import Mathlib.Tactic.Ring
import PackageFinder.Decimal.Binary64

/-!
# Rounding by bits

A quotient by a power of two can be rounded by looking at the bits that are cut off (`roundShift`);
the result is that of `roundHalfEven`. Then how `roundHalfEven` goes with scaling and with addition.
-/

namespace PackageFinder

/-- `num / 2 ^ places`, rounded up if the highest bit that is cut off is set, unless it is the only
one that is set and the last bit that is kept is not. -/
def roundShift (num places : ℕ) : ℕ :=
  let kept := num >>> places
  let cut := num &&& ((1 <<< places) - 1)
  let isTie := cut = 1 <<< (places - 1)
  let isEven := kept &&& 1 = 0
  let isLess := num &&& (1 <<< (places - 1)) = 0
  if isLess ∨ (isEven ∧ isTie) then kept else kept + 1

/-- Rounding by bits is rounding to the nearest whole number, a half going to the even neighbour. -/
lemma roundShift_eq (num places : ℕ) :
    roundShift num (places + 1) = roundHalfEven num (2 ^ (places + 1)) := by
  -- the highest bit that is cut off tells whether at least a half is
  have half : num &&& 2 ^ places = 0 ↔ num % 2 ^ (places + 1) < 2 ^ places := by
    have pos := Nat.two_pow_pos places
    have low := Nat.mod_lt num pos
    rw [Nat.and_two_pow, Nat.testBit_eq_decide_div_mod_eq, Nat.pow_succ, Nat.mod_mul]
    rcases Nat.mod_two_eq_zero_or_one (num / 2 ^ places) with unset | set
    · simpa [unset] using low
    · simp [set]
  unfold roundShift roundHalfEven
  simp only [Nat.shiftLeft_eq, Nat.one_mul, Nat.shiftRight_eq_div_pow, Nat.and_two_pow_sub_one_eq_mod,
    Nat.and_one_is_mod, Nat.add_sub_cancel, half]
  rw [Nat.pow_succ]
  split_ifs <;> omega

variable {num den : ℕ}

/-- Nothing is left of a half and of less. -/
lemma roundHalfEven_eq_zero_iff (pos : 0 < den) : roundHalfEven num den = 0 ↔ 2 * num ≤ den := by
  unfold roundHalfEven
  dsimp only
  constructor
  · intro zero
    have small : num < den := (Nat.div_eq_zero_iff_lt pos).1 (by split_ifs at zero <;> omega)
    rw [Nat.mod_eq_of_lt small] at zero
    split_ifs at zero <;> omega
  · intro half
    rw [Nat.div_eq_of_lt (by omega), Nat.mod_eq_of_lt (by omega)]
    split_ifs <;> omega

/-- A whole number is rounded to itself. -/
lemma roundHalfEven_one (num : ℕ) : roundHalfEven num 1 = num := by
  rw [roundHalfEven, Nat.div_one, Nat.mod_one, if_pos (by decide)]

/-- Rounding looks at the quotient alone. -/
lemma roundHalfEven_mul_mul {scale : ℕ} (pos : 0 < scale) (num den : ℕ) :
    roundHalfEven (num * scale) (den * scale) = roundHalfEven num den := by
  unfold roundHalfEven
  dsimp only
  rw [Nat.mul_div_mul_right _ _ pos, Nat.mul_mod_mul_right, ← Nat.mul_assoc]
  simp only [Nat.mul_lt_mul_right pos]

/-- Rounding goes with adding an even number. -/
lemma roundHalfEven_add {whole : ℕ} (even : whole % 2 = 0) (pos : 0 < den) (num : ℕ) :
    roundHalfEven (whole * den + num) den = whole + roundHalfEven num den := by
  unfold roundHalfEven
  dsimp only
  rw [Nat.add_comm (whole * den), Nat.add_mul_div_right _ _ pos, Nat.add_mul_mod_self_right]
  split_ifs <;> omega

end PackageFinder
