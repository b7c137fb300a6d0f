import Mathlib.Algebra.Order.Field.Power
import Mathlib.Data.EReal.Operations
import Mathlib.Tactic.Linarith
import Mathlib.Tactic.Positivity
import PackageFinder.Proofs.Decimal.Nearest

/-!
# What doubles stand for

The value of a double among the extended real numbers (`Binary64.value?`), how it compares with
zero, and which doubles stand for zero.
-/

namespace PackageFinder.Binary64

/-- The number of a sign, a significand and an exponent. -/
noncomputable def finiteValue (negative : Bool) (m : ℕ) (e : ℤ) : ℝ :=
  if negative then -(m * 2 ^ e) else m * 2 ^ e

/-- The number that a double stands for; none for what is not a number. -/
noncomputable def value? (x : Binary64) : Option EReal :=
  match x.view with
  | .nan => none
  | .infinite negative => some (if negative then ⊥ else ⊤)
  | .finite negative m e => some (finiteValue negative m e)

variable {x : Binary64} {m : ℕ} {e : ℤ} {negative : Bool}

/-- What is not a number has no value. -/
lemma value?_of_nan (h : x.view = .nan) : x.value? = none := by
  rw [value?, h]

/-- The infinities are the two ends of the extended real numbers. -/
lemma value?_of_infinite (h : x.view = .infinite negative) :
    x.value? = some (if negative then ⊥ else ⊤) := by
  rw [value?, h]

/-- Any other double has a finite value. -/
lemma value?_of_finite (h : x.view = .finite negative m e) :
    x.value? = some (finiteValue negative m e : EReal) := by
  rw [value?, h]

/-! ## Comparison with zero -/

/-- A finite double is not positive if it has a minus sign or is zero. -/
lemma finiteValue_nonpos_iff : finiteValue negative m e ≤ 0 ↔ negative = true ∨ m = 0 := by
  have power : (0 : ℝ) < 2 ^ e := by positivity
  have size : (0 : ℝ) ≤ m := Nat.cast_nonneg m
  unfold finiteValue
  cases negative with
  | true => simpa using mul_nonneg size power.le
  | false =>
    rw [if_neg Bool.false_ne_true, ← not_lt, mul_pos_iff_of_pos_right power, Nat.cast_pos]
    simp

/-- A finite double is zero if its significand is. -/
lemma finiteValue_eq_zero_iff : finiteValue negative m e = 0 ↔ m = 0 := by
  have power : (2 : ℝ) ^ e ≠ 0 := by positivity
  unfold finiteValue
  cases negative <;> simp [power]

/-- A finite double is negative if it has a minus sign and is not zero. -/
lemma finiteValue_neg_iff : finiteValue negative m e < 0 ↔ negative = true ∧ m ≠ 0 := by
  rw [lt_iff_le_and_ne, finiteValue_nonpos_iff, Ne, finiteValue_eq_zero_iff, or_and_right]
  simp

/-! ## Zeros -/

/-- No bit but the sign is set in the two zeros. -/
lemma fields_eq_zero_iff : x.exponentField = 0 ∧ x.fractionField = 0
    ↔ x.bits = 0 ∨ x.bits = 0x8000000000000000 := by
  have bound := x.bits.toNat_lt
  have zero : (0 : UInt64).toNat = 0 := rfl
  have signed : (0x8000000000000000 : UInt64).toNat = 2 ^ 63 := rfl
  rw [exponentField, fractionField, toNat, Nat.shiftRight_eq_div_pow, Nat.shiftLeft_eq,
    Nat.shiftLeft_eq, ← UInt64.toNat_inj, ← UInt64.toNat_inj, zero, signed]
  omega

/-- A double stands for zero if it is one of the two zeros. -/
lemma value?_eq_zero_iff : x.value? = some 0 ↔ x.bits = 0 ∨ x.bits = 0x8000000000000000 := by
  rw [← fields_eq_zero_iff, value?, view]
  split_ifs with special infinite subnormal
  · dsimp only
    rw [Option.some_inj]
    split <;> simp [special]
  · simp [special]
  · dsimp only
    rw [Option.some_inj, EReal.coe_eq_zero, finiteValue_eq_zero_iff]
    simp [subnormal]
  · -- a double that is not subnormal has a bit besides those of its fraction
    dsimp only
    rw [Option.some_inj, EReal.coe_eq_zero, finiteValue_eq_zero_iff]
    simp [subnormal]

end PackageFinder.Binary64
