import PackageFinder.Http.Timeout
import PackageFinder.Proofs.Decimal.Rounding
import PackageFinder.Proofs.Decimal.Value

/-!
# How long can be waited

A time is found from the bits of a double of seconds (`Duration.ofSeconds?`), whole seconds and
nanoseconds apart; `nanoseconds?_eq` says that this is the number of nanoseconds that is waited.
There is none for what is not a number, for what is negative and from `2 ^ 64` on
(`nanoseconds?_eq_none_iff`), and otherwise it is the nearest one, which is none at all up to half a
nanosecond (`exists_value_of_nanoseconds?`).
-/

namespace PackageFinder.Http
open Binary64

/-! ## Times by bits -/

/-- A time: whole seconds, and nanoseconds beyond them. -/
structure Duration where
  /-- The whole seconds. -/
  seconds : ℕ
  /-- The nanoseconds beyond them. -/
  nanoseconds : ℕ
  deriving DecidableEq, Repr

namespace Duration

/-- The time in nanoseconds. -/
def total (d : Duration) : ℕ := d.seconds * 1000000000 + d.nanoseconds

/-- A time of rounded nanoseconds, which may have become a second. -/
def carry (seconds nanoseconds : ℕ) : Duration :=
  if nanoseconds = 1000000000 then ⟨seconds + 1, 0⟩ else ⟨seconds, nanoseconds⟩

/-- The time of `significand * 2 ^ (exponent - 52)` seconds, the significand having 53 bits.  Less
than a nanosecond by far is no time, and what lies behind the point is rounded. -/
def ofPlaces? (significand : ℕ) (exponent : ℤ) : Option Duration :=
  if exponent < -31 then some ⟨0, 0⟩
  else if exponent < 0 then
    let fraction := significand <<< (44 + exponent).toNat
    some (carry 0 (roundShift (1000000000 * fraction) (52 + 44)))
  else if exponent < 52 then
    let fraction := (significand <<< exponent.toNat) &&& ((1 <<< 52) - 1)
    some (carry (significand >>> (52 - exponent).toNat) (roundShift (1000000000 * fraction) 52))
  else if exponent < 64 then some ⟨significand <<< (exponent - 52).toNat, 0⟩
  else none

/-- Whether a double is less than zero; what is not a number is not. -/
def isBelowZero (x : Binary64) : Bool :=
  match x.view with
  | .nan => false
  | .infinite negative => negative
  | .finite negative m _ => negative && m != 0

/-- The time of a number of seconds, by the bits of the double; none for what is less than zero,
too long or not a number. -/
def ofSeconds? (x : Binary64) : Option Duration :=
  if isBelowZero x then none
  else ofPlaces? (x.fractionField ||| 1 <<< 52) (x.exponentField - 1023)

/-- A second that is carried is as long as its nanoseconds. -/
lemma total_carry (seconds nanoseconds : ℕ) :
    (carry seconds nanoseconds).total = seconds * 1000000000 + nanoseconds := by
  unfold carry
  split
  case isTrue second =>
    dsimp only [total]
    omega
  case isFalse => rfl

variable {m k : ℕ}

/-- Shifting a number up before it is rounded by bits spares as many bits that are cut off. -/
lemma roundShift_shifted {j places : ℕ} (bits : k + j = places + 1) (m : ℕ) :
    roundShift (1000000000 * (m * 2 ^ j)) (places + 1) = roundHalfEven (m * 1000000000) (2 ^ k) := by
  rw [roundShift_eq, ← bits, Nat.pow_add, ← Nat.mul_assoc, Nat.mul_comm 1000000000,
    roundHalfEven_mul_mul (Nat.two_pow_pos j)]

/-- From the 84th place on, 53 bits are less than half a nanosecond. -/
lemma roundHalfEven_tiny (high : m < 2 ^ 53) (tiny : 84 ≤ k) :
    roundHalfEven (m * 1000000000) (2 ^ k) = 0 := by
  have large : 2 ^ 84 ≤ 2 ^ k := Nat.pow_le_pow_right Nat.two_pos tiny
  exact (roundHalfEven_eq_zero_iff (Nat.two_pow_pos k)).2 (by omega)

/-- The time of a number with `k` places behind the point. -/
lemma ofPlaces?_fraction (high : m < 2 ^ 53) (pos : 0 < k) :
    (ofPlaces? m (-(k : ℤ) + 52)).map total = some (roundHalfEven (m * 1000000000) (2 ^ k)) := by
  unfold ofPlaces?
  -- the number is below half a nanosecond, below a second, or at least a second; it is not whole
  split_ifs with tiny less mixed
  · rw [roundHalfEven_tiny high (by omega)]
    rfl
  · have shift : (44 + (-(k : ℤ) + 52)).toNat = 96 - k := by omega
    dsimp only
    rw [shift, Nat.shiftLeft_eq, roundShift_shifted (k := k) (by omega), Option.map_some, total_carry,
      Nat.zero_mul, Nat.zero_add]
  · have up : (-(k : ℤ) + 52).toNat = 52 - k := by omega
    have down : (52 - (-(k : ℤ) + 52)).toNat = k := by omega
    -- the bits before the point are shifted out of the fraction
    have cut : m * 2 ^ (52 - k) % 2 ^ 52 = m % 2 ^ k * 2 ^ (52 - k) := by
      rw [← Nat.mul_mod_mul_right, ← Nat.pow_add, Nat.add_sub_of_le (by omega)]
    have parts : m * 1000000000 = m / 2 ^ k * 1000000000 * 2 ^ k + m % 2 ^ k * 1000000000 := by
      conv_lhs => rw [← Nat.div_add_mod m (2 ^ k)]
      ring
    dsimp only
    rw [up, down, Nat.shiftLeft_eq, Nat.one_shiftLeft, Nat.and_two_pow_sub_one_eq_mod, cut,
      roundShift_shifted (k := k) (by omega), Nat.shiftRight_eq_div_pow, Option.map_some,
      total_carry, parts, roundHalfEven_add (by omega) (Nat.two_pow_pos k)]
  · omega
  · omega

/-- The time of a number with no places behind the point. -/
lemma ofPlaces?_whole (low : 2 ^ 52 ≤ m) (high : m < 2 ^ 53) (k : ℕ) :
    (ofPlaces? m ((k : ℤ) + 52)).map total =
      if 2 ^ 64 ≤ m * 2 ^ k then none else some (m * 2 ^ k * 1000000000) := by
  have shift : ((k : ℤ) + 52 - 52).toNat = k := by omega
  rw [ofPlaces?, if_neg (by omega), if_neg (by omega), if_neg (by omega)]
  split
  case isTrue fits =>
    have small : 2 ^ k ≤ 2 ^ 11 := Nat.pow_le_pow_right Nat.two_pos (by omega)
    have below : m * 2 ^ k < 2 ^ 64 :=
      calc m * 2 ^ k ≤ m * 2 ^ 11 := Nat.mul_le_mul_left m small
        _ < 2 ^ 64 := by omega
    rw [if_neg (Nat.not_le.2 below), shift, Nat.shiftLeft_eq, Option.map_some, total, Nat.add_zero]
  case isFalse long =>
    have large : 2 ^ 12 ≤ 2 ^ k := Nat.pow_le_pow_right Nat.two_pos (by omega)
    have above : 2 ^ 64 ≤ m * 2 ^ k :=
      calc 2 ^ 64 = 2 ^ 52 * 2 ^ 12 := by norm_num
        _ ≤ m * 2 ^ k := Nat.mul_le_mul low large
    rw [if_pos above, Option.map_none]

end Duration

/-! ## The same time -/

variable {x : Binary64} {m k : ℕ} {e : ℤ} {negative : Bool}

/-- Places behind the point are rounded. -/
lemma nanoseconds?_of_fraction (h : x.view = .finite negative m (-(k : ℤ)))
    (positive : ¬(negative = true ∧ m ≠ 0)) (short : m < 2 ^ 64) (pos : 0 < k) :
    nanoseconds? x = some (roundHalfEven (m * 1000000000) (2 ^ k)) := by
  have room : ¬UInt64.size * 2 ^ k ≤ m := by
    have := Nat.two_pow_pos k
    rw [UInt64.size]
    omega
  have scaled : scale m 1 (-(k : ℤ)) = (m, 2 ^ k) := by
    rw [scale, if_neg (by omega), neg_neg, Int.toNat_natCast, Nat.one_shiftLeft]
  rw [nanoseconds?, h]
  dsimp only
  rw [scaled]
  dsimp only
  rw [if_neg positive, if_neg room]

/-- A whole number has no places to round. -/
lemma nanoseconds?_of_whole (h : x.view = .finite negative m (k : ℤ))
    (positive : ¬(negative = true ∧ m ≠ 0)) :
    nanoseconds? x = if 2 ^ 64 ≤ m * 2 ^ k then none else some (m * 2 ^ k * 1000000000) := by
  have scaled : scale m 1 (k : ℤ) = (m * 2 ^ k, 1) := by
    rw [scale, if_pos (Int.natCast_nonneg k), Int.toNat_natCast, Nat.shiftLeft_eq]
  have size : UInt64.size = 2 ^ 64 := rfl
  rw [nanoseconds?, h]
  dsimp only
  rw [scaled]
  dsimp only
  rw [if_neg positive, Nat.mul_one, roundHalfEven_one, size]

/-- The time of a double with 53 places. -/
lemma nanoseconds?_of_places (h : x.view = .finite negative m e)
    (positive : ¬(negative = true ∧ m ≠ 0)) (low : 2 ^ 52 ≤ m) (high : m < 2 ^ 53) :
    nanoseconds? x = (Duration.ofPlaces? m (e + 52)).map Duration.total := by
  rcases lt_or_ge e 0 with behind | whole
  · obtain ⟨k, rfl⟩ : ∃ k : ℕ, e = -(k : ℤ) := ⟨(-e).toNat, by omega⟩
    rw [nanoseconds?_of_fraction h positive (by omega) (by omega),
      Duration.ofPlaces?_fraction high (by omega)]
  · obtain ⟨k, rfl⟩ := Int.eq_ofNat_of_zero_le whole
    rw [nanoseconds?_of_whole h positive, Duration.ofPlaces?_whole low high]

/-- There is no time to wait below zero. -/
lemma nanoseconds?_of_isBelowZero (below : Duration.isBelowZero x = true) : nanoseconds? x = none := by
  unfold Duration.isBelowZero at below
  unfold nanoseconds?
  cases h : x.view with
  | nan => rfl
  | infinite => rfl
  | finite negative m e =>
    rw [h] at below
    exact if_pos (by simpa using below)

/-- There is none for the infinities and for what is not a number. -/
lemma nanoseconds?_of_special (special : x.exponentField = 2047) : nanoseconds? x = none := by
  rw [nanoseconds?, view, if_pos special]
  by_cases infinite : x.fractionField = 0
  · rw [if_pos infinite]
  · rw [if_neg infinite]

/-- What is waited is the time that the bits tell. -/
lemma nanoseconds?_eq (x : Binary64) :
    nanoseconds? x = (Duration.ofSeconds? x).map Duration.total := by
  have fraction : x.fractionField < 2 ^ 52 := Nat.mod_lt _ (by rw [Nat.one_shiftLeft]; norm_num)
  have one : 1 <<< 52 = 2 ^ 52 := rfl
  unfold Duration.ofSeconds?
  rw [Nat.lor_comm, ← Nat.shiftLeft_add_eq_or_of_lt fraction]
  split
  case isTrue below => rw [nanoseconds?_of_isBelowZero below, Option.map_none]
  case isFalse positive =>
    by_cases special : x.exponentField = 2047
    · have long : Duration.ofPlaces? (1 <<< 52 + x.fractionField) ((2047 : ℕ) - 1023) = none := by
        rw [Duration.ofPlaces?, if_neg (by omega), if_neg (by omega), if_neg (by omega),
          if_neg (by omega)]
      rw [nanoseconds?_of_special special, special, long, Option.map_none]
    -- a subnormal has no 53rd bit, but is so small that this makes no difference
    by_cases subnormal : x.exponentField = 0
    · have h : x.view = .finite x.isNegative x.fractionField (-(1074 : ℕ)) := by
        rw [view, if_neg special, if_pos subnormal]
        rfl
      have tiny : Duration.ofPlaces? (1 <<< 52 + x.fractionField) ((0 : ℕ) - 1023) = some ⟨0, 0⟩ := by
        rw [Duration.ofPlaces?, if_pos (by omega)]
      rw [nanoseconds?_of_fraction h (by simpa [Duration.isBelowZero, h] using positive) (by omega)
        (by omega), Duration.roundHalfEven_tiny (by omega) (by omega), subnormal, tiny]
      rfl
    · have h : x.view = .finite x.isNegative (1 <<< 52 + x.fractionField) (x.exponentField - 1075) := by
        rw [view, if_neg special, if_neg subnormal]
      rw [nanoseconds?_of_places h (by simpa [Duration.isBelowZero, h] using positive) (by omega)
        (by omega)]
      congr 2
      omega

/-! ## Times that cannot be waited -/

/-- A finite double that is not negative is the quotient of its scaled places. -/
lemma finiteValue_eq_div (positive : ¬(negative = true ∧ m ≠ 0)) :
    finiteValue negative m e = (scale m 1 e).1 / (scale m 1 e).2 := by
  have quotient : ((scale m 1 e).1 : ℝ) / (scale m 1 e).2 = m * 2 ^ e := by
    have := congrArg (Rat.cast (K := ℝ)) (scale_eq m Nat.one_pos e).2
    push_cast at this
    rwa [div_one] at this
  rw [quotient, finiteValue]
  cases negative with
  | false => rw [if_neg Bool.false_ne_true]
  | true =>
    have zero : m = 0 := by simpa using positive
    simp [zero]

/-- A finite double reaches a power of two if it has no minus sign and its scaled places do. -/
lemma le_finiteValue_iff : (2 : ℝ) ^ k ≤ finiteValue negative m e
    ↔ negative = false ∧ 2 ^ k * (scale m 1 e).2 ≤ (scale m 1 e).1 := by
  cases negative with
  | true =>
    have power : (0 : ℝ) < 2 ^ k := by positivity
    have below : finiteValue true m e ≤ 0 := finiteValue_nonpos_iff.2 (.inl rfl)
    simp only [Bool.true_eq_false, false_and, iff_false, not_le]
    exact below.trans_lt power
  | false =>
    have pos : (0 : ℝ) < (scale m 1 e).2 := by exact_mod_cast (scale_eq m Nat.one_pos e).1
    rw [finiteValue_eq_div (by simp), le_div_iff₀ pos]
    simp only [true_and]
    exact_mod_cast Iff.rfl

/-- There is no waiting for what is not a number, for less than zero and for `2 ^ 64` seconds and
more. -/
lemma nanoseconds?_eq_none_iff : nanoseconds? x = none ↔
    x.value? = none ∨ ∃ v, x.value? = some v ∧ (v < 0 ∨ ((2 ^ 64 : ℝ) : EReal) ≤ v) := by
  cases h : x.view with
  | nan => simp [nanoseconds?, h, value?_of_nan h]
  | infinite negative => cases negative <;> simp [nanoseconds?, h, value?_of_infinite h]
  | finite negative m e =>
    have size : UInt64.size = 2 ^ 64 := rfl
    have refused : nanoseconds? x = none ↔ (negative = true ∧ m ≠ 0)
        ∨ 2 ^ 64 * (scale m 1 e).2 ≤ (scale m 1 e).1 := by
      rw [nanoseconds?, h]
      dsimp only
      rw [size]
      split_ifs <;> simp_all
    rw [refused, value?_of_finite h]
    simp only [reduceCtorEq, Option.some.injEq, exists_eq_left', false_or, EReal.coe_neg',
      finiteValue_neg_iff, EReal.coe_le_coe_iff, le_finiteValue_iff]
    -- a zero with a minus sign does not reach any power of two
    have zero : m = 0 → ¬2 ^ 64 * (scale m 1 e).2 ≤ (scale m 1 e).1 := by
      rintro rfl
      have pos := (scale_eq 0 Nat.one_pos e).1
      have none : (scale 0 1 e).1 = 0 := by
        unfold scale
        split <;> simp
      omega
    constructor
    · rintro (below | reached)
      · exact .inl below
      · cases negative with
        | true => exact .inl ⟨rfl, fun none => zero none reached⟩
        | false => exact .inr ⟨rfl, reached⟩
    · rintro (below | ⟨-, reached⟩)
      · exact .inl below
      · exact .inr reached

/-! ## Times that are waited -/

/-- What is waited is the nearest number of nanoseconds, and nothing for half a nanosecond and
less. -/
lemma exists_value_of_nanoseconds? {n : ℕ} (waited : nanoseconds? x = some n) :
    ∃ v : ℝ, x.value? = some (v : EReal) ∧ |(n : ℝ) - v * 10 ^ 9| ≤ 1 / 2 ∧
      (0 < n ↔ 1 / (2 * 10 ^ 9) < v) := by
  unfold nanoseconds? at waited
  cases h : x.view with
  | nan => simp [h] at waited
  | infinite => simp [h] at waited
  | finite negative m e =>
    rw [h] at waited
    dsimp only at waited
    split_ifs at waited with positive short
    cases waited
    have scaled := (scale_eq m Nat.one_pos e).1
    have pos : (0 : ℝ) < (scale m 1 e).2 := by exact_mod_cast scaled
    have value := finiteValue_eq_div (e := e) positive
    refine ⟨_, value?_of_finite h, ?_, ?_⟩
    · obtain ⟨below, above⟩ := roundHalfEven_bounds ((scale m 1 e).1 * 1000000000) scaled
      have below := (Rat.cast_le (K := ℝ)).2 below
      have above := (Rat.cast_le (K := ℝ)).2 above
      push_cast at below above
      rw [mul_div_right_comm, ← value] at below above
      rw [abs_le]
      constructor <;> linarith
    · have scale_up : ((scale m 1 e).2 : ℝ) < (scale m 1 e).1 * (2 * 10 ^ 9)
          ↔ (scale m 1 e).2 < 2 * ((scale m 1 e).1 * 1000000000) := by
        rw [← Nat.cast_lt (α := ℝ)]
        push_cast
        constructor <;> intro _ <;> linarith
      rw [Nat.pos_iff_ne_zero, ne_eq, roundHalfEven_eq_zero_iff scaled, not_le, value,
        lt_div_iff₀ pos, one_div_mul_eq_div, div_lt_iff₀ (by norm_num), scale_up]

end PackageFinder.Http
