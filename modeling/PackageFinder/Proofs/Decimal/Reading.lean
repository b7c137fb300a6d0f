import Mathlib.Tactic.Lemma
import PackageFinder.Decimal.Reading
import PackageFinder.Proofs.Decimal.Nearest

/-!
# What spells a number

The texts that are read as whole numbers and as doubles, each as a relation between a text and what it
stands for. A whole number is read if it is within its bound. A double is always read, and what lies
beyond all doubles is an infinity.
-/

namespace PackageFinder.Decimal
variable {s d r : List Char} {n : ℕ}

/-! ## Spellings -/

/-- Only digits. -/
def IsDigits (s : List Char) : Prop := ∀ c ∈ s, c.isDigit = true

instance : DecidablePred IsDigits := fun _ => decidable_of_iff _ List.all_eq_true

/-- The number that digits stand for. -/
abbrev digitsValue (s : List Char) : ℕ := Nat.ofDigitChars 10 s 0

/-- Digits of a base. -/
inductive IsBased (base : ℕ) : List Char → ℕ → Prop
  | one {c v} : Text.hexDigit? c = some v → v < base → IsBased base [c] v
  | more {s n c v} : IsBased base s n → Text.hexDigit? c = some v → v < base →
    IsBased base (s ++ [c]) (n * base + v)

/-- A sign, which may be missing, and whether it is a minus. -/
inductive Sign : List Char → Bool → Prop
  | missing : Sign [] false
  | plus : Sign ['+'] false
  | minus : Sign ['-'] true

/-- A whole number. -/
inductive IsWhole : List Char → ℕ → Prop
  | bare {digits} : digits ≠ [] → IsDigits digits → IsWhole digits (digitsValue digits)
  | plus {digits} : digits ≠ [] → IsDigits digits → IsWhole ('+' :: digits) (digitsValue digits)

/-- An exponent, which may be missing. -/
inductive Exponent : List Char → ℤ → Prop
  | missing : Exponent [] 0
  | power {letter sign negative digits} :
    letter = 'e' ∨ letter = 'E' → Sign sign negative → digits ≠ [] → IsDigits digits →
    Exponent (letter :: (sign ++ digits))
      (if negative then -(digitsValue digits : ℤ) else digitsValue digits)

/-- A number without sign, as a whole number and a power of ten. -/
inductive IsUnsigned : List Char → ℕ → ℤ → Prop
  | whole {digits tail x} : digits ≠ [] → IsDigits digits → Exponent tail x →
    IsUnsigned (digits ++ tail) (digitsValue digits) x
  | point {digits places tail x} : digits ++ places ≠ [] → IsDigits digits → IsDigits places →
    Exponent tail x →
    IsUnsigned (digits ++ '.' :: (places ++ tail)) (digitsValue (digits ++ places))
      (x - places.length)

/-- A decimal number with its value. -/
inductive IsDecimal : List Char → ℚ → Prop
  | mk {sign negative digits n x} : Sign sign negative → IsUnsigned digits n x →
    IsDecimal (sign ++ digits) (if negative then -(n * 10 ^ x) else n * 10 ^ x)

/-- A double. -/
inductive IsDouble : List Char → Binary64 → Prop
  | infinite {sign negative word} : Sign sign negative →
    String.ofList (word.map Char.toLower) = "inf" ∨
      String.ofList (word.map Char.toLower) = "infinity" →
    IsDouble (sign ++ word) (.infinity negative)
  | nan {sign negative word} : Sign sign negative →
    String.ofList (word.map Char.toLower) = "nan" → IsDouble (sign ++ word) .notANumber
  | number {sign negative text n x} : Sign sign negative → IsUnsigned text n x →
    IsDouble (sign ++ text) (.ofDecimal negative n x)

/-! ## Digits -/

/-- No digit at the start. -/
def Stops (s : List Char) : Prop := ∀ c ∈ s.head?, c.isDigit = false

/-- The end of a text stops digits. -/
lemma stops_nil : Stops [] := fun _ h => by cases h

/-- So does any other character. -/
lemma stops_cons {c : Char} (h : c.isDigit = false) : Stops (c :: s) := by
  rintro _ ⟨⟩
  exact h

/-- What stops digits does so whatever follows it. -/
lemma Stops.append (h : Stops s) (nonempty : s ≠ []) : Stops (s ++ r) := by
  cases s with
  | nil => exact absurd rfl nonempty
  | cons c s => exact stops_cons (h c rfl)

/-- Digits are left when the first one is gone. -/
lemma IsDigits.tail {c : Char} (h : IsDigits (c :: s)) : IsDigits s :=
  fun c hc => h c (List.mem_cons_of_mem _ hc)

/-- Digits and more digits are digits. -/
lemma IsDigits.append (hd : IsDigits d) (hr : IsDigits r) : IsDigits (d ++ r) := by
  intro c hc
  rcases List.mem_append.1 hc with h | h
  · exact hd c h
  · exact hr c h

/-- Every text is digits and what follows them. -/
lemma exists_digits (s : List Char) : ∃ d r, s = d ++ r ∧ IsDigits d ∧ Stops r := by
  refine ⟨s.takeWhile Char.isDigit, s.dropWhile Char.isDigit, List.takeWhile_append_dropWhile.symm,
    List.all_eq_true.1 List.all_takeWhile, ?_⟩
  intro c hc
  have := List.head?_dropWhile_not Char.isDigit s
  rw [Option.mem_def.1 hc] at this
  exact this

/-- Digits are taken up to what stops them. -/
lemma takeDigits_append (digits : IsDigits d) (stops : Stops r) (acc : ℕ) :
    takeDigits acc (d ++ r) = (Nat.ofDigitChars 10 d acc, d.length, r) := by
  induction d generalizing acc with
  | nil =>
    cases r with
    | nil => rfl
    | cons c r =>
      rw [List.nil_append, takeDigits, digit?, stops c rfl]
      rfl
  | cons c d ih =>
    rw [List.cons_append, takeDigits, digit?, digits c List.mem_cons_self, if_pos rfl]
    dsimp only
    rw [ih digits.tail, Nat.ofDigitChars_cons, Nat.mul_comm acc]
    rfl

/-- Whether a character is a decimal digit does not depend on how it is asked. -/
lemma hexDigit?_lt_ten_iff {c : Char} {d : ℕ} :
    Text.hexDigit? c = some d ∧ d < 10 ↔ c.isDigit = true ∧ d = c.toNat - '0'.toNat := by
  rw [Char.isDigit_iff_toNat]
  change _ ↔ (48 ≤ c.toNat ∧ c.toNat ≤ 57) ∧ d = c.toNat - 48
  unfold Text.hexDigit?
  dsimp only
  split
  · simp
    omega
  · split
    · simp
      omega
    · split
      · simp
        omega
      · simp
        omega

/-! ## Digits of a base -/

/-- Digits of a base are at least one. -/
lemma IsBased.ne_nil {base : ℕ} (h : IsBased base s n) : s ≠ [] := by
  cases h with
  | one => exact List.cons_ne_nil _ _
  | more => exact List.append_ne_nil_of_right_ne_nil _ (List.cons_ne_nil _ _)

/-- A digit of a base is put behind a number. -/
lemma addDigit?_eq_some_iff {base : ℕ} {acc : Option ℕ} {c : Char} :
    addDigit? base acc c = some n ↔
      ∃ m v, acc = some m ∧ Text.hexDigit? c = some v ∧ v < base ∧ m * base + v = n := by
  unfold addDigit?
  constructor
  · intro h
    split at h
    · rename_i m v value
      split at h
      · cases h
        exact ⟨m, v, rfl, value, by assumption, rfl⟩
      · cases h
    · cases h
  · rintro ⟨m, v, rfl, value, small, rfl⟩
    rw [value]
    exact if_pos small

/-- Digits are read for what they stand for. -/
lemma readBase?_iff_isBased {base : ℕ} : readBase? base s = some n ↔ IsBased base s n := by
  -- the last digit is the one that is added last
  induction s using List.reverseRecOn generalizing n with
  | nil => exact ⟨nofun, fun h => absurd rfl h.ne_nil⟩
  | append_singleton s c ih =>
    have fold : readBase? base (s ++ [c])
        = addDigit? base (s.foldl (addDigit? base) (some 0)) c := by
      cases s with
      | nil => rfl
      | cons d s => exact List.foldl_append
    rw [fold, addDigit?_eq_some_iff]
    constructor
    · rintro ⟨m, v, read, value, small, rfl⟩
      cases s with
      | nil =>
        cases read
        rw [Nat.zero_mul, Nat.zero_add]
        exact .one value small
      | cons d s => exact .more (ih.1 read) value small
    · intro based
      generalize whole : s ++ [c] = t at based
      cases based with
      | one value small =>
        obtain ⟨rfl, same⟩ := List.append_inj' (whole.trans (List.nil_append _).symm) rfl
        cases same
        exact ⟨0, _, rfl, value, small, by rw [Nat.zero_mul, Nat.zero_add]⟩
      | more front value small =>
        obtain ⟨rfl, same⟩ := List.append_inj' whole rfl
        cases same
        refine ⟨_, _, ?_, value, small, rfl⟩
        obtain ⟨d, s, rfl⟩ := List.exists_cons_of_ne_nil front.ne_nil
        exact ih.2 front

/-- Digits of base ten are decimal digits. -/
lemma IsBased.isDigits (h : IsBased 10 s n) : IsDigits s := by
  induction h with
  | one value small =>
    intro c hc
    cases List.mem_singleton.1 hc
    exact (hexDigit?_lt_ten_iff.1 ⟨value, small⟩).1
  | more _ value small ih =>
    refine ih.append fun c hc => ?_
    cases List.mem_singleton.1 hc
    exact (hexDigit?_lt_ten_iff.1 ⟨value, small⟩).1

/-- One more decimal digit makes ten of each that was there. -/
lemma digitsValue_concat (s : List Char) (c : Char) :
    digitsValue (s ++ [c]) = digitsValue s * 10 + (c.toNat - '0'.toNat) := by
  rw [digitsValue, Nat.ofDigitChars_append, Nat.ofDigitChars_cons, Nat.ofDigitChars_nil, Nat.mul_comm]

/-- Digits of base ten stand for their decimal number. -/
lemma IsBased.eq_digitsValue (h : IsBased 10 s n) : n = digitsValue s := by
  induction h with
  | @one c v value small =>
    have whole : digitsValue [c] = 0 * 10 + (c.toNat - '0'.toNat) := digitsValue_concat [] c
    rw [whole, Nat.zero_mul, Nat.zero_add]
    exact (hexDigit?_lt_ten_iff.1 ⟨value, small⟩).2
  | more _ value small ih =>
    rw [digitsValue_concat, ← ih, (hexDigit?_lt_ten_iff.1 ⟨value, small⟩).2]

/-- Decimal digits are digits of base ten. -/
lemma isBased_digitsValue (digits : IsDigits s) (nonempty : s ≠ []) :
    IsBased 10 s (digitsValue s) := by
  induction s using List.reverseRecOn with
  | nil => exact absurd rfl nonempty
  | append_singleton s c ih =>
    obtain ⟨value, small⟩ := hexDigit?_lt_ten_iff.2 ⟨digits c List.mem_concat_self, rfl⟩
    rw [digitsValue_concat]
    cases s with
    | nil =>
      rw [digitsValue, Nat.ofDigitChars_nil, Nat.zero_mul, Nat.zero_add]
      exact .one value small
    | cons d s =>
      have front := fun c hc => digits c (List.mem_append_left _ hc)
      exact .more (ih front (List.cons_ne_nil _ _)) value small

/-- Decimal digits are read for their number. -/
lemma readBase?_eq_some_iff :
    readBase? 10 s = some n ↔ s ≠ [] ∧ IsDigits s ∧ n = digitsValue s := by
  rw [readBase?_iff_isBased]
  constructor
  · exact fun h => ⟨h.ne_nil, h.isDigits, h.eq_digitsValue⟩
  · rintro ⟨nonempty, digits, rfl⟩
    exact isBased_digitsValue digits nonempty

/-! ## Whole numbers -/

/-- Every text has a plus sign to drop, or none. -/
lemma dropPlus_cases (s : List Char) :
    (∃ r, s = '+' :: r) ∨ s.head? ≠ some '+' ∧ dropPlus s = s := by
  unfold dropPlus
  split
  · exact .inl ⟨_, rfl⟩
  · rename_i other
    exact .inr ⟨fun plus => (List.head?_eq_some_iff.1 plus).elim other, rfl⟩

/-- A whole number is read for what it stands for, if it is within its bound. -/
lemma readNat?_eq_some_iff {bound : ℕ} :
    readNat? bound s = some n ↔ IsWhole s n ∧ n ≤ bound := by
  rw [readNat?, Option.filter_eq_some_iff, readBase?_eq_some_iff, decide_eq_true_iff]
  refine and_congr_left' ⟨?_, fun whole => ?_⟩
  · rintro ⟨nonempty, digits, rfl⟩
    rcases dropPlus_cases s with ⟨r, rfl⟩ | ⟨-, same⟩
    · exact .plus nonempty digits
    · rw [same] at nonempty digits ⊢
      exact .bare nonempty digits
  · cases whole with
    | plus nonempty digits => exact ⟨nonempty, digits, rfl⟩
    | bare nonempty digits =>
      rcases dropPlus_cases s with ⟨r, rfl⟩ | ⟨-, same⟩
      · cases digits '+' List.mem_cons_self
      · rw [same]
        exact ⟨nonempty, digits, rfl⟩

/-! ## Doubles -/

/-- No sign at the start. -/
def Bare (s : List Char) : Prop := s.head? ≠ some '-' ∧ s.head? ≠ some '+'

/-- A first character is no sign if it is of a kind that the signs are not of. -/
lemma bare_cons {c : Char} (p : Char → Bool) (h : p c = true) (minus : p '-' = false)
    (plus : p '+' = false) : Bare (c :: s) := by
  constructor
  · rintro ⟨⟩
    rw [minus] at h
    cases h
  · rintro ⟨⟩
    rw [plus] at h
    cases h

/-- A sign is taken off a text without one. -/
lemma Sign.takeSign {sign : List Char} {negative : Bool} (h : Sign sign negative) (bare : Bare s) :
    takeSign (sign ++ s) = (negative, s) := by
  cases h with
  | plus => rfl
  | minus => rfl
  | missing =>
    rw [List.nil_append]
    unfold Decimal.takeSign
    split
    · exact absurd rfl bare.1
    · exact absurd rfl bare.2
    · rfl

/-- Every text is a sign and what follows it. -/
lemma exists_sign (s : List Char) :
    ∃ sign, s = sign ++ (takeSign s).2 ∧ Sign sign (takeSign s).1 := by
  unfold takeSign
  split
  · exact ⟨_, rfl, .minus⟩
  · exact ⟨_, rfl, .plus⟩
  · exact ⟨_, rfl, .missing⟩

/-- No digit is a sign. -/
lemma IsDigits.bare (h : IsDigits s) : Bare s := by
  cases s with
  | nil => exact ⟨nofun, nofun⟩
  | cons c s => exact bare_cons Char.isDigit (h c List.mem_cons_self) rfl rfl

/-- An exponent is read for its power. -/
lemma readExponent?_eq_some_iff {x : ℤ} : readExponent? s = some x ↔
    ∃ sign negative digits, s = sign ++ digits ∧ Sign sign negative ∧ digits ≠ [] ∧
      IsDigits digits ∧ x = if negative then -(digitsValue digits : ℤ) else digitsValue digits := by
  unfold readExponent?
  dsimp only
  constructor
  · intro h
    obtain ⟨sign, cut, hs⟩ := exists_sign s
    obtain ⟨d, r, rest, digits, stops⟩ := exists_digits (takeSign s).2
    rw [rest, takeDigits_append digits stops] at h
    cases r with
    | cons => cases h
    | nil =>
      dsimp only at h
      split at h
      · cases h
      · rename_i some_digit
        rw [rest, List.append_nil] at cut
        refine ⟨sign, _, d, cut, hs, mt List.length_eq_zero_iff.2 some_digit, digits, ?_⟩
        exact (Option.some_inj.1 h).symm
  · rintro ⟨sign, negative, digits, rfl, hs, nonempty, hd, rfl⟩
    have taken := takeDigits_append hd stops_nil 0
    rw [List.append_nil] at taken
    rw [hs.takeSign hd.bare, taken]
    dsimp only
    rw [if_neg (mt List.length_eq_zero_iff.1 nonempty)]

/-- What starts an exponent is no digit, and neither is the end. -/
lemma Exponent.stops {x : ℤ} (h : Exponent s x) : Stops s := by
  cases h with
  | missing => exact stops_nil
  | power letter =>
    refine stops_cons ?_
    rcases letter with rfl | rfl
    · rfl
    · rfl

/-- An exponent starts with its letter. -/
lemma Exponent.letter {x : ℤ} (h : Exponent s x) (nonempty : s ≠ []) :
    s.head? = some 'e' ∨ s.head? = some 'E' := by
  cases h with
  | missing => exact absurd rfl nonempty
  | power letter =>
    rcases letter with rfl | rfl
    · exact .inl rfl
    · exact .inr rfl

/-- An exponent starts with no point. -/
lemma Exponent.no_point {x : ℤ} (h : Exponent s x) : s.head? ≠ some '.' := by
  cases h with
  | missing => exact nofun
  | power letter =>
    rintro ⟨⟩
    rcases letter with h | h
    · cases h
    · cases h

/-- What follows the digits of a number is read as an exponent, which may be missing. -/
lemma readTail?_eq_some_iff {x : ℤ} : readTail? s = some x ↔ Exponent s x := by
  constructor
  · intro h
    unfold readTail? at h
    split at h
    · cases h
      exact .missing
    · obtain ⟨sign, negative, digits, rfl, hs, nonempty, hd, rfl⟩ := readExponent?_eq_some_iff.1 h
      exact .power (.inl rfl) hs nonempty hd
    · obtain ⟨sign, negative, digits, rfl, hs, nonempty, hd, rfl⟩ := readExponent?_eq_some_iff.1 h
      exact .power (.inr rfl) hs nonempty hd
    · cases h
  · intro h
    cases h with
    | missing => rfl
    | power letter hs nonempty hd =>
      rcases letter with rfl | rfl
      · exact readExponent?_eq_some_iff.2 ⟨_, _, _, rfl, hs, nonempty, hd, rfl⟩
      · exact readExponent?_eq_some_iff.2 ⟨_, _, _, rfl, hs, nonempty, hd, rfl⟩

/-- Digits without a point and what follows them. -/
lemma readUnsigned?_whole (digits : IsDigits d) (stops : Stops r) (no_point : r.head? ≠ some '.') :
    readUnsigned? (d ++ r)
      = if d.length = 0 then none else (readTail? r).map fun x => (digitsValue d, x) := by
  have places : takePlaces (digitsValue d) r = (digitsValue d, 0, r) := by
    unfold takePlaces
    split
    · exact absurd rfl no_point
    · rfl
  unfold readUnsigned?
  rw [takeDigits_append digits stops]
  dsimp only
  rw [places]
  simp only [Nat.add_zero, Nat.cast_zero, Int.sub_zero]

/-- Digits with a point and what follows them. -/
lemma readUnsigned?_point {p : List Char} (digits : IsDigits d) (places : IsDigits p)
    (stops : Stops r) :
    readUnsigned? (d ++ '.' :: (p ++ r)) = if (d ++ p).length = 0 then none
      else (readTail? r).map fun x : ℤ => (digitsValue (d ++ p), x - p.length) := by
  unfold readUnsigned?
  rw [takeDigits_append digits (stops_cons rfl)]
  dsimp only
  rw [takePlaces, takeDigits_append places stops, List.length_append, digitsValue,
    Nat.ofDigitChars_append]

/-- A number without sign is read for what it stands for. -/
lemma readUnsigned?_eq_some_iff {x : ℤ} :
    readUnsigned? s = some (n, x) ↔ IsUnsigned s n x := by
  constructor
  · intro h
    obtain ⟨d, r, rfl, digits, stops⟩ := exists_digits s
    by_cases point : r.head? = some '.'
    · obtain ⟨r, rfl⟩ := List.head?_eq_some_iff.1 point
      obtain ⟨p, r, rfl, places, stops⟩ := exists_digits r
      rw [readUnsigned?_point digits places stops] at h
      split at h
      · cases h
      · rename_i nonempty
        obtain ⟨e, tail, same⟩ := Option.map_eq_some_iff.1 h
        cases same
        exact .point (mt List.length_eq_zero_iff.2 nonempty) digits places (readTail?_eq_some_iff.1 tail)
    · rw [readUnsigned?_whole digits stops point] at h
      split at h
      · cases h
      · rename_i nonempty
        obtain ⟨e, tail, same⟩ := Option.map_eq_some_iff.1 h
        cases same
        exact .whole (mt List.length_eq_zero_iff.2 nonempty) digits (readTail?_eq_some_iff.1 tail)
  · intro h
    cases h with
    | whole nonempty digits tail =>
      rw [readUnsigned?_whole digits tail.stops tail.no_point,
        if_neg (mt List.length_eq_zero_iff.1 nonempty), readTail?_eq_some_iff.2 tail]
      rfl
    | point nonempty digits places tail =>
      rw [readUnsigned?_point digits places tail.stops,
        if_neg (mt List.length_eq_zero_iff.1 nonempty), readTail?_eq_some_iff.2 tail]
      rfl

/-- A number without sign starts with no letter. -/
lemma IsUnsigned.head {x : ℤ} (h : IsUnsigned s n x) :
    ∃ c r, s = c :: r ∧ (c.isDigit = true ∨ c = '.') := by
  cases h with
  | @whole d _ _ nonempty digits =>
    cases d with
    | nil => exact absurd rfl nonempty
    | cons c d => exact ⟨c, _, rfl, .inl (digits c List.mem_cons_self)⟩
  | @point d _ _ _ _ digits =>
    cases d with
    | nil => exact ⟨'.', _, rfl, .inr rfl⟩
    | cons c d => exact ⟨c, _, rfl, .inl (digits c List.mem_cons_self)⟩

/-- Only letters have small letters. -/
lemma isAlpha_of_toLower {c : Char} (h : c.toLower.isAlpha = true) : c.isAlpha = true := by
  unfold Char.toLower at h
  split at h
  · rename_i upper
    exact Bool.or_eq_true_iff.2 (.inl (decide_eq_true upper))
  · exact h

/-- Letters come after the digits. -/
lemma toNat_le_of_isAlpha {c : Char} (h : c.isAlpha = true) : 'A'.toNat ≤ c.toNat := by
  rcases Bool.or_eq_true_iff.1 h with upper | lower
  · exact (of_decide_eq_true upper).1
  · have small : 'a'.toNat ≤ c.toNat := of_decide_eq_true (Bool.and_eq_true_iff.1 lower).1
    exact le_trans (by decide) small

/-- A word in any case starts with a letter. -/
lemma exists_letter {word : String} (h : String.ofList (s.map Char.toLower) = word)
    (letter : word.toList.head?.any Char.isAlpha = true) :
    ∃ c r, s = c :: r ∧ c.isAlpha = true := by
  cases s with
  | nil =>
    subst h
    cases letter
  | cons c s =>
    rw [← h, String.toList_ofList] at letter
    exact ⟨c, s, rfl, isAlpha_of_toLower letter⟩

/-- A word in any case starts with no sign. -/
lemma bare_of_word {word : String} (h : String.ofList (s.map Char.toLower) = word)
    (letter : word.toList.head?.any Char.isAlpha = true) : Bare s := by
  obtain ⟨c, r, rfl, alpha⟩ := exists_letter h letter
  exact bare_cons Char.isAlpha alpha rfl rfl

/-- No number is one of the words. -/
lemma IsUnsigned.ne_word {x : ℤ} (h : IsUnsigned s n x) (word : String)
    (letter : word.toList.head?.any Char.isAlpha = true) :
    String.ofList (s.map Char.toLower) ≠ word := by
  intro same
  obtain ⟨c, r, rfl, alpha⟩ := exists_letter same letter
  obtain ⟨c', r', cut, start⟩ := h.head
  cases cut
  rcases start with digit | rfl
  · have low := (Char.isDigit_iff_toNat.1 digit).2
    exact absurd ((toNat_le_of_isAlpha alpha).trans low) (by decide)
  · cases alpha

/-- A number without sign starts with none. -/
lemma IsUnsigned.bare {x : ℤ} (h : IsUnsigned s n x) : Bare s := by
  obtain ⟨c, r, rfl, digit | rfl⟩ := h.head
  · exact bare_cons Char.isDigit digit rfl rfl
  · exact bare_cons (· == '.') rfl rfl rfl

/-- A decimal number has one value. -/
lemma IsDecimal.unique {p q : ℚ} (hp : IsDecimal s p) (hq : IsDecimal s q) : p = q := by
  obtain @⟨sign, negative, digits, n, x, hs, unsigned⟩ := hp
  generalize cut : sign ++ digits = s at hq
  obtain @⟨sign', negative', digits', n', x', hs', unsigned'⟩ := hq
  have same := hs.takeSign unsigned.bare
  rw [cut, hs'.takeSign unsigned'.bare] at same
  cases same
  have same := readUnsigned?_eq_some_iff.2 unsigned
  rw [readUnsigned?_eq_some_iff.2 unsigned'] at same
  cases same
  rfl

/-- Whole numbers are decimal numbers. -/
lemma IsWhole.isDecimal (h : IsWhole s n) : IsDecimal s n := by
  have value : ∀ {digits}, digits ≠ [] → IsDigits digits →
      IsUnsigned digits (digitsValue digits) 0 := by
    intro digits nonempty hd
    have := IsUnsigned.whole nonempty hd .missing
    rwa [List.append_nil] at this
  cases h with
  | bare nonempty hd =>
    have := IsDecimal.mk .missing (value nonempty hd)
    rwa [if_neg Bool.false_ne_true, zpow_zero, mul_one] at this
  | plus nonempty hd =>
    have := IsDecimal.mk .plus (value nonempty hd)
    rwa [if_neg Bool.false_ne_true, zpow_zero, mul_one] at this

/-- No whole number within a bound is spelt by a decimal number beyond it. -/
lemma IsDecimal.not_isWhole {q : ℚ} {bound : ℕ} (h : IsDecimal s q) (far : q < 0 ∨ bound < q) :
    ¬ (IsWhole s n ∧ n ≤ bound) := by
  rintro ⟨whole, small⟩
  obtain rfl := h.unique whole.isDecimal
  rcases far with negative | large
  · exact absurd (Nat.cast_nonneg n) (not_le.2 negative)
  · exact absurd small (not_le.2 (Nat.cast_lt.1 large))

/-- A double is read for what it stands for. -/
lemma readDouble?_eq_some_iff {x : Binary64} : readDouble? s = some x ↔ IsDouble s x := by
  unfold readDouble?
  constructor
  · intro h
    obtain ⟨sign, cut, hs⟩ := exists_sign s
    rw [cut]
    dsimp only at h
    split at h
    · cases h
      exact .infinite hs (by assumption)
    · split at h
      · cases h
        exact .nan hs (by assumption)
      · obtain ⟨⟨n, e⟩, unsigned, rfl⟩ := Option.map_eq_some_iff.1 h
        exact .number hs (readUnsigned?_eq_some_iff.1 unsigned)
  · intro h
    cases h with
    | infinite hs spelt =>
      have bare := spelt.elim (bare_of_word · rfl) (bare_of_word · rfl)
      rw [hs.takeSign bare]
      exact if_pos spelt
    | nan hs spelt =>
      rw [hs.takeSign (bare_of_word spelt rfl)]
      dsimp only
      rw [spelt, if_neg (by decide), if_pos rfl]
    | number hs unsigned =>
      have no_infinity := not_or.2 ⟨unsigned.ne_word "inf" rfl, unsigned.ne_word "infinity" rfl⟩
      rw [hs.takeSign unsigned.bare]
      dsimp only
      rw [if_neg no_infinity, if_neg (unsigned.ne_word "nan" rfl), readUnsigned?_eq_some_iff.2 unsigned]
      rfl

/-- From `2 ^ 1024` on decimal numbers are rounded to an infinity. -/
lemma ofDecimal_eq_infinity (negative : Bool) {x : ℤ} (large : (2 : ℚ) ^ 1024 ≤ n * 10 ^ x) :
    Binary64.ofDecimal negative n x = .infinity negative := by
  have positive : (0 : ℚ) < n * 10 ^ x := lt_of_lt_of_le (by positivity) large
  have nonzero : n ≠ 0 := by
    rintro rfl
    rw [Nat.cast_zero, zero_mul] at positive
    exact positive.false
  have size : n < 10 ^ (Nat.toDigits 10 n).length :=
    (Nat.length_toDigits_le_iff (by decide) Nat.length_toDigits_pos).1 le_rfl
  have below : (n : ℚ) * 10 ^ x < 10 ^ (x + (Nat.toDigits 10 n).length) := by
    rw [zpow_add₀ (by norm_num), zpow_natCast, mul_comm ((10 : ℚ) ^ x)]
    exact mul_lt_mul_of_pos_right (by exact_mod_cast size) (by positivity)
  unfold Binary64.ofDecimal
  rw [if_neg nonzero]
  dsimp only
  split
  · rfl
  · rw [if_neg]
    · split
      · rename_i up
        obtain ⟨k, rfl⟩ := Int.eq_ofNat_of_zero_le up
        rw [Int.toNat_natCast, Nat.pow_eq]
        refine congrArg _ (Binary64.nearestMagnitude_eq_infinite Nat.one_pos ?_)
        rw [zpow_natCast] at large
        rw [Nat.cast_one, div_one]
        exact_mod_cast large
      · rename_i down
        obtain ⟨k, hk⟩ := Int.eq_ofNat_of_zero_le (show 0 ≤ -x by omega)
        obtain rfl : x = -(k : ℤ) := by omega
        rw [neg_neg, Int.toNat_natCast, Nat.pow_eq]
        refine congrArg _ (Binary64.nearestMagnitude_eq_infinite (Nat.pow_pos (by decide)) ?_)
        rw [zpow_neg, zpow_natCast, ← div_eq_mul_inv] at large
        exact_mod_cast large
    · intro small
      have less : (n : ℚ) * 10 ^ x < 1 :=
        below.trans_le (zpow_le_one_of_nonpos₀ (by norm_num) (by omega))
      exact absurd ((one_le_pow₀ one_le_two).trans large) (not_le.2 less)

/-- So they are read as one, with their sign. -/
lemma IsDecimal.infinite {q : ℚ} (h : IsDecimal s q) (large : 2 ^ 1024 ≤ |q|) :
    IsDouble s (.infinity (decide (q < 0))) := by
  obtain @⟨sign, negative, digits, n, x, hs, unsigned⟩ := h
  have positive : (0 : ℚ) ≤ n * 10 ^ x := by positivity
  cases negative with
  | false =>
    rw [if_neg Bool.false_ne_true] at large ⊢
    rw [abs_of_nonneg positive] at large
    rw [decide_eq_false positive.not_gt, ← ofDecimal_eq_infinity false large]
    exact .number hs unsigned
  | true =>
    rw [if_pos rfl] at large ⊢
    rw [abs_neg, abs_of_nonneg positive] at large
    have negative : -((n : ℚ) * 10 ^ x) < 0 :=
      neg_neg_of_pos (lt_of_lt_of_le (by positivity) large)
    rw [decide_eq_true negative, ← ofDecimal_eq_infinity true large]
    exact .number hs unsigned

end PackageFinder.Decimal
