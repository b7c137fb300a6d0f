import PackageFinder.Proofs.Json.Grammar
import PackageFinder.Proofs.Json.Scalar

/-!
# Reading numbers

What is read as a number is a numeral, and a numeral is read unless it is too large, provided that what
follows does not go on with it.
-/

namespace PackageFinder.Json
open Decimal (IsDigits Stops Exponent Sign digitsValue digit?)

variable {d r s : List Char}

/-! ## Digits -/

/-- What stops digits starts with none. -/
lemma startsWithDigit_eq_false (h : Stops r) : startsWithDigit r = false := by
  cases r with
  | nil => rfl
  | cons c r => exact h c rfl

/-- Digits are dropped up to what stops them. -/
lemma dropDigits_append (digits : IsDigits d) (stops : Stops r) :
    dropDigits (d ++ r) = (d.length, r) := by
  induction d with
  | nil => exact dropDigits_of_not_digit (startsWithDigit_eq_false stops)
  | cons c d ih =>
    rw [List.cons_append, dropDigits, if_pos (digits c List.mem_cons_self), ih digits.tail]
    rfl

/-- Of some digits the first ones are taken: all of them, or as many as fit. -/
lemma takeFitting_digits (digits : IsDigits d) {n : ℕ} (small : n < UInt64.size) :
    ∃ k ≤ d.length, ∃ m < UInt64.size, m = Nat.ofDigitChars 10 (d.take k) n ∧
      (∀ r, Stops r → takeFitting n (d ++ r) = (m, k, d.drop k ++ r)) ∧
      (k < d.length → UInt64.size ≤ Nat.ofDigitChars 10 (d.take (k + 1)) n) := by
  induction d generalizing n with
  | nil =>
    refine ⟨0, le_rfl, n, small, rfl, fun r stops => ?_, nofun⟩
    exact @takeFitting_append [] _ _ nofun (startsWithDigit_eq_false stops) small
  | cons c d ih =>
    have value : digit? c = some (c.toNat - '0'.toNat) := by
      rw [digit?, if_pos (digits c List.mem_cons_self)]
      rfl
    by_cases fits : 10 * n + (c.toNat - '0'.toNat) < UInt64.size
    · obtain ⟨k, hk, m, hm, same, taken, full⟩ := ih digits.tail fits
      refine ⟨k + 1, Nat.succ_le_succ hk, m, hm, same, fun r stops => ?_, fun more => ?_⟩
      · rw [List.cons_append, takeFitting, value]
        dsimp only
        rw [Nat.mul_comm n, if_pos fits, taken r stops]
        rfl
      · exact full (Nat.lt_of_succ_lt_succ more)
    · refine ⟨0, Nat.zero_le _, n, small, rfl, fun r stops => ?_, fun _ => ?_⟩
      · rw [List.cons_append, takeFitting, value]
        dsimp only
        rw [Nat.mul_comm n, if_neg fits]
        rfl
      · exact Nat.not_lt.1 fits

/-- An exponent is taken if it is not too large, and cut short otherwise. -/
lemma takeExponent_digits (digits : IsDigits d) (stops : Stops r) {x : ℕ}
    (small : x ≤ exponentBound) :
    if Nat.ofDigitChars 10 d x ≤ exponentBound then
      takeExponent x (d ++ r) = (some (Nat.ofDigitChars 10 d x), r)
    else ∃ rest, takeExponent x (d ++ r) = (none, rest) ∧ (dropDigits rest).2 = r := by
  induction d generalizing x with
  | nil =>
    rw [Nat.ofDigitChars_nil, if_pos small]
    cases r with
    | nil => rfl
    | cons c r =>
      rw [List.nil_append, takeExponent, digit?, stops c rfl]
      rfl
  | cons c d ih =>
    have value : digit? c = some (c.toNat - '0'.toNat) := by
      rw [digit?, if_pos (digits c List.mem_cons_self)]
      rfl
    rw [Nat.ofDigitChars_cons, List.cons_append, takeExponent, value]
    dsimp only
    rw [Nat.mul_comm x]
    by_cases fits : 10 * x + (c.toNat - '0'.toNat) ≤ exponentBound
    · rw [if_pos fits]
      exact ih digits.tail fits
    · have := le_ofDigitChars d (10 * x + (c.toNat - '0'.toNat))
      rw [if_neg fits, if_neg (by omega)]
      exact ⟨d ++ r, rfl, by rw [dropDigits_append digits.tail stops]⟩

/-! ## Parts of a number -/

/-- A double is finished if it is within the range of doubles. -/
lemma finishDouble_toOption (negative : Bool) (m : ℕ) (e : ℤ) (r : List Char) :
    (finishDouble negative m e r).toOption = ((double? m e).map fun x =>
      .double (if negative then x.negate else x)).map (·, r) := by
  unfold finishDouble
  cases double? m e with
  | none => rfl
  | some x => rfl

/-- An exponent is read, and the number finished. -/
lemma readPower_toOption {tail : List Char} {power : ℤ} (exponent : Exponent tail power)
    (stops : Stops r) (ends : tail = [] → r.head? ≠ some 'e' ∧ r.head? ≠ some 'E')
    (negative : Bool) (m : ℕ) (e : ℤ) :
    (readPower negative m e (tail ++ r)).toOption
      = (Numeral.scaled? negative m e power).map (·, r) := by
  unfold Numeral.scaled?
  cases exponent with
  | missing =>
    rw [if_neg (by decide), Int.add_zero, ← finishDouble_toOption]
    rw [List.nil_append]
    unfold readPower
    split
    · exact absurd rfl (ends rfl).1
    · exact absurd rfl (ends rfl).2
    · rfl
  | @power letter sign down digits is_letter hs nonempty hd =>
    have start : readPower negative m e (letter :: (sign ++ digits) ++ r)
        = readExponent negative m e (sign ++ (digits ++ r)) := by
      rw [List.cons_append, List.append_assoc]
      rcases is_letter with rfl | rfl
      · rfl
      · rfl
    have size : (if down then -(digitsValue digits : ℤ) else digitsValue digits).natAbs
        = digitsValue digits := by
      cases down
      · rfl
      · exact Int.natAbs_neg _
    have taken := takeExponent_digits hd stops (Nat.zero_le exponentBound)
    obtain ⟨c, d, rfl⟩ := List.exists_cons_of_ne_nil nonempty
    have digit := hd c List.mem_cons_self
    rw [start, readExponent, List.cons_append,
      hs.takeSign (Decimal.bare_cons Char.isDigit digit rfl rfl), size]
    dsimp only
    rw [if_pos digit]
    split at taken
    · rename_i small
      rw [← List.cons_append, taken, if_neg (Nat.not_lt.2 small), ← finishDouble_toOption]
      cases down
      · rfl
      · rfl
    · rename_i large
      obtain ⟨rest, taken, dropped⟩ := taken
      rw [← List.cons_append, taken, if_pos (Nat.not_le.1 large)]
      dsimp only
      have positive : 0 < digitsValue (c :: d) :=
        Nat.lt_of_le_of_lt (Nat.zero_le _) (Nat.not_le.1 large)
      have sign : 0 < (if down then -(digitsValue (c :: d) : ℤ) else digitsValue (c :: d))
          ↔ (!down) = true := by
        cases down
        · simpa using positive
        · simp
      simp only [sign, dropped]
      split
      · rfl
      · rfl

/-- The digits after a point are read. -/
lemma readFraction_digits {p : List Char} (places : IsDigits p) (nonempty : p ≠ []) (stops : Stops r)
    (negative : Bool) {m : ℕ} (small : m < UInt64.size) (e : ℤ) :
    readFraction negative m e (p ++ r)
      = readPower negative (takeFitting m p).1 (e - (takeFitting m p).2.1) r := by
  obtain ⟨k, hk, m', -, -, taken, -⟩ := takeFitting_digits places small
  have alone := taken [] Decimal.stops_nil
  rw [List.append_nil, List.append_nil] at alone
  rw [readFraction, taken _ stops, alone]
  dsimp only
  -- either all digits have been taken, or some are left to be dropped
  cases left : p.drop k with
  | nil =>
    have whole : k ≠ 0 := by
      rintro rfl
      exact nonempty left
    rw [List.nil_append, startsWithDigit_eq_false stops, if_neg Bool.false_ne_true, if_neg whole]
  | cons c d =>
    have digits : IsDigits (c :: d) := by
      rw [← left]
      exact fun c hc => places c (List.mem_of_mem_drop hc)
    have digit : startsWithDigit (c :: d ++ r) = true := digits c List.mem_cons_self
    rw [if_pos digit, dropDigits_append digits stops]

/-- The digits before a point are read. -/
lemma readNumber_digits (digits : IsDigits d) (nonempty : d ≠ [])
    (no_zero : d.head? = some '0' → d = ['0']) (stops : Stops r) (negative : Bool) :
    readNumber negative (d ++ r) = readAfterWhole negative (takeFitting 0 d).1
      (d.length - (takeFitting 0 d).2.1) r := by
  obtain ⟨k, hk, m, -, -, taken, -⟩ := takeFitting_digits digits (by decide : 0 < UInt64.size)
  have alone := taken [] Decimal.stops_nil
  rw [List.append_nil, List.append_nil] at alone
  have rest : IsDigits (d.drop k) := fun c hc => digits c (List.mem_of_mem_drop hc)
  have taken := taken r stops
  rw [alone]
  obtain ⟨c, w, rfl⟩ := List.exists_cons_of_ne_nil nonempty
  have digit := digits c List.mem_cons_self
  have start : ¬(c = '0' ∧ startsWithDigit (w ++ r) = true) := by
    rintro ⟨rfl, more⟩
    cases no_zero rfl
    rw [List.nil_append, startsWithDigit_eq_false stops] at more
    cases more
  rw [List.cons_append] at taken ⊢
  rw [readNumber, digit, if_neg (by decide), if_neg start, taken]
  dsimp only
  rw [dropDigits_append rest stops, List.length_drop]

/-- Without a point the number is finished after its first digits. -/
lemma readAfterWhole_of_no_point (no_point : r.head? ≠ some '.') (negative : Bool) (m dropped : ℕ) :
    readAfterWhole negative m dropped r = finishWhole negative m dropped r := by
  unfold readAfterWhole
  split
  · exact absurd rfl no_point
  · rfl

/-- With a letter its exponent is read first. -/
lemma finishWhole_of_letter (letter : r.head? = some 'e' ∨ r.head? = some 'E') (negative : Bool)
    (m dropped : ℕ) : finishWhole negative m dropped r = readPower negative m dropped r := by
  refine if_neg ?_
  rintro ⟨-, no_letter⟩
  rcases letter with h | h
  · simp [h] at no_letter
  · simp [h] at no_letter

/-! ## Numbers -/

namespace Numeral

/-- A text that does not go on with a number. -/
structure Ends (n : Numeral) (r : List Char) : Prop where
  stops : Stops r
  no_exponent : n.tail = [] → r.head? ≠ some 'e' ∧ r.head? ≠ some 'E'
  no_point : n.places = none → n.tail = [] → r.head? ≠ some '.'

variable {n : Numeral}

/-- The digits of an exponent end there. -/
lemma Ends.after_tail (h : n.Ends r) : Stops (n.tail ++ r) := by
  by_cases empty : n.tail = []
  · rw [empty]
    exact h.stops
  · exact n.exponent.stops.append empty

/-- So do the first digits of a number. -/
lemma Ends.after_whole (h : n.Ends r) : Stops (n.fraction ++ (n.tail ++ r)) := by
  unfold fraction
  cases n.places with
  | none => exact h.after_tail
  | some p => exact Decimal.stops_cons rfl

/-- A number without point is finished. -/
lemma Ends.finishWhole_toOption (h : n.Ends r) (m dropped : ℕ) :
    (finishWhole n.negative m dropped (n.tail ++ r)).toOption
      = (if n.tail = [] ∧ dropped = 0 then some (ofDigits n.negative m)
        else scaled? n.negative m dropped n.power).map (·, r) := by
  have finished := readPower_toOption n.exponent h.stops h.no_exponent n.negative m dropped
  by_cases empty : n.tail = []
  · rw [empty, List.nil_append] at finished ⊢
    have no_exponent := h.no_exponent empty
    rw [finishWhole]
    by_cases fits : dropped = 0
    · rw [if_pos ⟨fits, by simpa using no_exponent⟩, if_pos ⟨rfl, fits⟩, ofDigits]
      cases whole? n.negative m with
      | none => rfl
      | some k => rfl
    · rw [if_neg (fun h => fits h.1), if_neg (fun h => fits h.2), finished]
  · have letter : (n.tail ++ r).head? = some 'e' ∨ (n.tail ++ r).head? = some 'E' := by
      rw [List.head?_append_of_ne_nil _ empty]
      exact n.exponent.letter empty
    rw [finishWhole_of_letter letter, if_neg (fun h => empty h.1), finished]

/-- A number without places is followed by no point. -/
lemma Ends.point (h : n.Ends r) (no_places : n.places = none) : (n.tail ++ r).head? ≠ some '.' := by
  by_cases empty : n.tail = []
  · rw [empty]
    exact h.no_point no_places empty
  · rw [List.head?_append_of_ne_nil _ empty]
    exact n.exponent.no_point

/-- A numeral is read, provided that it is not too large. -/
lemma readNumber_toOption (h : n.Ends r) :
    (readNumber n.negative (n.unsigned ++ r)).toOption = n.number?.map (·, r) := by
  obtain ⟨k, hk, m, small, -, taken, -⟩ := takeFitting_digits n.digits (by decide : 0 < UInt64.size)
  have alone := taken [] Decimal.stops_nil
  rw [List.append_nil, List.append_nil] at alone
  have count : ((n.whole.length - k : ℕ) : ℤ) = n.whole.length - k := by omega
  rw [unsigned, List.append_assoc, List.append_assoc,
    readNumber_digits n.digits n.nonempty n.no_zero h.after_whole, alone]
  dsimp only
  cases places : n.places with
  | some p =>
    have point : n.fraction = '.' :: p := by rw [fraction, places]
    obtain ⟨hp, nonempty⟩ := n.places_digits p places
    rw [point, List.cons_append, readAfterWhole, readFraction_digits hp nonempty h.after_tail _ small,
      readPower_toOption n.exponent h.stops h.no_exponent, number?,
      if_neg (by rw [places]; rintro ⟨⟨⟩, -⟩), kept, alone, places, count]
  | none =>
    have no_point : n.fraction = [] := by rw [fraction, places]
    have digits : n.kept.1 = m := by rw [kept, alone, places]
    have dropped : n.kept.2 = ((n.whole.length - k : ℕ) : ℤ) := by rw [kept, alone, places, count]
    rw [no_point, List.nil_append, readAfterWhole_of_no_point (h.point places),
      h.finishWhole_toOption, number?, digits, dropped]
    have fits : (n.places = none ∧ n.tail = [] ∧ ((n.whole.length - k : ℕ) : ℤ) = 0) ↔
        n.tail = [] ∧ n.whole.length - k = 0 := by
      rw [Int.natCast_eq_zero]
      exact ⟨And.right, fun h => ⟨places, h⟩⟩
    by_cases whole : n.tail = [] ∧ n.whole.length - k = 0
    · rw [if_pos whole, if_pos (fits.2 whole)]
    · rw [if_neg whole, if_neg (fits.not.2 whole)]

end Numeral

/-! ## What is read -/

variable {negative : Bool} {m : ℕ} {e : ℤ} {y : Number × List Char}

/-- What is read as an exponent is one. -/
lemma exists_exponent (stops : Stops s) (h : readPower negative m e s = .ok y) :
    ∃ tail power r, s = tail ++ r ∧ Exponent tail power ∧ Stops r ∧
      (tail = [] → r.head? ≠ some 'e' ∧ r.head? ≠ some 'E') := by
  by_cases letter : s.head? = some 'e' ∨ s.head? = some 'E'
  · obtain ⟨c, t, rfl, is_letter⟩ : ∃ c t, s = c :: t ∧ (c = 'e' ∨ c = 'E') := by
      rcases letter with h | h
      · obtain ⟨t, rfl⟩ := List.head?_eq_some_iff.1 h
        exact ⟨_, t, rfl, .inl rfl⟩
      · obtain ⟨t, rfl⟩ := List.head?_eq_some_iff.1 h
        exact ⟨_, t, rfl, .inr rfl⟩
    have read : readExponent negative m e t = .ok y := by
      rcases is_letter with rfl | rfl
      · exact h
      · exact h
    obtain ⟨sign, cut, hs⟩ := Decimal.exists_sign t
    obtain ⟨d, r, rest, digits, stops'⟩ := Decimal.exists_digits (Decimal.takeSign t).2
    have nonempty : d ≠ [] := by
      rintro rfl
      rw [readExponent] at read
      dsimp only at read
      rw [rest, List.nil_append] at read
      cases r with
      | nil => cases read
      | cons c r =>
        dsimp only at read
        rw [if_neg (by rw [stops' c rfl]; exact Bool.false_ne_true)] at read
        cases read
    rw [rest] at cut
    refine ⟨_, _, r, ?_, .power is_letter hs nonempty digits, stops', nofun⟩
    rw [cut, List.cons_append, List.append_assoc]
  · exact ⟨[], 0, s, rfl, .missing, stops, fun _ => not_or.1 letter⟩

/-- What is read after a point starts with digits. -/
lemma exists_places (h : readFraction negative m e s = .ok y) :
    ∃ p r, s = p ++ r ∧ IsDigits p ∧ p ≠ [] ∧ Stops r := by
  obtain ⟨p, r, rfl, places, stops⟩ := Decimal.exists_digits s
  refine ⟨p, r, rfl, places, ?_, stops⟩
  rintro rfl
  have none_taken : takeFitting m r = (m, 0, r) := by
    cases r with
    | nil => rfl
    | cons c r =>
      rw [takeFitting, digit?, stops c rfl]
      rfl
  rw [List.nil_append, readFraction, none_taken] at h
  dsimp only at h
  rw [startsWithDigit_eq_false stops, if_neg Bool.false_ne_true, if_pos rfl] at h
  split at h
  · cases h
  · cases h

/-- What is read as a number starts with digits, the first of which is zero only if it is the only
one. -/
lemma exists_whole (h : readNumber negative s = .ok y) :
    ∃ d r, s = d ++ r ∧ IsDigits d ∧ d ≠ [] ∧ (d.head? = some '0' → d = ['0']) ∧ Stops r := by
  obtain ⟨d, r, rfl, digits, stops⟩ := Decimal.exists_digits s
  have nonempty : d ≠ [] := by
    rintro rfl
    rw [List.nil_append] at h
    cases r with
    | nil => cases h
    | cons c r =>
      rw [readNumber, if_pos (by rw [stops c rfl]; rfl)] at h
      cases h
  refine ⟨d, r, rfl, digits, nonempty, fun zero => ?_, stops⟩
  obtain ⟨w, rfl⟩ := List.head?_eq_some_iff.1 zero
  cases w with
  | nil => rfl
  | cons c w =>
    have more : startsWithDigit (c :: w ++ r) = true := digits c (.tail _ (.head _))
    rw [List.cons_append, readNumber, if_neg (by decide), if_pos ⟨rfl, more⟩] at h
    cases h

/-- What is read as a number is a numeral. -/
lemma exists_numeral (h : readNumber negative s = .ok y) :
    ∃ (n : Numeral) (r : List Char), n.negative = negative ∧ s = n.unsigned ++ r ∧ n.Ends r := by
  obtain ⟨d, s, rfl, digits, nonempty, no_zero, stops⟩ := exists_whole h
  obtain ⟨k, -, m, small, -, taken, -⟩ := takeFitting_digits digits (by decide : 0 < UInt64.size)
  have alone := taken [] Decimal.stops_nil
  rw [List.append_nil] at alone
  rw [readNumber_digits digits nonempty no_zero stops, alone] at h
  dsimp only at h
  by_cases point : s.head? = some '.'
  · obtain ⟨s, rfl⟩ := List.head?_eq_some_iff.1 point
    rw [readAfterWhole] at h
    obtain ⟨p, s, rfl, places, some_place, stops⟩ := exists_places h
    rw [readFraction_digits places some_place stops _ small] at h
    obtain ⟨tail, power, r, rfl, exponent, stops, no_exponent⟩ := exists_exponent stops h
    refine ⟨⟨negative, d, some p, tail, power, digits, nonempty, no_zero, ?_, exponent⟩, r, rfl, ?_,
      stops, no_exponent, ?_⟩
    · rintro _ ⟨⟩
      exact ⟨places, some_place⟩
    · rw [Numeral.unsigned, Numeral.fraction, List.append_assoc, List.append_assoc,
        List.cons_append]
    · rintro ⟨⟩
  · have scanned : ∃ tail power r, s = tail ++ r ∧ Exponent tail power ∧ Stops r ∧
        (tail = [] → r.head? ≠ some 'e' ∧ r.head? ≠ some 'E') := by
      by_cases letter : s.head? = some 'e' ∨ s.head? = some 'E'
      · rw [readAfterWhole_of_no_point point, finishWhole_of_letter letter] at h
        exact exists_exponent stops h
      · exact ⟨[], 0, s, rfl, .missing, stops, fun _ => not_or.1 letter⟩
    obtain ⟨tail, power, r, rfl, exponent, stops, no_exponent⟩ := scanned
    refine ⟨⟨negative, d, none, tail, power, digits, nonempty, no_zero, ?_, exponent⟩, r, rfl, ?_,
      stops, no_exponent, fun _ empty => ?_⟩
    · rintro _ ⟨⟩
    · rw [Numeral.unsigned, Numeral.fraction, List.nil_append, List.append_assoc]
    · dsimp only at empty
      subst empty
      exact point

end PackageFinder.Json
