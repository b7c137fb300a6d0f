import Mathlib.Algebra.Group.Nat.Defs
import Mathlib.Tactic.Lemma
import PackageFinder.Json.Printer
import PackageFinder.Json.Record

/-!
# Reading written strings and numbers

What is written for a string or for a whole number is read as that string or number, whatever
follows it.  For strings the induction is over the characters, each of which is written as one of
four things: itself, a letter after a backslash, or digits after a backslash.
-/

namespace PackageFinder.Json
open PackageFinder.Decimal (digit?)

/-- A text before which nothing is passed over. -/
lemma skipBlanks_of_not_blank {c : Char} (h : isBlank c = false) (s : List Char) :
    skipBlanks (c :: s) = c :: s := by
  simp [skipBlanks, h]

/-- The start of a line is passed over. -/
@[simp] lemma skipBlanks_newLine (depth : Nat) (s : List Char) :
    skipBlanks (newLine depth ++ s) = skipBlanks s := by
  have hr : ∀ n, (List.replicate n ' ' ++ s).dropWhile isBlank = s.dropWhile isBlank := by
    intro n
    induction n with
    | zero => rfl
    | succ n ih => exact ih
  exact hr depth

/-- The closing quote ends a string. -/
lemma readString_quote (s : List Char) : readString ('"' :: s) = .ok ([], s) := by
  rw [readString]
  rfl

/-- An escape is read as the character that it stands for. -/
lemma readString_escape {s r : List Char} {d : Char} (h : readEscape s = .ok (d, r)) :
    readString ('\\' :: s) = (readString r).map (Prod.map (d :: ·) id) := by
  rw [readString, if_neg (by decide), if_pos rfl]
  split
  · rename_i e
    rw [h] at e
    cases e
  · rename_i e
    rw [h] at e
    cases e
    cases readString r <;> rfl

/-- Any other character stands for itself. -/
lemma readString_plain {c : Char} (hq : c ≠ '"') (hb : c ≠ '\\') (hc : isControl c = false)
    (s : List Char) : readString (c :: s) = (readString s).map (Prod.map (c :: ·) id) := by
  rw [readString, if_neg hq, if_neg hb, hc]
  cases readString s <;> rfl

/-- The number of a control character is read from its digits. -/
lemma readHex_hexPair {n : Nat} (h : n < 0x20) (s : List Char) :
    readHex ('0' :: '0' :: (hexPair n ++ s)) = .ok (n, s) := by
  have h₁ := Text.hexDigit?_digitChar (n := n / 16 % 16) (by omega)
  have h₂ := Text.hexDigit?_digitChar (n := n % 16) (by omega)
  have h₀ : Text.hexDigit? '0' = some 0 := rfl
  have e : n / 16 % 16 * 16 + n % 16 = n := by omega
  simp [readHex, hexPair, hexFour?, h₀, h₁, h₂, e]

/-- A control character is read from its number. -/
lemma readEscape_control {c : Char} (h : c.toNat < 0x20) (s : List Char) :
    readEscape ('u' :: '0' :: '0' :: (hexPair c.toNat ++ s)) = .ok (c, s) := by
  have ht : isTrailing c.toNat = false := by
    simp [isTrailing]
    omega
  have hl : isLeading c.toNat = false := by
    simp [isLeading]
    omega
  have e : readNumbered ('0' :: '0' :: (hexPair c.toNat ++ s)) = .ok (c, s) := by
    unfold readNumbered
    rw [readHex_hexPair h]
    simp [bind, Except.bind, ht, hl]
  simpa [readEscape] using e

/-- What is written for a character is read as that character. -/
lemma readString_escapeChar (c : Char) (s : List Char) :
    readString (escapeChar c ++ s) = (readString s).map (Prod.map (c :: ·) id) := by
  unfold escapeChar
  split
  -- the seven characters that have a letter
  iterate 7 exact readString_escape rfl
  -- any other one: by its number if it is a control character, itself if not
  · rename_i hq hb _ _ _ _ _
    split
    · rename_i h
      exact readString_escape (readEscape_control h s)
    · rename_i h
      exact readString_plain hq hb (by simpa [isControl] using h) s

/-- What is written between the quotes of a string is read as that string. -/
lemma readString_flatMap_escapeChar (cs r : List Char) :
    readString (cs.flatMap escapeChar ++ '"' :: r) = .ok (cs, r) := by
  induction cs with
  | nil => exact readString_quote r
  | cons c cs ih =>
    rw [List.flatMap_cons, List.append_assoc, readString_escapeChar, ih]
    rfl

/-- A written string after its opening quote. -/
lemma writeString_append (s : String) (r : List Char) :
    writeString s ++ r = '"' :: (s.toList.flatMap escapeChar ++ '"' :: r) := by
  simp [writeString]

/-- A written string is read as that string. -/
@[simp] lemma readText_writeString (s : String) (r : List Char) :
    readText (writeString s ++ r) = .ok (s, r) := by
  rw [writeString_append, readText, readTextAs, skipBlanks_of_not_blank (by decide)]
  simp [readString_flatMap_escapeChar, bind, Except.bind]

/-- A written string is not taken for `null`. -/
@[simp] lemma readTextOrNull_writeString (s : String) (r : List Char) :
    readTextOrNull (writeString s ++ r) = .ok (some s, r) := by
  have h := readText_writeString s r
  rw [writeString_append] at h ⊢
  rw [readTextOrNull, skipBlanks_of_not_blank (by decide)]
  simp [h, bind, Except.bind]

/-- Nor is `null` taken for a string. -/
@[simp] lemma readTextOrNull_null (r : List Char) :
    readTextOrNull ("null".toList ++ r) = .ok (none, r) := rfl

/-- A number is at least what its first digits form. -/
lemma le_ofDigitChars (ds : List Char) (n : Nat) : n ≤ Nat.ofDigitChars 10 ds n := by
  induction ds generalizing n with
  | nil => simp
  | cons d ds ih =>
    rw [Nat.ofDigitChars_cons]
    have := ih (10 * n + (d.toNat - '0'.toNat))
    omega

/-- All digits are taken if their number fits. -/
lemma takeFitting_append {ds r : List Char} {n : Nat} (hd : ∀ d ∈ ds, d.isDigit)
    (hr : startsWithDigit r = false) (h : Nat.ofDigitChars 10 ds n < 2 ^ 64) :
    takeFitting n (ds ++ r) = (Nat.ofDigitChars 10 ds n, ds.length, r) := by
  induction ds generalizing n with
  | nil =>
    cases r with
    | nil => rfl
    | cons c r =>
      have hc : digit? c = none := by simpa [digit?, startsWithDigit] using hr
      simp [takeFitting, hc]
  | cons d ds ih =>
    have hd₀ : digit? d = some (d.toNat - '0'.toNat) := by simp [digit?, hd d]
    rw [Nat.ofDigitChars_cons] at h ⊢
    have hle := le_ofDigitChars ds (10 * n + (d.toNat - '0'.toNat))
    have hlt : n * 10 + (d.toNat - '0'.toNat) < UInt64.size := by
      rw [UInt64.size]
      omega
    have e : n * 10 + (d.toNat - '0'.toNat) = 10 * n + (d.toNat - '0'.toNat) := by omega
    rw [List.cons_append, takeFitting, hd₀]
    dsimp only
    rw [if_pos hlt, e, ih (fun x hx => hd x (List.mem_cons_of_mem d hx)) h]
    rfl

/-- No digit is dropped where none stands. -/
lemma dropDigits_of_not_digit {r : List Char} (hr : startsWithDigit r = false) :
    dropDigits r = (0, r) := by
  cases r with
  | nil => rfl
  | cons c r =>
    have hc : c.isDigit = false := hr
    simp [dropDigits, hc]

/-- No number but zero is written with a zero in front. -/
lemma head?_toDigits {n : Nat} (h : 0 < n) : (Nat.toDigits 10 n).head? ≠ some '0' := by
  induction n using Nat.strongRecOn with
  | ind n ih =>
    by_cases hn : n < 10
    · have hd : ∀ m < 10, 0 < m → [Nat.digitChar m].head? ≠ some '0' := by decide
      rw [Nat.toDigits_of_lt_base hn]
      exact hd n hn h
    · have ih := ih (n / 10) (by omega) (by omega)
      rw [Nat.toDigits_of_base_le (by decide) (by omega)]
      cases e : Nat.toDigits 10 (n / 10) with
      | nil => exact absurd e Nat.toDigits_ne_nil
      | cons d ds => rwa [e] at ih

/-- What a number starts with is a digit. -/
lemma isDigit_of_toDigits {n : Nat} {d : Char} {ds : List Char}
    (h : Nat.toDigits 10 n = d :: ds) : d.isDigit = true := by
  have hd : d ∈ Nat.toDigits 10 n := by rw [h]; exact List.mem_cons_self
  exact Nat.isDigit_of_mem_toDigits (by decide) (by decide) hd

/-- A digit is not passed over. -/
lemma isBlank_of_isDigit {d : Char} (h : d.isDigit = true) : isBlank d = false := by
  cases hb : isBlank d with
  | false => rfl
  | true =>
    simp only [isBlank, Bool.or_eq_true, decide_eq_true_eq] at hb
    rcases hb with ((rfl | rfl) | rfl) | rfl <;> exact absurd h (by decide)

/-- The digits of a number that fits are read as that number, unless a point or an exponent
follows. -/
lemma readNumber_toDigits {n : Nat} (hn : n < 2 ^ 64) {c : Char} (hd : c.isDigit = false)
    (hp : c ≠ '.') (he : c ≠ 'e') (hE : c ≠ 'E') (r : List Char) :
    readNumber false (Nat.toDigits 10 n ++ c :: r) = .ok (.whole n, c :: r) := by
  have hr : startsWithDigit (c :: r) = false := hd
  have hv : Nat.ofDigitChars 10 (Nat.toDigits 10 n) 0 = n := Nat.ofDigitChars_ten_toDigits
  have ht : takeFitting 0 (Nat.toDigits 10 n ++ c :: r)
      = (Nat.ofDigitChars 10 (Nat.toDigits 10 n) 0, (Nat.toDigits 10 n).length, c :: r) :=
    takeFitting_append (fun _ => Nat.isDigit_of_mem_toDigits (by decide) (by decide)) hr
      (by rwa [hv])
  rw [hv] at ht
  have hdrop : dropDigits (c :: r) = (0, c :: r) := dropDigits_of_not_digit hr
  cases e : Nat.toDigits 10 n with
  | nil => exact absurd e Nat.toDigits_ne_nil
  | cons d ds =>
    have hdd := isDigit_of_toDigits e
    have hz : ¬(d = '0' ∧ startsWithDigit (ds ++ c :: r) = true) := by
      rintro ⟨rfl, h⟩
      cases n with
      | zero =>
        rw [Nat.toDigits_zero] at e
        cases e
        exact absurd h (by simp [startsWithDigit, hd])
      | succ n => exact head?_toDigits (n := n + 1) (by omega) (by rw [e]; rfl)
    rw [e] at ht
    rw [List.cons_append] at ht ⊢
    rw [readNumber, hdd, if_neg (by decide), if_neg hz, ht]
    dsimp only
    rw [hdrop]
    simp [readAfterWhole, finishWhole, hp, he, hE, whole?]

/-- A whole number that fits is read back. -/
lemma readNatural_write {n : Nat} (hn : n < 2 ^ 64) {c : Char} (hd : c.isDigit = false)
    (hp : c ≠ '.') (he : c ≠ 'e') (hE : c ≠ 'E') (r : List Char) :
    readNatural ((Number.whole n).write ++ c :: r) = .ok (n, c :: r) := by
  have hw : (Number.whole n).write = Nat.toDigits 10 n := by
    simp [Number.write, Int.repr_eq_if]
  have h := readNumber_toDigits hn hd hp he hE r
  rw [hw]
  cases e : Nat.toDigits 10 n with
  | nil => exact absurd e Nat.toDigits_ne_nil
  | cons d ds =>
    have hdd := isDigit_of_toDigits e
    have hm : d ≠ '-' := by
      rintro rfl
      exact absurd hdd (by decide)
    rw [e, List.cons_append] at h
    rw [List.cons_append, readNatural, skipBlanks_of_not_blank (isBlank_of_isDigit hdd)]
    dsimp only
    rw [if_neg hm, if_pos hdd, h]
    rfl

end PackageFinder.Json
