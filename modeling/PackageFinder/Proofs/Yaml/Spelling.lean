import PackageFinder.Proofs.Decimal.Reading
import PackageFinder.Yaml.Meaning

/-!
# What spells a value

The texts that spell truth values, whole numbers and doubles in a document, each as a relation between a
text and what it stands for. Whole numbers have one of four bases, and no zero before other digits.
-/

namespace PackageFinder.Yaml
open Decimal (IsBased IsDouble Bare)

/-! ## Spellings -/

/-- A truth value. -/
inductive IsBool : String → Bool → Prop
  | yes {s} : s ∈ ["true", "True", "TRUE"] → IsBool s true
  | no {s} : s ∈ ["false", "False", "FALSE"] → IsBool s false

/-- A whole number without sign. -/
inductive IsMagnitude : List Char → ℕ → Prop
  | decimal {s n} : IsBased 10 s n → (s.head? = some '0' → s = ['0']) → IsMagnitude s n
  | hexadecimal {s n} : IsBased 16 s n → IsMagnitude ('0' :: 'x' :: s) n
  | octal {s n} : IsBased 8 s n → IsMagnitude ('0' :: 'o' :: s) n
  | binary {s n} : IsBased 2 s n → IsMagnitude ('0' :: 'b' :: s) n

/-- A whole number that is not negative. -/
inductive IsNatural : List Char → ℕ → Prop
  | bare {s n} : IsMagnitude s n → IsNatural s n
  | plus {s n} : IsMagnitude s n → IsNatural ('+' :: s) n

/-- A double. -/
inductive IsFloat : List Char → Binary64 → Prop
  | infinite {s} : String.ofList s ∈ [".inf", ".Inf", ".INF"] → IsFloat s (.infinity false)
  | positive {s} : String.ofList s ∈ [".inf", ".Inf", ".INF"] → IsFloat ('+' :: s) (.infinity false)
  | negative {s} : String.ofList s ∈ ["-.inf", "-.Inf", "-.INF"] → IsFloat s (.infinity true)
  | nan {s} : String.ofList s ∈ [".nan", ".NaN", ".NAN"] → IsFloat s .notANumber
  | number {s x} : IsDouble s x → x.isFinite = true → IsFloat s x

variable {s : List Char} {n base : ℕ}

/-! ## Truth values -/

/-- A truth value is read for what it stands for. -/
lemma readBool?_eq_some_iff {text : String} {b : Bool} : readBool? text = some b ↔ IsBool text b := by
  unfold readBool?
  simp only [List.contains_iff_mem]
  constructor
  · intro h
    split at h
    · cases h
      exact .yes (by assumption)
    · split at h
      · cases h
        exact .no (by assumption)
      · cases h
  · intro h
    cases h with
    | yes word => rw [if_pos word]
    | no word =>
      have other : text ∉ ["true", "True", "TRUE"] := by
        simp only [List.mem_cons, List.not_mem_nil, or_false] at word
        rcases word with rfl | rfl | rfl
        · decide
        · decide
        · decide
      rw [if_neg other, if_pos word]

/-! ## Whole numbers -/

/-- Digits have a leading zero if they start with one that is not alone. -/
lemma hasLeadingZero_iff (h : IsBased 10 s n) :
    hasLeadingZero s = false ↔ (s.head? = some '0' → s = ['0']) := by
  have digits := h.isDigits
  have bare := Decimal.Sign.missing.takeSign digits.bare
  rw [List.nil_append] at bare
  rw [hasLeadingZero, bare]
  dsimp only
  split
  · rename_i c r
    have rest : (c :: r).all Char.isDigit = true :=
      List.all_eq_true.2 fun d hd => digits d (.tail _ hd)
    rw [rest]
    exact ⟨nofun, fun alone => nomatch alone rfl⟩
  · rename_i alone
    refine ⟨fun _ zero => ?_, fun _ => rfl⟩
    obtain ⟨r, rfl⟩ := List.head?_eq_some_iff.1 zero
    cases r with
    | nil => rfl
    | cons c r => exact absurd rfl (alone c r)

/-- The digits of a whole number are read in the base that its start says. -/
lemma readDigits?_eq_some_iff : readDigits? s = some n ↔ IsMagnitude s n := by
  unfold readDigits?
  constructor
  · intro h
    split at h
    · exact .hexadecimal (Decimal.readBase?_iff_isBased.1 h)
    · exact .octal (Decimal.readBase?_iff_isBased.1 h)
    · exact .binary (Decimal.readBase?_iff_isBased.1 h)
    · split at h
      · cases h
      · rename_i no_zero
        have based := Decimal.readBase?_iff_isBased.1 h
        exact .decimal based ((hasLeadingZero_iff based).1 (Bool.eq_false_of_not_eq_true no_zero))
  · intro h
    cases h with
    | hexadecimal based => exact Decimal.readBase?_iff_isBased.2 based
    | octal based => exact Decimal.readBase?_iff_isBased.2 based
    | binary based => exact Decimal.readBase?_iff_isBased.2 based
    | decimal based no_zero =>
      have digits := based.isDigits
      split
      · cases digits 'x' (.tail _ (.head _))
      · cases digits 'o' (.tail _ (.head _))
      · cases digits 'b' (.tail _ (.head _))
      · rw [(hasLeadingZero_iff based).2 no_zero]
        exact Decimal.readBase?_iff_isBased.2 based

/-- The digits of a whole number start with no plus sign, so one before them is the only one. -/
lemma IsMagnitude.no_plus (h : IsMagnitude s n) : s.head? ≠ some '+' := by
  cases h with
  | decimal based =>
    intro plus
    cases based.isDigits '+' (List.mem_of_mem_head? plus)
  | _ => exact nofun

/-- A whole number is read for what it stands for. -/
lemma readUnsigned?_eq_some_iff : readUnsigned? s = some n ↔ IsNatural s n := by
  rw [readUnsigned?, readDigits?_eq_some_iff]
  constructor
  · intro magnitude
    rcases Decimal.dropPlus_cases s with ⟨r, rfl⟩ | ⟨-, same⟩
    · exact .plus magnitude
    · rw [same] at magnitude
      exact .bare magnitude
  · intro h
    cases h with
    | plus magnitude => exact magnitude
    | bare magnitude =>
      rcases Decimal.dropPlus_cases s with ⟨r, rfl⟩ | ⟨-, same⟩
      · exact absurd rfl magnitude.no_plus
      · rwa [same]

/-! ## Doubles -/

/-- No second sign follows the plus sign of a double. -/
lemma bare_of_readDouble?_plus {x : Binary64} (h : Decimal.readDouble? ('+' :: s) = some x) :
    Bare s := by
  rw [Decimal.readDouble?, Decimal.takeSign] at h
  dsimp only at h
  split at h
  · rename_i word
    exact word.elim (Decimal.bare_of_word · rfl) (Decimal.bare_of_word · rfl)
  · split at h
    · rename_i word
      exact Decimal.bare_of_word word rfl
    · obtain ⟨⟨n, e⟩, unsigned, -⟩ := Option.map_eq_some_iff.1 h
      exact (Decimal.readUnsigned?_eq_some_iff.1 unsigned).bare

/-- A plus sign does not change the double after it. -/
lemma readDouble?_plus (bare : Bare s) :
    Decimal.readDouble? ('+' :: s) = Decimal.readDouble? s := by
  have same := Decimal.Sign.missing.takeSign bare
  rw [List.nil_append] at same
  rw [Decimal.readDouble?, Decimal.readDouble?, same]
  rfl

/-- The words for infinities and for what is no number. -/
lemma readFloat?_word : (∀ w ∈ [".inf", ".Inf", ".INF"],
      readFloat? w.toList = some (.infinity false) ∧
        readFloat? ('+' :: w.toList) = some (.infinity false)) ∧
    (∀ w ∈ ["-.inf", "-.Inf", "-.INF"], readFloat? w.toList = some (.infinity true)) ∧
    (∀ w ∈ [".nan", ".NaN", ".NAN"], readFloat? w.toList = some .notANumber) := by
  decide

/-- None of these words spells a double by itself. -/
lemma readDouble?_word :
    ∀ words ∈ [[".inf", ".Inf", ".INF"], ["-.inf", "-.Inf", "-.INF"], [".nan", ".NaN", ".NAN"]],
      ∀ w ∈ words, Decimal.readDouble? w.toList = none := by
  decide

/-- Nothing else that spells a double is one of these words. -/
lemma not_word_of_readDouble? {x : Binary64} (h : Decimal.readDouble? s = some x) {words : List String}
    (special : words ∈
      [[".inf", ".Inf", ".INF"], ["-.inf", "-.Inf", "-.INF"], [".nan", ".NaN", ".NAN"]]) :
    ¬ words.contains (String.ofList s) = true := by
  intro word
  have none := readDouble?_word words special _ (List.contains_iff_mem.1 word)
  rw [String.toList_ofList, h] at none
  cases none

/-- Only what spells a double is read as one. -/
lemma isFloat_of_readFloat? {x : Binary64} (h : readFloat? s = some x) : IsFloat s x := by
  unfold readFloat? at h
  dsimp only at h
  split at h
  · rename_i word
    rw [List.contains_iff_mem] at word
    cases h
    rcases Decimal.dropPlus_cases s with ⟨r, rfl⟩ | ⟨-, same⟩
    · exact .positive word
    · rw [same] at word
      exact .infinite word
  · split at h
    · cases h
      exact .negative (List.contains_iff_mem.1 (by assumption))
    · split at h
      · cases h
        exact .nan (List.contains_iff_mem.1 (by assumption))
      · split at h
        · cases h
        · rename_i one_sign
          obtain ⟨read, finite⟩ := Option.filter_eq_some_iff.1 h
          refine .number (Decimal.readDouble?_eq_some_iff.1 ?_) finite
          rcases Decimal.dropPlus_cases s with ⟨r, rfl⟩ | ⟨-, same⟩
          · have bare : Bare r :=
              ⟨fun minus => one_sign ⟨rfl, .inr minus⟩, fun plus => one_sign ⟨rfl, .inl plus⟩⟩
            exact (readDouble?_plus bare).trans read
          · rwa [same] at read

/-- A double is read for what it stands for. -/
lemma readFloat?_eq_some_iff {x : Binary64} : readFloat? s = some x ↔ IsFloat s x := by
  refine ⟨isFloat_of_readFloat?, fun h => ?_⟩
  obtain ⟨infinite, negative, nan⟩ := readFloat?_word
  cases h with
  | infinite word =>
    have := (infinite _ word).1
    rwa [String.toList_ofList] at this
  | positive word =>
    have := (infinite _ word).2
    rwa [String.toList_ofList] at this
  | negative word =>
    have := negative _ word
    rwa [String.toList_ofList] at this
  | nan word =>
    have := nan _ word
    rwa [String.toList_ofList] at this
  | number double finite =>
    have read := Decimal.readDouble?_eq_some_iff.2 double
    -- a sign that is dropped does not matter, and there is no other after it
    obtain ⟨rest, one_sign⟩ : Decimal.readDouble? (Decimal.dropPlus s) = some x ∧
        ¬ (s.head? = some '+' ∧ ((Decimal.dropPlus s).head? = some '+' ∨
          (Decimal.dropPlus s).head? = some '-')) := by
      rcases Decimal.dropPlus_cases s with ⟨r, rfl⟩ | ⟨no_plus, same⟩
      · have bare := bare_of_readDouble?_plus read
        rw [readDouble?_plus bare] at read
        exact ⟨read, fun signs => signs.2.elim bare.2 bare.1⟩
      · rw [same]
        exact ⟨read, fun signs => no_plus signs.1⟩
    unfold readFloat?
    dsimp only
    rw [if_neg (not_word_of_readDouble? rest (.head _)),
      if_neg (not_word_of_readDouble? read (.tail _ (.head _))),
      if_neg (not_word_of_readDouble? read (.tail _ (.tail _ (.head _)))), if_neg one_sign, rest]
    exact Option.filter_eq_some_iff.2 ⟨rfl, finite⟩

end PackageFinder.Yaml
