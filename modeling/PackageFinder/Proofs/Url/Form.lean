import Mathlib.Tactic.Lemma
import PackageFinder.Proofs.Text.Utf8
import PackageFinder.Url.Form

/-!
# Reading queries back

A name or a value is written without `&`, `=` and raw plus signs, so whatever is in it, it can neither
end its pair nor start another one, and its bytes are read back. It cannot end the query or the
address either (`Form.isQueryChar_addPairs`). The main statement is `Form.pairs_addPairs`: pairs that
are added to a query, which may have pairs of its own or none, stand after those.
-/

namespace PackageFinder

/-! ## Pieces -/

namespace Text
variable {c : Char} {s : List Char}

/-- There is at least one piece. -/
lemma exists_splitAll (c : Char) (s : List Char) : ∃ p ps, splitAll c s = p :: ps := by
  cases s with
  | nil => exact ⟨_, _, rfl⟩
  | cons d s =>
    rw [splitAll]
    split
    · exact ⟨_, _, rfl⟩
    · split <;> exact ⟨_, _, rfl⟩

/-- A text in which nothing splits it is one piece. -/
lemma splitAll_of_not_mem (h : c ∉ s) : splitAll c s = [s] := by
  induction s with
  | nil => rfl
  | cons d s ih =>
    rw [List.mem_cons, not_or] at h
    rw [splitAll, if_neg (Ne.symm h.1), ih h.2]

/-- The pieces before and after a place where a text is split. -/
lemma splitAll_append (c : Char) (s t : List Char) :
    splitAll c (s ++ c :: t) = splitAll c s ++ splitAll c t := by
  induction s with
  | nil =>
    rw [List.nil_append, splitAll.eq_2, if_pos rfl]
    rfl
  | cons d s ih =>
    obtain ⟨p, ps, hs⟩ := exists_splitAll c s
    rw [List.cons_append, splitAll, splitAll, ih, hs]
    split <;> rfl

end Text

namespace Url
open PackageFinder.Text

/-! ## Characters of queries -/

/-- May stand in a query: a visible character of ASCII other than the sign that ends the query. -/
def isQueryChar (c : Char) : Bool := decide (0x20 < c.toNat) && decide (c.toNat < 0x7F) && c != '#'

/-- What is true of the characters of ASCII can be checked for each of them. -/
lemma of_ascii {P : Char → Prop} (h : ∀ n < 0x80, P (Char.ofNat n)) {c : Char}
    (hc : c.toNat < 0x80) : P c := by
  rw [← Char.ofNat_toNat c]
  exact h c.toNat hc

/-- Letters and digits are in ASCII. -/
lemma toNat_lt_of_isAlphanum {c : Char} (h : c.isAlphanum = true) : c.toNat < 0x80 := by
  have upper : c.isUpper = true → c.toNat ≤ 90 := fun h =>
    UInt32.le_iff_toNat_le.1 (of_decide_eq_true h).2
  have lower : c.isLower = true → c.toNat ≤ 122 := fun h =>
    UInt32.le_iff_toNat_le.1 (of_decide_eq_true (Bool.and_eq_true_iff.1 h).2)
  have digit : c.isDigit = true → c.toNat ≤ 57 := fun h =>
    UInt32.le_iff_toNat_le.1 (of_decide_eq_true (Bool.and_eq_true_iff.1 h).2)
  obtain alpha | h := Bool.or_eq_true_iff.1 h
  · obtain h | h := Bool.or_eq_true_iff.1 alpha
    · exact Nat.lt_of_le_of_lt (upper h) (by decide)
    · exact Nat.lt_of_le_of_lt (lower h) (by decide)
  · exact Nat.lt_of_le_of_lt (digit h) (by decide)

/-! ## Percent signs -/

/-- A byte is read back. -/
lemma percentDecode_percentByte (b : UInt8) (s : List Char) :
    percentDecode (percentByte b ++ s) = b :: percentDecode s := by
  have high : b.toNat / 16 < 16 := Nat.div_lt_of_lt_mul b.toNat_lt
  have low : b.toNat % 16 < 16 := Nat.mod_lt _ (by decide)
  have whole : b.toNat / 16 * 16 + b.toNat % 16 = b.toNat := by omega
  simp only [percentByte, List.cons_append, List.nil_append]
  rw [percentDecode, capitalDigit, capitalDigit, hexDigit?_toUpper_digitChar high,
    hexDigit?_toUpper_digitChar low]
  simp only [whole, UInt8.ofNat_toNat]

/-- Bytes are read back. -/
lemma percentDecode_flatMap_percentByte (bs : List UInt8) (s : List Char) :
    percentDecode (bs.flatMap percentByte ++ s) = bs ++ percentDecode s := by
  induction bs with
  | nil => rfl
  | cons b bs ih =>
    rw [List.flatMap_cons, List.append_assoc, percentDecode_percentByte, ih, List.cons_append]

/-- Anything but a percent sign stands for itself. -/
lemma percentDecode_cons {c : Char} (hc : c ≠ '%') (s : List Char) :
    percentDecode (c :: s) = String.utf8EncodeChar c ++ percentDecode s := by
  rw [percentDecode]
  rintro a b r rfl
  exact absurd rfl hc

namespace Form

/-! ## Names and values -/

/-- The digits of bytes are plain. -/
lemma isPlain_capitalDigit {n : Nat} (h : n < 16) : isPlain (capitalDigit n) = true := by
  revert n
  decide

/-- A byte is written with a percent sign and plain characters. -/
lemma eq_percent_or_isPlain {b : UInt8} {c : Char} (h : c ∈ percentByte b) :
    c = '%' ∨ isPlain c = true := by
  have high : b.toNat / 16 < 16 := Nat.div_lt_of_lt_mul b.toNat_lt
  have low : b.toNat % 16 < 16 := Nat.mod_lt _ (by decide)
  simp only [percentByte, List.mem_cons, List.not_mem_nil, or_false] at h
  obtain rfl | rfl | rfl := h
  · exact .inl rfl
  · exact .inr (isPlain_capitalDigit high)
  · exact .inr (isPlain_capitalDigit low)

/-- Plain characters may stand in a query. -/
lemma isQueryChar_of_isPlain {c : Char} (h : isPlain c = true) : isQueryChar c = true := by
  have ascii : c.toNat < 0x80 := by
    rw [isPlain, Bool.or_eq_true] at h
    obtain alphanum | among := h
    · exact toNat_lt_of_isAlphanum alphanum
    · have sign : c = '*' ∨ c = '-' ∨ c = '.' ∨ c = '_' := by simpa [isAmong] using among
      obtain rfl | rfl | rfl | rfl := sign <;> decide
  revert h
  exact of_ascii (P := fun c => isPlain c = true → isQueryChar c = true) (by decide) ascii

/-- So may bytes as they are written. -/
lemma isQueryChar_of_mem_percentByte {b : UInt8} {c : Char} (h : c ∈ percentByte b) :
    isQueryChar c = true := by
  obtain rfl | plain := eq_percent_or_isPlain h
  · rfl
  · exact isQueryChar_of_isPlain plain

/-- A character is written with a plus sign, percent signs and plain characters. -/
lemma mem_encodeChar {c d : Char} (h : d ∈ encodeChar c) :
    d = '+' ∨ d = '%' ∨ isPlain d = true := by
  unfold encodeChar at h
  split at h
  case isTrue => exact .inl (List.mem_singleton.1 h)
  case isFalse =>
    split at h
    case isTrue plain =>
      rw [List.mem_singleton.1 h]
      exact .inr (.inr plain)
    case isFalse =>
      obtain ⟨b, _, hb⟩ := List.mem_flatMap.1 h
      exact .inr (eq_percent_or_isPlain hb)

/-- A name or a value is written without the signs that separate them. -/
lemma ne_of_mem_encode {s : String} {d : Char} (h : d ∈ encode s) : d ≠ '&' ∧ d ≠ '=' := by
  obtain ⟨c, _, hc⟩ := List.mem_flatMap.1 h
  obtain rfl | rfl | plain := mem_encodeChar hc
  · decide
  · decide
  · constructor <;> rintro rfl <;> cases plain

/-- No sign in a byte as it is written stands for a space. -/
lemma map_unplus_percentByte (b : UInt8) : (percentByte b).map unplus = percentByte b := by
  have unchanged : ∀ c ∈ percentByte b, unplus c = id c := by
    intro c hc
    refine if_neg ?_
    obtain rfl | plain := eq_percent_or_isPlain hc
    · decide
    · rintro rfl
      cases plain
  rw [List.map_congr_left unchanged, List.map_id]

/-- Bytes are read back from a name or a value. -/
lemma decodeBytes_flatMap_percentByte (bs : List UInt8) (s : List Char) :
    decodeBytes (bs.flatMap percentByte ++ s) = bs ++ decodeBytes s := by
  have unchanged : (bs.flatMap percentByte).map unplus = bs.flatMap percentByte := by
    simp only [List.map_flatMap, map_unplus_percentByte]
  rw [decodeBytes, List.map_append, unchanged, percentDecode_flatMap_percentByte, decodeBytes]

/-- A plain character is read back. -/
lemma decodeBytes_cons {c : Char} (hc : isPlain c = true) (s : List Char) :
    decodeBytes (c :: s) = String.utf8EncodeChar c ++ decodeBytes s := by
  have plus : c ≠ '+' := by
    rintro rfl
    cases hc
  have percent : c ≠ '%' := by
    rintro rfl
    cases hc
  rw [decodeBytes, List.map_cons, unplus, if_neg plus, percentDecode_cons percent, decodeBytes]

/-- The bytes of a character are read back. -/
lemma decodeBytes_encodeChar (c : Char) (s : List Char) :
    decodeBytes (encodeChar c ++ s) = String.utf8EncodeChar c ++ decodeBytes s := by
  unfold encodeChar
  split
  case isTrue space =>
    subst space
    exact percentDecode_cons (by decide) _
  case isFalse =>
    split
    case isTrue plain => exact decodeBytes_cons plain s
    case isFalse => exact decodeBytes_flatMap_percentByte _ s

/-- The bytes of a name or a value are read back. -/
lemma decodeBytes_encode (s : String) : decodeBytes (encode s) = utf8 s.toList := by
  rw [encode, utf8]
  induction s.toList with
  | nil => rfl
  | cons c cs ih => rw [List.flatMap_cons, decodeBytes_encodeChar, ih, List.flatMap_cons]

/-- A text is read back from its bytes. -/
lemma ofBytes_utf8 (s : String) : ofBytes (utf8 s.toList) = s := by
  rw [ofBytes, ofUtf8Lossy_utf8, String.ofList_toList]

/-- A name or a value may stand in a query as it is written. -/
lemma isQueryChar_of_mem_encode {s : String} {d : Char} (h : d ∈ encode s) :
    isQueryChar d = true := by
  obtain ⟨c, _, hc⟩ := List.mem_flatMap.1 h
  obtain rfl | rfl | plain := mem_encodeChar hc
  · rfl
  · rfl
  · exact isQueryChar_of_isPlain plain

/-! ## Pairs -/

/-- The first `=` separates a name from its value. -/
lemma splitPair_append {name : List Char} (h : '=' ∉ name) (value : List Char) :
    splitPair (name ++ '=' :: value) = (name, value) := by
  induction name with
  | nil => rfl
  | cons c name ih =>
    rw [List.mem_cons, not_or] at h
    rw [List.cons_append, splitPair, if_neg (Ne.symm h.1), ih h.2]

/-- A query without pairs. -/
@[simp] lemma pairs_nil : pairs [] = [] := rfl

/-- Pairs are read on both sides of a `&`. -/
lemma pairs_append (query more : List Char) :
    pairs (query ++ '&' :: more) = pairs query ++ pairs more := by
  simp only [pairs, decode, splitAll_append, List.filter_append, List.map_append]

/-- A pair is read back. -/
lemma pairs_encodePair (p : String × String) : pairs (encodePair p) = [p] := by
  have name : '=' ∉ encode p.1 := fun h => (ne_of_mem_encode h).2 rfl
  have single : '&' ∉ encodePair p := by
    rw [encodePair, List.mem_append, List.mem_cons]
    rintro (h | h | h)
    · exact (ne_of_mem_encode h).1 rfl
    · cases h
    · exact (ne_of_mem_encode h).1 rfl
  have written : (encodePair p).isEmpty = false := by
    rw [encodePair]
    cases encode p.1 <;> rfl
  have piece : (splitAll '&' (encodePair p)).filter (!·.isEmpty) = [encodePair p] := by
    rw [splitAll_of_not_mem single, List.filter_cons_of_pos, List.filter_nil]
    rw [written, Bool.not_false]
  rw [pairs, decode, piece, List.map_singleton, List.map_singleton, encodePair,
    splitPair_append name]
  simp only [decodeBytes_encode, ofBytes_utf8]

/-- A pair that is added stands after the others. -/
lemma pairs_addPair (query : List Char) (p : String × String) :
    pairs (addPair query p) = pairs query ++ [p] := by
  unfold addPair
  split
  case isTrue empty =>
    rw [List.isEmpty_iff.1 empty, pairs_nil, List.nil_append, pairs_encodePair]
  case isFalse => rw [pairs_append, pairs_encodePair]

/-- Pairs that are added stand after those of the query, in their order. -/
lemma pairs_addPairs (query : List Char) (ps : List (String × String)) :
    pairs (addPairs query ps) = pairs query ++ ps := by
  rw [addPairs]
  induction ps generalizing query with
  | nil => exact (List.append_nil _).symm
  | cons p ps ih =>
    rw [List.foldl_cons, ih, pairs_addPair, List.append_assoc, List.singleton_append]

/-- What may stand in a query does in a query to which a pair is added. -/
lemma isQueryChar_addPair {query : List Char} (h : ∀ c ∈ query, isQueryChar c = true)
    (p : String × String) : ∀ c ∈ addPair query p, isQueryChar c = true := by
  have pair : ∀ c ∈ encodePair p, isQueryChar c = true := by
    intro c hc
    rw [encodePair, List.mem_append, List.mem_cons] at hc
    obtain hc | rfl | hc := hc
    · exact isQueryChar_of_mem_encode hc
    · rfl
    · exact isQueryChar_of_mem_encode hc
  intro c hc
  unfold addPair at hc
  split at hc
  case isTrue => exact pair c hc
  case isFalse =>
    rw [List.mem_append, List.mem_cons] at hc
    obtain hc | rfl | hc := hc
    · exact h c hc
    · rfl
    · exact pair c hc

/-- Nothing else does when pairs are added. -/
lemma isQueryChar_addPairs {query : List Char} (h : ∀ c ∈ query, isQueryChar c = true)
    (ps : List (String × String)) : ∀ c ∈ addPairs query ps, isQueryChar c = true := by
  rw [addPairs]
  induction ps generalizing query with
  | nil => exact h
  | cons p ps ih => exact ih (isQueryChar_addPair h p)

end Form

end Url

end PackageFinder
