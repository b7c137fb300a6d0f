import Mathlib.Tactic.Lemma
import PackageFinder.Text.Utf8

/-!
# Reading the bytes of a text

Both ways back from the bytes of a text lead to the text: none of its bytes is replaced.  The bytes
of one character are read one after the other, for each of the four lengths that they can have.
-/

namespace PackageFinder.Text

/-- A byte is its number. -/
lemma toNat_byte {n : Nat} (h : n < 256) : (UInt8.ofNat n).toNat = n := by
  rw [UInt8.toNat_ofNat']
  exact Nat.mod_eq_of_lt h

/-- A byte that fits and is not the last one is kept. -/
lemma Pending.readNext_inner {missing low high bits b : Nat} (hl : low ≤ b) (hh : b ≤ high) :
    (⟨missing + 2, low, high, bits⟩ : Pending).readNext b
      = ([], some ⟨missing + 1, 0x80, 0xBF, bits * 64 + (b - 0x80)⟩) := by
  simp [readNext, hl, hh]

/-- The last byte completes a character. -/
lemma Pending.readNext_last {low high bits b : Nat} (hl : low ≤ b) (hh : b ≤ high) :
    (⟨1, low, high, bits⟩ : Pending).readNext b
      = ([Char.ofNat (bits * 64 + (b - 0x80))], none) := by
  simp [readNext, hl, hh]

/-- A byte of its own is a character. -/
lemma readFirst_single {b : Nat} (h : b < 0x80) : readFirst b = ([Char.ofNat b], none) := by
  simp [readFirst, h]

/-- The first byte of two. -/
lemma readFirst_two {n : Nat} (h₁ : 2 ≤ n) (h₂ : n < 32) :
    readFirst (n + 0xC0) = ([], some ⟨1, 0x80, 0xBF, n⟩) := by
  have h : ¬n + 0xC0 < 0x80 := by omega
  have h' : ¬n + 0xC0 < 0xC2 := by omega
  have h'' : n + 0xC0 ≤ 0xDF := by omega
  simp [readFirst, Pending.ofFirst?, h, h', h'']

/-- The first byte of three. -/
lemma readFirst_three {n : Nat} (h : n < 16) :
    readFirst (n + 0xE0)
      = ([], some ⟨2, if n = 0 then 0xA0 else 0x80, if n = 13 then 0x9F else 0xBF, n⟩) := by
  have h₁ : ¬n + 0xE0 < 0x80 := by omega
  have h₂ : ¬n + 0xE0 < 0xC2 := by omega
  have h₃ : ¬n + 0xE0 ≤ 0xDF := by omega
  have h₄ : n + 0xE0 ≤ 0xEF := by omega
  have h₅ : n + 0xE0 = 0xED ↔ n = 13 := by omega
  simp [readFirst, Pending.ofFirst?, h₁, h₂, h₃, h₄, h₅]

/-- The first byte of four. -/
lemma readFirst_four {n : Nat} (h : n ≤ 4) :
    readFirst (n + 0xF0)
      = ([], some ⟨3, if n = 0 then 0x90 else 0x80, if n = 4 then 0x8F else 0xBF, n⟩) := by
  have h₁ : ¬n + 0xF0 < 0x80 := by omega
  have h₂ : ¬n + 0xF0 < 0xC2 := by omega
  have h₃ : ¬n + 0xF0 ≤ 0xDF := by omega
  have h₄ : ¬n + 0xF0 ≤ 0xEF := by omega
  have h₅ : n + 0xF0 ≤ 0xF4 := by omega
  have h₆ : n + 0xF0 = 0xF4 ↔ n = 4 := by omega
  simp [readFirst, Pending.ofFirst?, h₁, h₂, h₃, h₄, h₅, h₆]

/-- What reading a byte between two characters leaves to the bytes after it. -/
lemma ofUtf8LossyFrom_first {n : Nat} (h : n < 256) {s : List Char} {q : Option Pending}
    (e : readFirst n = (s, q)) (bytes : List UInt8) :
    ofUtf8LossyFrom none (UInt8.ofNat n :: bytes) = s ++ ofUtf8LossyFrom q bytes := by
  simp only [ofUtf8LossyFrom, toNat_byte h, e]

/-- What reading a byte inside a character leaves to the bytes after it. -/
lemma ofUtf8LossyFrom_next {n : Nat} (h : n < 256) {p : Pending} {s : List Char}
    {q : Option Pending} (e : p.readNext n = (s, q)) (bytes : List UInt8) :
    ofUtf8LossyFrom (some p) (UInt8.ofNat n :: bytes) = s ++ ofUtf8LossyFrom q bytes := by
  simp only [ofUtf8LossyFrom, toNat_byte h, e]

/-- The number of a character is not that of half a surrogate pair. -/
lemma toNat_valid (c : Char) :
    c.val.toNat < 0xD800 ∨ 0xDFFF < c.val.toNat ∧ c.val.toNat < 0x110000 := c.valid

/-- The bytes of a character are read as that character. -/
lemma ofUtf8LossyFrom_utf8EncodeChar (c : Char) (bytes : List UInt8) :
    ofUtf8LossyFrom none (String.utf8EncodeChar c ++ bytes) = c :: ofUtf8LossyFrom none bytes := by
  have hc := toNat_valid c
  have e : Char.ofNat c.val.toNat = c := Char.ofNat_toNat c
  revert hc e
  unfold String.utf8EncodeChar
  generalize c.val.toNat = v
  intro hc e
  dsimp only
  split
  -- one byte
  · rw [List.singleton_append, ofUtf8LossyFrom_first (by omega) (readFirst_single (by omega)), e]
    rfl
  split
  -- two bytes
  · rw [List.cons_append, ofUtf8LossyFrom_first (by omega) (readFirst_two (by omega) (by omega)),
      List.nil_append, List.singleton_append,
      ofUtf8LossyFrom_next (by omega) (Pending.readNext_last (by omega) (by omega))]
    have h : v / 64 % 32 * 64 + (v % 64 + 128 - 128) = v := by omega
    rw [h, e]
    rfl
  split
  -- three bytes, of which the second excludes what two could hold and the surrogates
  · rw [List.cons_append, ofUtf8LossyFrom_first (by omega) (readFirst_three (by omega)),
      List.nil_append, List.cons_append,
      ofUtf8LossyFrom_next (by omega)
        (Pending.readNext_inner (by split <;> omega) (by split <;> omega)),
      List.nil_append, List.singleton_append,
      ofUtf8LossyFrom_next (by omega) (Pending.readNext_last (by omega) (by omega))]
    have h : (v / 4096 % 16 * 64 + (v / 64 % 64 + 128 - 128)) * 64 + (v % 64 + 128 - 128) = v := by
      omega
    rw [h, e]
    rfl
  -- four bytes, of which the second excludes what three could hold and what is too large
  · rw [List.cons_append, ofUtf8LossyFrom_first (by omega) (readFirst_four (by omega)),
      List.nil_append, List.cons_append,
      ofUtf8LossyFrom_next (by omega)
        (Pending.readNext_inner (by split <;> omega) (by split <;> omega)),
      List.nil_append, List.cons_append,
      ofUtf8LossyFrom_next (by omega) (Pending.readNext_inner (by omega) (by omega)),
      List.nil_append, List.singleton_append,
      ofUtf8LossyFrom_next (by omega) (Pending.readNext_last (by omega) (by omega))]
    have h : ((v / 262144 % 8 * 64 + (v / 4096 % 64 + 128 - 128)) * 64
        + (v / 64 % 64 + 128 - 128)) * 64 + (v % 64 + 128 - 128) = v := by
      omega
    rw [h, e]
    rfl

/-- The bytes of a text are read as that text. -/
@[simp] theorem ofUtf8Lossy_utf8 (s : List Char) : ofUtf8Lossy (utf8 s) = s := by
  unfold ofUtf8Lossy utf8
  induction s with
  | nil => rfl
  | cons c s ih => rw [List.flatMap_cons, ofUtf8LossyFrom_utf8EncodeChar, ih]

/-- The bytes of a text are those of its string. -/
lemma toByteArray_utf8 (s : List Char) :
    (⟨(utf8 s).toArray⟩ : ByteArray) = (String.ofList s).toByteArray := by
  rw [String.toByteArray_ofList]
  exact ByteArray.ext (by simp [utf8, List.utf8Encode])

/-- The bytes of a text are those of a text. -/
@[simp] theorem ofUtf8?_utf8 (s : List Char) : ofUtf8? (utf8 s) = some s := by
  have valid : (String.ofList s).toByteArray.IsValidUTF8 := (String.ofList s).isValidUTF8
  have h : String.fromUTF8? (String.ofList s).toByteArray = some (String.ofList s) := by
    unfold String.fromUTF8?
    rw [dif_pos valid]
    rfl
  unfold ofUtf8?
  rw [toByteArray_utf8, h, Option.map_some, String.toList_ofList]

/-- No other bytes are those of it. -/
lemma utf8_of_ofUtf8? {bytes : List UInt8} {s : List Char} (h : ofUtf8? bytes = some s) :
    utf8 s = bytes := by
  obtain ⟨text, read, rfl⟩ := Option.map_eq_some_iff.1 h
  unfold String.fromUTF8? at read
  split at read
  · cases read
    have same := toByteArray_utf8 (String.fromUTF8 ⟨bytes.toArray⟩ (by assumption)).toList
    rw [String.ofList_toList] at same
    exact List.toArray_inj (ByteArray.mk.inj same)
  · cases read

end PackageFinder.Text
