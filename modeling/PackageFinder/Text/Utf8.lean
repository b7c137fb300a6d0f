/-!
# Bytes of texts

The bytes of a text, and two ways back: `ofUtf8?` wants the bytes of a text, `ofUtf8Lossy` takes any
bytes.  The latter reads byte by byte.  Where the bytes stop being those of a character, what has
been read of it becomes one replacement character, and the byte that did not fit starts anew.
-/

namespace PackageFinder.Text

/-- The bytes of a text. -/
def utf8 (s : List Char) : List UInt8 := s.flatMap String.utf8EncodeChar

/-- The text of some bytes, if they are one. -/
def ofUtf8? (bytes : List UInt8) : Option (List Char) :=
  (String.fromUTF8? ⟨bytes.toArray⟩).map (·.toList)

/-- What stands for bytes that form no character. -/
def replacement : Char := '\uFFFD'

/-- A character of which not every byte has been read. -/
structure Pending where
  /-- How many bytes are missing. -/
  missing : Nat
  /-- The least byte that can be next. -/
  low : Nat
  /-- The greatest one. -/
  high : Nat
  /-- The number that the bytes so far form. -/
  bits : Nat

/-- The character that a byte starts, if it has more bytes.  Encodings that are longer than need be,
halves of surrogate pairs and numbers beyond the last character are excluded by the second byte. -/
def Pending.ofFirst? (b : Nat) : Option Pending :=
  if b < 0xC2 then none
  else if b ≤ 0xDF then some ⟨1, 0x80, 0xBF, b - 0xC0⟩
  else if b ≤ 0xEF then
    some ⟨2, if b = 0xE0 then 0xA0 else 0x80, if b = 0xED then 0x9F else 0xBF, b - 0xE0⟩
  else if b ≤ 0xF4 then
    some ⟨3, if b = 0xF0 then 0x90 else 0x80, if b = 0xF4 then 0x8F else 0xBF, b - 0xF0⟩
  else none

/-- Reads a byte between two characters: the text that it completes, and what it begins. -/
def readFirst (b : Nat) : List Char × Option Pending :=
  if b < 0x80 then ([Char.ofNat b], none)
  else match Pending.ofFirst? b with
    | some p => ([], some p)
    | none => ([replacement], none)

/-- Reads a byte inside a character. -/
def Pending.readNext (p : Pending) (b : Nat) : List Char × Option Pending :=
  if p.low ≤ b ∧ b ≤ p.high then
    let bits := p.bits * 64 + (b - 0x80)
    if p.missing = 1 then ([Char.ofNat bits], none)
    else ([], some ⟨p.missing - 1, 0x80, 0xBF, bits⟩)
  else
    let (s, q) := readFirst b
    (replacement :: s, q)

/-- Reads the bytes that follow the ones of a pending character, if there is one. -/
def ofUtf8LossyFrom : Option Pending → List UInt8 → List Char
  | none, [] => []
  | some _, [] => [replacement]
  | none, b :: bytes =>
    let (s, q) := readFirst b.toNat
    s ++ ofUtf8LossyFrom q bytes
  | some p, b :: bytes =>
    let (s, q) := p.readNext b.toNat
    s ++ ofUtf8LossyFrom q bytes

/-- The text of some bytes, with replacements where they are none. -/
def ofUtf8Lossy (bytes : List UInt8) : List Char := ofUtf8LossyFrom none bytes

end PackageFinder.Text
