import PackageFinder.Json.Fault
import PackageFinder.Text.Digit

/-!
# Blanks, words and strings of JSON texts

The readers here take one lexical item off the start of a text.  A string is read after its
opening quote; what comes back is the text that it stands for, with the escapes resolved.
-/

namespace PackageFinder.Json
open Text (hexDigit?)

/-- The four characters that may stand between items. -/
def isBlank (c : Char) : Bool := c = ' ' || c = '\n' || c = '\t' || c = '\r'

/-- The text after its blanks. -/
def skipBlanks (s : List Char) : List Char := s.dropWhile isBlank

/-- Reads the rest of a word. -/
def readWord : List Char → List Char → Except Stop (Unit × List Char)
  | [], s => .ok ((), s)
  | _ :: _, [] => stopAt .endInValue []
  | c :: w, d :: s => if c = d then readWord w s else stopOn .misspeltWord (d :: s)

/-- Four hexadecimal digits as a number. -/
def hexFour? (a b c d : Char) : Option Nat :=
  match hexDigit? a, hexDigit? b, hexDigit? c, hexDigit? d with
  | some a, some b, some c, some d => some (((a * 16 + b) * 16 + c) * 16 + d)
  | _, _, _, _ => none

/-- The fault of a text that does not start with four hexadecimal digits. -/
def notHex {α : Type} (s : List Char) : Except Stop α :=
  if byteCount s < 4 then stopAt .endInString [] else .error ⟨.badEscape, s, 4⟩

/-- Reads four hexadecimal digits. -/
def readHex : List Char → Except Stop (Nat × List Char)
  | a :: b :: c :: d :: r => match hexFour? a b c d with
    | some n => .ok (n, r)
    | none => notHex (a :: b :: c :: d :: r)
  | s => notHex s

/-- The first half of a surrogate pair. -/
def isLeading (n : Nat) : Bool := decide (0xD800 ≤ n) && decide (n ≤ 0xDBFF)

/-- The second half of a surrogate pair. -/
def isTrailing (n : Nat) : Bool := decide (0xDC00 ≤ n) && decide (n ≤ 0xDFFF)

/-- The character of a surrogate pair. -/
def joinPair (n m : Nat) : Char := Char.ofNat (0x10000 + (n - 0xD800) * 0x400 + (m - 0xDC00))

/-- Reads a character that has to follow the first half of a pair. -/
def readPairMark (c : Char) : List Char → Except Stop (Unit × List Char)
  | [] => stopAt .endInString []
  | d :: s => if d = c then .ok ((), s) else stopOn .unfinishedPair (d :: s)

/-- Reads the second half of a pair, with its backslash and its letter. -/
def readTrailing (n : Nat) (s : List Char) : Except Stop (Char × List Char) := do
  let (_, s) ← readPairMark '\\' s
  let (_, s) ← readPairMark 'u' s
  let (m, s) ← readHex s
  if isTrailing m then .ok (joinPair n m, s) else stopAt .loneSurrogate s

/-- Reads the digits of an escape by number, and of the one that completes its pair. -/
def readNumbered (s : List Char) : Except Stop (Char × List Char) := do
  let (n, s) ← readHex s
  if isTrailing n then stopAt .loneSurrogate s
  else if isLeading n then readTrailing n s
  else .ok (Char.ofNat n, s)

/-- What an escape of one letter stands for. -/
def letterEscape? : Char → Option Char
  | '"' => some '"'
  | '\\' => some '\\'
  | '/' => some '/'
  | 'b' => some '\x08'
  | 'f' => some '\x0c'
  | 'n' => some '\n'
  | 'r' => some '\r'
  | 't' => some '\t'
  | _ => none

/-- Reads an escape after its backslash. -/
def readEscape : List Char → Except Stop (Char × List Char)
  | [] => stopAt .endInString []
  | c :: s =>
    if c = 'u' then readNumbered s
    else match letterEscape? c with
      | some d => .ok (d, s)
      | none => stopOn .badEscape (c :: s)

/-- Four digits are read off the text. -/
theorem length_of_readHex {s r : List Char} {n : Nat} (h : readHex s = .ok (n, r)) :
    r.length + 4 = s.length := by
  have hne (t : List Char) : (notHex t : Except Stop (Nat × List Char)) ≠ .ok (n, r) := by
    unfold notHex stopAt
    split <;> simp
  unfold readHex at h
  split at h
  · split at h
    · simp only [Except.ok.injEq, Prod.mk.injEq] at h
      simp [← h.2]
    · exact absurd h (hne _)
  · exact absurd h (hne _)

/-- A mark is read off the text. -/
theorem length_of_readPairMark {c : Char} {s r : List Char} {u : Unit}
    (h : readPairMark c s = .ok (u, r)) : r.length + 1 = s.length := by
  cases s with
  | nil => simp [readPairMark, stopAt] at h
  | cons d s =>
    by_cases hd : d = c
    · simp only [readPairMark, hd, if_true, Except.ok.injEq, Prod.mk.injEq] at h
      simp [← h.2]
    · simp [readPairMark, hd, stopOn] at h

/-- The second half of a pair is read off the text. -/
theorem length_of_readTrailing {n : Nat} {s r : List Char} {c : Char}
    (h : readTrailing n s = .ok (c, r)) : r.length < s.length := by
  unfold readTrailing at h
  cases h₁ : readPairMark '\\' s with
  | error e => simp [h₁, bind, Except.bind] at h
  | ok p₁ =>
    cases h₂ : readPairMark 'u' p₁.2 with
    | error e => simp [h₁, h₂, bind, Except.bind] at h
    | ok p₂ =>
      cases h₃ : readHex p₂.2 with
      | error e => simp [h₁, h₂, h₃, bind, Except.bind] at h
      | ok p₃ =>
        have e₁ := length_of_readPairMark h₁
        have e₂ := length_of_readPairMark h₂
        have e₃ := length_of_readHex h₃
        simp only [h₁, h₂, h₃, bind, Except.bind] at h
        split at h
        · simp only [Except.ok.injEq, Prod.mk.injEq] at h
          rw [← h.2]
          omega
        · simp [stopAt] at h

/-- An escape by number is read off the text. -/
theorem length_of_readNumbered {s r : List Char} {c : Char}
    (h : readNumbered s = .ok (c, r)) : r.length < s.length := by
  unfold readNumbered at h
  cases h₁ : readHex s with
  | error e => simp [h₁, bind, Except.bind] at h
  | ok p =>
    have e₁ := length_of_readHex h₁
    simp only [h₁, bind, Except.bind] at h
    split at h
    · simp [stopAt] at h
    · split at h
      · have := length_of_readTrailing h
        omega
      · simp only [Except.ok.injEq, Prod.mk.injEq] at h
        rw [← h.2]
        omega

/-- An escape is read off the text. -/
theorem length_of_readEscape {s r : List Char} {c : Char} (h : readEscape s = .ok (c, r)) :
    r.length < s.length := by
  cases s with
  | nil => simp [readEscape, stopAt] at h
  | cons d s =>
    simp only [readEscape] at h
    split at h
    · have := length_of_readNumbered h
      simp only [List.length_cons]
      omega
    · split at h
      · simp only [Except.ok.injEq, Prod.mk.injEq] at h
        simp [← h.2]
      · simp [stopOn] at h

/-- A character that may not stand in a string as it is. -/
def isControl (c : Char) : Bool := decide (c.toNat < 0x20)

/-- Reads a string after its opening quote. -/
def readString : List Char → Except Stop (List Char × List Char)
  | [] => stopAt .endInString []
  | c :: s =>
    if c = '"' then .ok ([], s)
    else if c = '\\' then
      match _h : readEscape s with
      | .error stop => .error stop
      | .ok (d, r) => match readString r with
        | .error stop => .error stop
        | .ok (t, r) => .ok (d :: t, r)
    else if isControl c then stopOn .controlCharacter (c :: s)
    else match readString s with
      | .error stop => .error stop
      | .ok (t, r) => .ok (c :: t, r)
termination_by s => s.length
decreasing_by
  · have := length_of_readEscape _h
    simp only [List.length_cons]
    omega
  · simp

end PackageFinder.Json
