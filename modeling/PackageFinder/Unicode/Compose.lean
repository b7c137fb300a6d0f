import PackageFinder.Unicode.NormalTable

/-!
# Composed form

The composed normal form of a text: every character is taken apart, the marks after a letter are
put in order, and what can be joined is joined again.
-/

namespace PackageFinder.Unicode

/-- The combining class of a character. -/
def combiningClass (c : Char) : Nat :=
  if c.toNat < 0x300 then 0 else (combiningClasses.find? c).getD 0

/-- The parts of a Hangul syllable. -/
def syllableParts (n : Nat) : List Char :=
  let i := n - 0xAC00
  let tail := i % 28
  [Char.ofNat (0x1100 + i / 588), Char.ofNat (0x1161 + i % 588 / 28)]
    ++ if tail = 0 then [] else [Char.ofNat (0x11A7 + tail)]

/-- The parts of a character, down to the given depth. -/
def partsOf : Nat → Char → List Char
  | 0, c => [c]
  | depth + 1, c =>
    let n := c.toNat
    if n < 0xC0 then [c]
    else if 0xAC00 ≤ n ∧ n ≤ 0xD7A3 then syllableParts n
    else match singletonParts.find? c with
      | some d => partsOf depth d
      | none => match pairedParts.parts[n]? with
        | some (a, b) => partsOf depth (Char.ofNat a) ++ partsOf depth (Char.ofNat b)
        | none => [c]

/-- All characters of a text taken apart. -/
def takeApart (s : List Char) : List Char := s.flatMap (partsOf 8)

/-- Puts a character before a text whose marks are in order. -/
def insertMark (c : Char) : List Char → List Char
  | [] => [c]
  | d :: s =>
    if combiningClass d ≠ 0 ∧ combiningClass d < combiningClass c then d :: insertMark c s
    else c :: d :: s

/-- A text with the marks after each letter in the order of their classes. -/
def orderMarks (s : List Char) : List Char := s.foldr insertMark []

/-- The syllable of two parts. -/
def syllable? (a b : Nat) : Option Nat :=
  if 0x1100 ≤ a ∧ a ≤ 0x1112 ∧ 0x1161 ≤ b ∧ b ≤ 0x1175 then
    some (0xAC00 + ((a - 0x1100) * 21 + (b - 0x1161)) * 28)
  else if 0xAC00 ≤ a ∧ a ≤ 0xD7A3 ∧ (a - 0xAC00) % 28 = 0 ∧ 0x11A8 ≤ b ∧ b ≤ 0x11C2 then
    some (a + (b - 0x11A7))
  else none

/-- The character that two are joined to. -/
def join? (a b : Char) : Option Char :=
  match syllable? a.toNat b.toNat with
  | some n => some (Char.ofNat n)
  | none => match pairedParts.whole[(a.toNat, b.toNat)]? with
    | some n => if uncomposed.contains (Char.ofNat n) then none else some (Char.ofNat n)
    | none => none

/-- Joins what follows a letter; `held` are the marks between, the last first. -/
def joinAfter (letter : Char) (held : List Char) : List Char → List Char
  | [] => letter :: held.reverse
  | c :: s =>
    let k := combiningClass c
    let blocked := match held with
      | [] => false
      | m :: _ => decide (k ≤ combiningClass m)
    match if blocked then none else join? letter c with
    | some d => joinAfter d held s
    | none =>
      if k = 0 then letter :: held.reverse ++ joinAfter c [] s
      else joinAfter letter (c :: held) s

/-- Joins what can be joined. -/
def joinAll : List Char → List Char
  | [] => []
  | c :: s => if combiningClass c = 0 then joinAfter c [] s else c :: joinAll s

/-- The composed normal form. -/
def compose (s : List Char) : List Char :=
  if s.all (·.toNat < 0x300) then s else joinAll (orderMarks (takeApart s))

end PackageFinder.Unicode
