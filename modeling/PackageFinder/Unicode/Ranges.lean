import Std.Data.HashMap

/-!
# Character tables

Properties of characters, as tables of code points.  A table is written as text, hexadecimal
numbers with blanks between them, and read once.
-/

namespace PackageFinder.Unicode

/-- The value of a lower-case hexadecimal digit; `none` for a character that separates numbers. -/
def hexDigit? (c : Char) : Option Nat :=
  let n := c.toNat
  if 0x30 ≤ n ∧ n ≤ 0x39 then some (n - 0x30)
  else if 0x61 ≤ n ∧ n ≤ 0x66 then some (n - 0x57)
  else none

/-- The numbers of a table's text. -/
def numbers (text : String) : List Nat :=
  let finish (acc : List Nat × Option Nat) := match acc.2 with
    | some n => n :: acc.1
    | none => acc.1
  let step (acc : List Nat × Option Nat) (c : Char) : List Nat × Option Nat :=
    match hexDigit? c, acc.2 with
    | some d, some n => (acc.1, some (n * 16 + d))
    | some d, none => (acc.1, some d)
    | none, _ => (finish acc, none)
  (finish (text.toList.foldl step ([], none))).reverse

/-- The numbers of a text, by threes. -/
def triples : List Nat → List (Nat × Nat × Nat)
  | a :: b :: c :: r => (a, b, c) :: triples r
  | _ => []

/-- Ranges of code points in ascending order, each with a value. -/
structure RangeMap where
  /-- First, last and value of each range. -/
  entries : Array (Nat × Nat × Nat)

namespace RangeMap

/-- Reads first, last and value of each range. -/
def ofText (text : String) : RangeMap := ⟨(triples (numbers text)).toArray⟩

/-- The value of the range that holds `n`, sought between the entries `lo` and `hi`. -/
def search (m : RangeMap) (n lo hi : Nat) : Option Nat :=
  if _h : lo < hi then
    let mid := (lo + hi) / 2
    match m.entries[mid]? with
    | none => none
    | some (first, last, value) =>
      if n < first then m.search n lo mid
      else if last < n then m.search n (mid + 1) hi
      else some value
  else none
termination_by hi - lo

/-- The value of the range that holds a character. -/
def find? (m : RangeMap) (c : Char) : Option Nat := m.search c.toNat 0 m.entries.size

end RangeMap

/-- A set of code points, as ranges in ascending order. -/
structure Ranges where
  /-- The ranges, all with the value 1. -/
  map : RangeMap

namespace Ranges

/-- The numbers of a text, by twos, as ranges. -/
def pairs : List Nat → List (Nat × Nat × Nat)
  | a :: b :: r => (a, b, 1) :: pairs r
  | _ => []

/-- Reads first and last of each range. -/
def ofText (text : String) : Ranges := ⟨⟨(pairs (numbers text)).toArray⟩⟩

/-- Whether a character is in the set. -/
def contains (s : Ranges) (c : Char) : Bool := (s.map.find? c).isSome

end Ranges

/-- Characters that stand for one other character. -/
structure Shifts where
  /-- The other character's code point. -/
  map : Std.HashMap Nat Nat

namespace Shifts

/-- The pairs of one row: every `step`-th code point from `first` to `last`. -/
def row (first last step target : Nat) : List (Nat × Nat) :=
  (List.range ((last - first) / step + 1)).map fun i => (first + i * step, target + i * step)

/-- The pairs of all rows. -/
def rows : List Nat → List (Nat × Nat)
  | a :: b :: c :: d :: r => row a b c d ++ rows r
  | _ => []

/-- Reads first, last, step and the first's other character of each row. -/
def ofText (text : String) : Shifts := ⟨.ofList (rows (numbers text))⟩

/-- What a character stands for. -/
def find? (m : Shifts) (c : Char) : Option Char := (m.map[c.toNat]?).map Char.ofNat

end Shifts

/-- Characters that stand for a text. -/
structure Replacements where
  /-- The text. -/
  map : Std.HashMap Nat (List Char)

namespace Replacements

/-- Reads rows of a character, a length and that many characters; `gone` is the fuel. -/
def rows : Nat → List Nat → List (Nat × List Char)
  | 0, _ => []
  | gone + 1, c :: n :: r => (c, (r.take n).map Char.ofNat) :: rows gone (r.drop n)
  | _ + 1, _ => []

/-- Reads the character, the length and the text of each row. -/
def ofText (text : String) : Replacements :=
  let ns := numbers text
  ⟨.ofList (rows ns.length ns)⟩

/-- What a character stands for. -/
def find? (m : Replacements) (c : Char) : Option (List Char) := m.map[c.toNat]?

end Replacements

/-- Characters made of two others. -/
structure Pairs where
  /-- The two parts of a character. -/
  parts : Std.HashMap Nat (Nat × Nat)
  /-- The character made of two parts. -/
  whole : Std.HashMap (Nat × Nat) Nat

namespace Pairs

/-- Reads rows of a character and its two parts. -/
def ofText (text : String) : Pairs :=
  let rows := triples (numbers text)
  ⟨.ofList rows, .ofList (rows.map fun (c, a, b) => ((a, b), c))⟩

end Pairs

end PackageFinder.Unicode
