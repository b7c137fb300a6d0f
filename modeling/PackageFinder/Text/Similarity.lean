/-!
# Similar words

How alike two words are, from nothing in common to equal, as a fraction.  Characters count as
common if they are equal and not far apart; common characters in another order count half.
-/

namespace PackageFinder.Text

/-- A fraction. -/
structure Fraction where
  /-- What is divided. -/
  numerator : Nat
  /-- By what it is divided. -/
  denominator : Nat
  deriving DecidableEq, Repr

/-- Whether one fraction is less than another. -/
def Fraction.isLess (a b : Fraction) : Bool :=
  decide (a.numerator * b.denominator < b.numerator * a.denominator)

/-- Finds `c` in the positions from `low` to below `high` of a word, of which `i` is the first
one that is left, and marks it as taken. -/
def claim (c : Char) (low high : Nat) : Nat → List (Char × Bool) → Option (List (Char × Bool))
  | _, [] => none
  | i, (x, taken) :: r =>
    if low ≤ i ∧ i < high ∧ x = c ∧ !taken then some ((x, true) :: r)
    else (claim c low high (i + 1) r).map ((x, taken) :: ·)

/-- The characters of a word that are common with another, and the other with those taken. -/
def commonFrom (range : Nat) : Nat → List Char → List (Char × Bool) →
    List Char × List (Char × Bool)
  | _, [], other => ([], other)
  | i, c :: s, other =>
    match claim c (i - range) (i + range + 1) 0 other with
    | some other =>
      let (common, other) := commonFrom range (i + 1) s other
      (c :: common, other)
    | none => commonFrom range (i + 1) s other

/-- How alike two words are. -/
def similarity (a b : List Char) : Fraction :=
  let range := max a.length b.length / 2 - 1
  let (common, other) := commonFrom range 0 a (b.map (·, false))
  let taken := (other.filter (·.2)).map (·.1)
  let moved := ((common.zip taken).filter fun (x, y) => x ≠ y).length / 2
  let m := common.length
  if a = [] ∧ b = [] then ⟨1, 1⟩
  else if m = 0 then ⟨0, 1⟩
  else
    ⟨m * m * b.length + m * m * a.length + (m - moved) * a.length * b.length,
      3 * m * a.length * b.length⟩

/-- The word that is most like `s`, if one is more alike than the threshold; the last of several. -/
def closest? (threshold : Fraction) (s : List Char) : List String → Option String
  | [] => none
  | w :: ws =>
    let here := similarity s w.toList
    let rest := closest? threshold s ws
    if !threshold.isLess here then rest
    else match rest with
      | some best => if (similarity s best.toList).isLess here then some w else some best
      | none => some w

end PackageFinder.Text
