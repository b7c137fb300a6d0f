import PackageFinder.Decimal.Binary64

/-!
# Shortest decimals

The shortest decimal that reads back as a double, and of the shortest the nearest; which of two
equally near ones is taken is for the caller to say.  The reals that round to `m * 2 ^ e` form an
interval, whose ends belong to it exactly when `m` is even.  For one digit, two digits and so on,
the two neighbours of the double on that decimal grid are tried; by seventeen digits one of them
lies in the interval.
-/

namespace PackageFinder.Decimal

/-- A decimal `digits * 10 ^ exponent`. -/
structure Expansion where
  /-- The digits, as one whole number. -/
  digits : Nat
  /-- The power of ten of the last digit. -/
  exponent : Int
  deriving DecidableEq, Repr

/-- Which of two equally near decimals is taken. -/
inductive Tie where
  /-- The greater. -/
  | upper
  /-- The one with the even last digit. -/
  | even
  deriving DecidableEq, Repr

/-- Whether `q` is taken when it is as near as `q + 1`. -/
def Tie.takes (tie : Tie) (q : Nat) : Bool :=
  match tie with
  | upper => false
  | even => q % 2 = 0

/-- The quotient `num * 10 ^ k / den` of whole numbers. -/
def scaleTen (num den : Nat) (k : Int) : Nat × Nat :=
  if 0 ≤ k then (num * Nat.pow 10 k.toNat, den) else (num, den * Nat.pow 10 (-k).toNat)

/-- The reals that round to a double, as fractions of one denominator. -/
structure Interval where
  /-- Numerator of the lower end. -/
  low : Nat
  /-- Numerator of the double itself. -/
  mid : Nat
  /-- Numerator of the upper end. -/
  high : Nat
  /-- The denominator of all three. -/
  den : Nat
  /-- Whether the ends belong to it. -/
  closed : Bool

/-- The reals that round to `m * 2 ^ e`.  Below a power of two the lower half-gap is half as
wide. -/
def Interval.around (m : Nat) (e : Int) : Interval :=
  let below := if m = 1 <<< 52 ∧ -1074 < e then 1 else 2
  let (f, den) := Binary64.scale 1 4 e
  { low := (4 * m - below) * f, mid := 4 * m * f, high := (4 * m + 2) * f, den := den,
    closed := m % 2 = 0 }

/-- Whether `c / 10 ^ k` lies in the interval. -/
def Interval.holds (i : Interval) (c : Nat) (k : Int) : Bool :=
  let (n, d) := if 0 ≤ k then (c, Nat.pow 10 k.toNat) else (c * Nat.pow 10 (-k).toNat, 1)
  let x := n * i.den
  if i.closed then i.low * d ≤ x && x ≤ i.high * d else i.low * d < x && x < i.high * d

/-- The better of the two neighbours on the grid of the multiples of `10 ^ -k`, if one is in the
interval; of two, the nearer. -/
def Interval.onGrid? (i : Interval) (tie : Tie) (k : Int) : Option Nat :=
  let (n, d) := scaleTen i.mid i.den k
  let q := n / d
  let r := n % d
  let lower := i.holds q k
  let upper := i.holds (q + 1) k
  let nearer := 2 * r < d || 2 * r = d && tie.takes q
  if lower && (!upper || nearer) then some q
  else if upper then some (q + 1)
  else none

/-- The number of digits before the point of `num / den`; negative for a fraction that starts with
zeros.  Right down to `10 ^ -400`. -/
def leadingPlace (num den : Nat) : Int :=
  (Nat.toDigits 10 (num * Nat.pow 10 400 / den)).length - 400

/-- Digits without the zeros at their end. -/
def trim : Nat → Nat → Int → Expansion
  | 0, c, x => ⟨c, x⟩
  | n + 1, c, x => if c % 10 = 0 then trim n (c / 10) (x + 1) else ⟨c, x⟩

/-- The first grid, from the coarsest, on which a neighbour lies in the interval. -/
def Interval.search (i : Interval) (tie : Tie) (place : Int) : Nat → Nat → Expansion
  | 0, _ => ⟨0, 0⟩
  | tries + 1, n =>
    match i.onGrid? tie (n - place) with
    | some c => trim 20 c (place - n)
    | none => i.search tie place tries (n + 1)

/-- The shortest decimal that reads back as `m * 2 ^ e`, where `m` is not zero. -/
def shortest (tie : Tie) (m : Nat) (e : Int) : Expansion :=
  let i := Interval.around m e
  i.search tie (leadingPlace i.mid i.den) 17 1

end PackageFinder.Decimal
