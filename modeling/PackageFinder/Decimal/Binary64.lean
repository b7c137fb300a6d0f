/-!
# Doubles

A double is its 64-bit word.  `view` gives the number that the word stands for, as a sign, a whole
number and a power of two; `nearest` gives the double nearest to a quotient of whole numbers.  All
arithmetic is on whole numbers, so every result is exact up to the one rounding it names.
-/

namespace PackageFinder

/-- A double, as its 64-bit word. -/
structure Binary64 where
  /-- Sign, exponent field and fraction field. -/
  bits : UInt64
  deriving DecidableEq, Repr

/-- `num / den` rounded to a whole number, a half going to the even neighbour. -/
def roundHalfEven (num den : Nat) : Nat :=
  let q := num / den
  let r := num % den
  if 2 * r < den then q
  else if den < 2 * r then q + 1
  else if q % 2 = 0 then q else q + 1

namespace Binary64

/-- What a word stands for. -/
inductive View where
  /-- Not a number. -/
  | nan
  /-- An infinity. -/
  | infinite (negative : Bool)
  /-- `significand * 2 ^ exponent`, negated or not. -/
  | finite (negative : Bool) (significand : Nat) (exponent : Int)
  deriving DecidableEq, Repr

/-- The word as a whole number. -/
def toNat (x : Binary64) : Nat := x.bits.toNat

/-- Whether the sign bit is set. -/
def isNegative (x : Binary64) : Bool := decide (1 <<< 63 ≤ x.toNat)

/-- The eleven bits of the exponent field. -/
def exponentField (x : Binary64) : Nat := (x.toNat >>> 52) % (1 <<< 11)

/-- The 52 bits of the fraction field. -/
def fractionField (x : Binary64) : Nat := x.toNat % (1 <<< 52)

/-- What the word stands for. -/
def view (x : Binary64) : View :=
  if x.exponentField = 2047 then
    if x.fractionField = 0 then .infinite x.isNegative else .nan
  else if x.exponentField = 0 then .finite x.isNegative x.fractionField (-1074)
  else .finite x.isNegative ((1 <<< 52) + x.fractionField) (x.exponentField - 1075)

/-- The word of a sign and the 63 other bits. -/
def ofMagnitude (negative : Bool) (magnitude : Nat) : Binary64 :=
  ⟨UInt64.ofNat (if negative then (1 <<< 63) + magnitude else magnitude)⟩

/-- The magnitude bits of the infinities. -/
def infiniteMagnitude : Nat := 2047 <<< 52

/-- An infinity. -/
def infinity (negative : Bool) : Binary64 := ofMagnitude negative infiniteMagnitude

/-- The one not-a-number that this library makes. -/
def notANumber : Binary64 := ofMagnitude false (infiniteMagnitude + (1 <<< 51))

/-- Whether the word stands for a number other than the infinities. -/
def isFinite (x : Binary64) : Bool :=
  match x.view with
  | .finite .. => true
  | _ => false

/-- Whether the word stands for zero. -/
def isZero (x : Binary64) : Bool :=
  match x.view with
  | .finite _ 0 _ => true
  | _ => false

/-- The same number with a minus sign. -/
def negate (x : Binary64) : Binary64 := ⟨x.bits ^^^ 0x8000000000000000⟩

/-- `num * 2 ^ e / den` as a quotient of whole numbers. -/
def scale (num den : Nat) (e : Int) : Nat × Nat :=
  if 0 ≤ e then (num <<< e.toNat, den) else (num, den <<< (-e).toNat)

/-- The power of two that is the last place of the doubles around `num / den`: 53 places are
kept, unless the least exponent forbids it. -/
def lastPlace (num den : Nat) : Int :=
  let e : Int := (num.log2 : Int) - den.log2 - 52
  let (n, d) := scale num den (-e)
  max (if n < d <<< 52 then e - 1 else e) (-1074)

/-- The magnitude bits of the double nearest to `num / den`, ties to the even neighbour; the
bits of infinity from half a place beyond the largest double on. -/
def nearestMagnitude (num den : Nat) : Nat :=
  if num = 0 then 0
  else
    let e := lastPlace num den
    let (n, d) := scale num den (-e)
    min (((e + 1074).toNat <<< 52) + roundHalfEven n d) infiniteMagnitude

/-- The double nearest to `num / den`, negated or not. -/
def nearest (negative : Bool) (num den : Nat) : Binary64 :=
  ofMagnitude negative (nearestMagnitude num den)

/-- The double nearest to `digits * 10 ^ exponent`.  Exponents far out of reach are decided by
the number of digits alone. -/
def ofDecimal (negative : Bool) (digits : Nat) (exponent : Int) : Binary64 :=
  if digits = 0 then ofMagnitude negative 0
  else
    let top : Int := exponent + (Nat.toDigits 10 digits).length
    if 400 < top then infinity negative
    else if top < -400 then ofMagnitude negative 0
    else if 0 ≤ exponent then nearest negative (digits * Nat.pow 10 exponent.toNat) 1
    else nearest negative digits (Nat.pow 10 (-exponent).toNat)

/-- The rounded product of two finite doubles of positive sign. -/
def times (x y : Binary64) : Binary64 :=
  match x.view, y.view with
  | .finite _ m e, .finite _ n f =>
    let (a, b) := scale (m * n) 1 (e + f)
    nearest false a b
  | _, _ => infinity false

/-- The rounded quotient of two finite doubles of positive sign, the second not zero. -/
def dividedBy (x y : Binary64) : Binary64 :=
  match x.view, y.view with
  | .finite _ m e, .finite _ n f =>
    let (a, b) := scale m n (e - f)
    nearest false a b
  | _, _ => infinity false

end Binary64

end PackageFinder
