import PackageFinder.Decimal.Reading
import PackageFinder.Json.Fault
import PackageFinder.Json.Value

/-!
# Numbers of JSON texts

A whole number that fits 64 bits is kept as it is.  Any other number becomes a double: of its
digits as many are kept as fit 64 bits, and the number that they form, rounded to a double, is
multiplied or divided by a power of ten, with one more rounding.
-/

namespace PackageFinder.Json
open PackageFinder.Decimal (digit? takeSign)

/-- Reads digits onto `n` as long as the number stays below `2 ^ 64`; also gives their count. -/
def takeFitting (n : Nat) : List Char → Nat × Nat × List Char
  | [] => (n, 0, [])
  | c :: s => match digit? c with
    | none => (n, 0, c :: s)
    | some d =>
      if n * 10 + d < UInt64.size then
        let (m, k, r) := takeFitting (n * 10 + d) s
        (m, k + 1, r)
      else (n, 0, c :: s)

/-- The text after its digits, and their count. -/
def dropDigits : List Char → Nat × List Char
  | [] => (0, [])
  | c :: s =>
    if c.isDigit then
      let (k, r) := dropDigits s
      (k + 1, r)
    else (0, c :: s)

/-- Whether a text starts with a digit. -/
def startsWithDigit : List Char → Bool
  | c :: _ => c.isDigit
  | [] => false

/-- The double nearest to a power of ten. -/
def tenTo (k : Nat) : Binary64 := .nearest false (Nat.pow 10 k) 1

/-- Divides by a power of ten, in steps of at most 308 places, until nothing is left. -/
def divideByTenTo (x : Binary64) (k : Nat) : Binary64 :=
  if k ≤ 308 then x.dividedBy (tenTo k)
  else if x.isZero then x
  else divideByTenTo (x.dividedBy (tenTo 308)) (k - 308)
termination_by k

/-- The double of digits and a power of ten; `none` beyond the largest one. -/
def double? (digits : Nat) (power : Int) : Option Binary64 :=
  let x := Binary64.nearest false digits 1
  if power < 0 then some (divideByTenTo x (-power).toNat)
  else if digits = 0 then some x
  else if power ≤ 308 then
    let y := x.times (tenTo power.toNat)
    if y.isFinite then some y else none
  else none

/-- Finishes a number whose text has been read. -/
def finishDouble (negative : Bool) (digits : Nat) (power : Int) (s : List Char) :
    Except Stop (Number × List Char) :=
  match double? digits power with
  | some x => .ok (.double (if negative then x.negate else x), s)
  | none => stopAt .numberTooLarge s

/-- The largest exponent that is computed with. -/
def exponentBound : Nat := (1 <<< 31) - 1

/-- Reads digits onto an exponent; beyond the bound it gives `none` and what follows the digit
that went too far. -/
def takeExponent (x : Nat) : List Char → Option Nat × List Char
  | [] => (some x, [])
  | c :: s => match digit? c with
    | none => (some x, c :: s)
    | some d => if x * 10 + d ≤ exponentBound then takeExponent (x * 10 + d) s else (none, s)

/-- Reads an exponent after its letter and finishes the number. -/
def readExponent (negative : Bool) (digits : Nat) (power : Int) (s : List Char) :
    Except Stop (Number × List Char) :=
  let (down, s) := takeSign s
  match s with
  | [] => stopAt .endInValue []
  | c :: r =>
    if c.isDigit then
      match takeExponent 0 (c :: r) with
      | (some x, r) => finishDouble negative digits (if down then power - x else power + x) r
      | (none, r) =>
        if digits ≠ 0 ∧ !down then stopAt .numberTooLarge r
        else .ok (.double (.ofMagnitude negative 0), (dropDigits r).2)
    else stopOn .badNumber (c :: r)

/-- Reads the exponent of a number, if it has one, and finishes the number. -/
def readPower (negative : Bool) (digits : Nat) (power : Int) (s : List Char) :
    Except Stop (Number × List Char) :=
  match s with
  | 'e' :: r => readExponent negative digits power r
  | 'E' :: r => readExponent negative digits power r
  | r => finishDouble negative digits power r

/-- Reads the digits after the point and what follows them. -/
def readFraction (negative : Bool) (digits : Nat) (power : Int) (s : List Char) :
    Except Stop (Number × List Char) :=
  let (n, k, r) := takeFitting digits s
  if startsWithDigit r then readPower negative n (power - k) (dropDigits r).2
  else if k = 0 then
    match r with
    | [] => stopAt .endInValue []
    | r => stopOn .badNumber r
  else readPower negative n (power - k) r

/-- A whole number, if 64 bits can hold it: negative ones have a sign bit, and there is no
negative zero. -/
def whole? (negative : Bool) (n : Nat) : Option Int :=
  if !negative then some n
  else if n ≠ 0 ∧ n ≤ 1 <<< 63 then some (-n)
  else none

/-- Finishes a number that has no point. -/
def finishWhole (negative : Bool) (n dropped : Nat) (s : List Char) :
    Except Stop (Number × List Char) :=
  if dropped = 0 ∧ !(s.head? = some 'e' || s.head? = some 'E') then
    match whole? negative n with
    | some k => .ok (.whole k, s)
    | none => .ok (.double ((Binary64.nearest false n 1).negate), s)
  else readPower negative n dropped s

/-- Reads what follows the digits before the point. -/
def readAfterWhole (negative : Bool) (n dropped : Nat) : List Char → Except Stop (Number × List Char)
  | '.' :: s => readFraction negative n dropped s
  | s => finishWhole negative n dropped s

/-- Reads a number after its sign. -/
def readNumber (negative : Bool) (s : List Char) : Except Stop (Number × List Char) :=
  match s with
  | [] => stopAt .endInValue []
  | c :: r =>
    if !c.isDigit then stopOn .badNumber (c :: r)
    else if c = '0' ∧ startsWithDigit r then stopOn .badNumber r
    else
      let (n, _, r) := takeFitting 0 (c :: r)
      let (dropped, r) := dropDigits r
      readAfterWhole negative n dropped r

end PackageFinder.Json
