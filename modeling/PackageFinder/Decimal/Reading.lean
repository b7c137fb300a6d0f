import PackageFinder.Decimal.Binary64
import PackageFinder.Text.Digit

/-!
# Numbers from text

Whole numbers and doubles as settings and environment variables spell them.  A whole number is
digits with an optional plus sign; a double is `inf`, `infinity` or `nan` in any case, or digits
with an optional point and an optional exponent, all with an optional sign.  Blanks and digit
separators are refused.
-/

namespace PackageFinder.Decimal

/-- The value of a decimal digit. -/
def digit? (c : Char) : Option Nat := if c.isDigit then some (c.toNat - 48) else none

/-- A number with one more digit of a base, if `c` is one. -/
def addDigit? (base : Nat) (acc : Option Nat) (c : Char) : Option Nat :=
  match acc, Text.hexDigit? c with
  | some n, some d => if d < base then some (n * base + d) else none
  | _, _ => none

/-- The number that a nonempty run of digits of a base stands for; every character counts. -/
def readBase? (base : Nat) : List Char → Option Nat
  | [] => none
  | cs => cs.foldl (addDigit? base) (some 0)

/-- What follows an optional plus sign. -/
def dropPlus : List Char → List Char
  | '+' :: r => r
  | r => r

/-- A whole number up to `bound`, with an optional plus sign. -/
def readNat? (bound : Nat) (s : List Char) : Option Nat :=
  (readBase? 10 (dropPlus s)).filter (· ≤ bound)

/-- The digits at the start of `s`, read onto `acc`, how many there are, and what follows. -/
def takeDigits (acc : Nat) : List Char → Nat × Nat × List Char
  | [] => (acc, 0, [])
  | c :: s => match digit? c with
    | some d =>
      let (n, k, r) := takeDigits (acc * 10 + d) s
      (n, k + 1, r)
    | none => (acc, 0, c :: s)

/-- The digits after a point, if there is one, read onto `whole`. -/
def takePlaces (whole : Nat) : List Char → Nat × Nat × List Char
  | '.' :: s => takeDigits whole s
  | s => (whole, 0, s)

/-- Whether a minus sign starts `s`, and what follows the optional sign. -/
def takeSign : List Char → Bool × List Char
  | '-' :: r => (true, r)
  | '+' :: r => (false, r)
  | r => (false, r)

/-- An exponent after its letter: an optional sign and at least one digit, up to the end. -/
def readExponent? (s : List Char) : Option Int :=
  let (negative, t) := takeSign s
  match takeDigits 0 t with
  | (n, k, []) => if k = 0 then none else some (if negative then -n else n)
  | _ => none

/-- What follows the digits of a number: nothing, or an exponent. -/
def readTail? : List Char → Option Int
  | [] => some 0
  | 'e' :: r | 'E' :: r => readExponent? r
  | _ => none

/-- Digits with an optional point and an optional exponent, as a whole number and a power of ten;
at least one digit stands before or after the point. -/
def readUnsigned? (s : List Char) : Option (Nat × Int) :=
  let (whole, k, r) := takeDigits 0 s
  let (n, places, r) := takePlaces whole r
  if k + places = 0 then none else (readTail? r).map fun x => (n, x - places)

/-- A double in any of its spellings. -/
def readDouble? (s : List Char) : Option Binary64 :=
  let (negative, t) := takeSign s
  let word := String.ofList (t.map Char.toLower)
  if word = "inf" ∨ word = "infinity" then some (.infinity negative)
  else if word = "nan" then some .notANumber
  else (readUnsigned? t).map fun (n, x) => .ofDecimal negative n x

end PackageFinder.Decimal
