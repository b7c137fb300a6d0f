import PackageFinder.Decimal.Shortest

/-!
# How doubles are written

Three notations over the same shortest digits: plain, which never uses an exponent and drops the
point of a whole number; pointed, which writes `.0` after a whole number; and compact, which is
pointed for numbers of moderate size and uses an exponent for the others.
-/

namespace PackageFinder.Decimal

/-- The digits of a number, as characters. -/
def digitChars (n : Nat) : List Char := Nat.toDigits 10 n

/-- The digits of a decimal without an exponent. -/
def Expansion.plain (d : Expansion) : String :=
  let ds := digitChars d.digits
  if 0 ≤ d.exponent then String.ofList (ds ++ List.replicate d.exponent.toNat '0')
  else
    let places := (-d.exponent).toNat
    if ds.length ≤ places then
      String.ofList ("0.".toList ++ List.replicate (places - ds.length) '0' ++ ds)
    else
      let whole := ds.length - places
      String.ofList (ds.take whole ++ '.' :: ds.drop whole)

/-- The digits of a decimal with one digit before the point and an exponent. -/
def Expansion.scientific (d : Expansion) : String :=
  let ds := digitChars d.digits
  let power : Int := d.exponent + ds.length - 1
  let mantissa := match ds with
    | [] => []
    | [c] => [c]
    | c :: r => c :: '.' :: r
  String.ofList mantissa ++ "e" ++ toString power

/-- Adds `.0` to the digits of a whole number. -/
def Expansion.pointed (d : Expansion) : String :=
  if 0 ≤ d.exponent then d.plain ++ ".0" else d.plain

/-- Without an exponent from `0.00001` up to sixteen digits before the point. -/
def Expansion.compact (d : Expansion) : String :=
  let power : Int := d.exponent + (digitChars d.digits).length
  if -5 < power ∧ power ≤ 16 then d.pointed else d.scientific

end PackageFinder.Decimal

namespace PackageFinder.Binary64

/-- Writes a double: the three special values and zero by their texts, any other by its shortest
decimal. -/
def write (infinite nan zero : String) (tie : Decimal.Tie) (decimal : Decimal.Expansion → String)
    (x : Binary64) : String :=
  match x.view with
  | .nan => nan
  | .infinite negative => (if negative then "-" else "") ++ infinite
  | .finite negative m e =>
    (if negative then "-" else "")
      ++ (if m = 0 then zero else decimal (Decimal.shortest tie m e))

/-- Never an exponent, and no point in a whole number. -/
def plain (x : Binary64) : String := x.write "inf" "NaN" "0" .upper Decimal.Expansion.plain

/-- Never an exponent, and `.0` after a whole number. -/
def pointed (x : Binary64) : String := x.write "inf" "NaN" "0.0" .upper Decimal.Expansion.pointed

/-- An exponent for very large and very small numbers, and `.0` after a whole number. -/
def compact (x : Binary64) : String := x.write "inf" "NaN" "0.0" .even Decimal.Expansion.compact

end PackageFinder.Binary64
