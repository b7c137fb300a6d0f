import PackageFinder.Text.Affix
import PackageFinder.Text.Digit
import PackageFinder.Text.Utf8

/-!
# Percent signs

Bytes that may not stand in an address are written as a percent sign and two hexadecimal digits.
Which ones those are depends on the part of the address.
-/

namespace PackageFinder.Url

/-- A hexadecimal digit in capitals. -/
def capitalDigit (n : Nat) : Char := (Nat.digitChar n).toUpper

/-- A byte as a percent sign and two digits. -/
def percentByte (b : UInt8) : List Char :=
  ['%', capitalDigit (b.toNat / 16), capitalDigit (b.toNat % 16)]

/-- One character, encoded if it is outside ASCII or among those that `bad` names. -/
def percentChar (bad : Char → Bool) (c : Char) : List Char :=
  if c.toNat < 0x80 && !bad c then [c] else (String.utf8EncodeChar c).flatMap percentByte

/-- A text, its bad characters encoded. -/
def percentEncode (bad : Char → Bool) (s : List Char) : List Char := s.flatMap (percentChar bad)

/-- The bytes of a text, its percent signs with two digits decoded. -/
def percentDecode : List Char → List UInt8
  | '%' :: a :: b :: s =>
    match Text.hexDigit? a, Text.hexDigit? b with
    | some m, some n => UInt8.ofNat (m * 16 + n) :: percentDecode s
    | _, _ => String.utf8EncodeChar '%' ++ percentDecode (a :: b :: s)
  | c :: s => String.utf8EncodeChar c ++ percentDecode s
  | [] => []

/-! ### The characters that are encoded -/

/-- Control characters. -/
def isControl (c : Char) : Bool := decide (c.toNat < 0x20) || c.toNat == 0x7F

/-- Whether a character is among those of a text. -/
def isAmong (cs : String) (c : Char) : Bool := cs.toList.contains c

/-- What is encoded in a fragment. -/
def fragmentBad (c : Char) : Bool := isControl c || isAmong " \"<>\x60" c

/-- What is encoded in a path. -/
def pathBad (c : Char) : Bool := fragmentBad c || isAmong "#?\x7b\x7d" c

/-- What is encoded in a user name or a password. -/
def userBad (c : Char) : Bool := pathBad c || isAmong "/:;=@[\\]^|" c

/-- What is encoded in a query. -/
def queryBad (c : Char) : Bool := isControl c || isAmong " \"#<>" c

/-- What is encoded in a query of a special scheme. -/
def specialQueryBad (c : Char) : Bool := queryBad c || c = '\''

end PackageFinder.Url
