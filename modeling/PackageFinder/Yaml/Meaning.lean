import PackageFinder.Decimal.Notation
import PackageFinder.Decimal.Reading
import PackageFinder.Mismatch
import PackageFinder.Text.Quoted
import PackageFinder.Text.Utf8
import PackageFinder.Yaml.Token

/-!
# What texts mean

A plain text can mean nothing, a truth value or a number.  A tag can say which of these a text has
to be, and a text in quotes means itself.
-/

namespace PackageFinder.Yaml
open Text (ticked)

/-- What a text means. -/
inductive Meaning where
  | null
  | bool (b : Bool)
  | whole (n : Int)
  | large (n : Int) (range : String)
  | double (x : Binary64)
  | text (s : String)
  deriving DecidableEq, Repr

/-- How a meaning is described. -/
def Meaning.describe : Meaning → String
  | null => "unit value"
  | bool b => "boolean " ++ ticked (toString b)
  | whole n => "integer " ++ ticked (toString n)
  | large n range => "integer " ++ ticked (toString n) ++ " as " ++ range
  | double x => "floating point " ++ ticked x.pointed
  | text s => "string " ++ Text.quoted s

/-! ### Spellings -/

/-- Whether a text is a word for nothing. -/
def isNullWord (s : String) : Bool := ["null", "Null", "NULL", "~"].contains s

/-- The truth value that a text spells. -/
def readBool? (s : String) : Option Bool :=
  if ["true", "True", "TRUE"].contains s then some true
  else if ["false", "False", "FALSE"].contains s then some false
  else none

/-- Whether a text has a zero before its other digits, so that it is no number. -/
def hasLeadingZero (s : List Char) : Bool :=
  match (Decimal.takeSign s).2 with
  | '0' :: c :: r => (c :: r).all Char.isDigit
  | _ => false

/-- The number that digits spell, after a mark of their base. -/
def readDigits? (s : List Char) : Option Nat :=
  match s with
  | '0' :: 'x' :: r => Decimal.readBase? 16 r
  | '0' :: 'o' :: r => Decimal.readBase? 8 r
  | '0' :: 'b' :: r => Decimal.readBase? 2 r
  | r => if hasLeadingZero r then none else Decimal.readBase? 10 r

/-- The whole number without a minus sign that a text spells. -/
def readUnsigned? (s : List Char) : Option Nat := readDigits? (Decimal.dropPlus s)

/-- The whole number with a minus sign that a text spells, without the sign. -/
def readNegated? : List Char → Option Nat
  | '-' :: r => readDigits? r
  | _ => none

/-- The double that a text spells. -/
def readFloat? (s : List Char) : Option Binary64 :=
  let unsigned := Decimal.dropPlus s
  if [".inf", ".Inf", ".INF"].contains (String.ofList unsigned) then some (.infinity false)
  else if ["-.inf", "-.Inf", "-.INF"].contains (String.ofList s) then some (.infinity true)
  else if [".nan", ".NaN", ".NAN"].contains (String.ofList s) then some .notANumber
  else if s.head? = some '+' ∧ (unsigned.head? = some '+' ∨ unsigned.head? = some '-') then none
  else (Decimal.readDouble? unsigned).filter (·.isFinite)

/-- The whole number that a text spells, if it has at most 128 bits. -/
def wholeMeaning? (s : List Char) : Option Meaning :=
  match readUnsigned? s with
  | some n =>
    if n < UInt64.size then some (.whole n)
    else if n < 1 <<< 128 then some (.large n "u128")
    else none
  | none => match readNegated? s with
    | some n =>
      if n ≤ 1 <<< 63 then some (.whole (-n))
      else if n ≤ 1 <<< 127 then some (.large (-n) "i128")
      else none
    | none => none

/-- What a plain text means. -/
def plainMeaning (s : String) : Meaning :=
  if s = "" ∨ isNullWord s then .null
  else match readBool? s with
    | some b => .bool b
    | none => match wholeMeaning? s.toList with
      | some m => m
      | none =>
        if hasLeadingZero s.toList then .text s
        else match readFloat? s.toList with
          | some x => .double x
          | none => .text s

/-! ### Tags -/

/-- The tag of a kind of values that is always known. -/
def standardTag (kind : String) : Tag := Text.utf8 ("tag:yaml.org,2002:" ++ kind).toList

/-- What a text with a tag means; or what the tag wants it to be, if it is not that. -/
def scalarMeaning (tag : Option Tag) (style : Style) (s : String) : Except String Meaning :=
  match tag with
  | none => .ok (if style = .plain then plainMeaning s else .text s)
  | some tag =>
    if tag = standardTag "bool" then match readBool? s with
      | some b => .ok (.bool b)
      | none => .error "a boolean"
    else if tag = standardTag "int" then match wholeMeaning? s.toList with
      | some m => .ok m
      | none => .error "an integer"
    else if tag = standardTag "float" then match readFloat? s.toList with
      | some x => .ok (.double x)
      | none => .error "a float"
    else if tag = standardTag "null" then
      if isNullWord s then .ok .null else .error "null"
    else if tag.head? = (Text.utf8 ['!']).head? ∧ style = .plain then .ok (plainMeaning s)
    else .ok (.text s)

end PackageFinder.Yaml
