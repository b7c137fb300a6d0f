import PackageFinder.Decimal.Binary64

/-!
# JSON values

What a JSON text stands for.  An object keeps its members in the order of the text, and a key may
occur more than once; looking a key up finds its last occurrence.
-/

namespace PackageFinder.Json

/-- A number: a whole one of 64 bits, with or without sign, or a double. -/
inductive Number where
  /-- From `-2 ^ 63` to `2 ^ 64 - 1`. -/
  | whole (n : Int)
  /-- Any other number, rounded. -/
  | double (x : Binary64)
  deriving DecidableEq, Repr

/-- What a JSON text stands for. -/
inductive Value where
  | null
  | bool (b : Bool)
  | number (n : Number)
  | text (s : String)
  | list (items : List Value)
  | object (members : List (String × Value))
  deriving Repr, Inhabited

/-- The value of the last occurrence of a key. -/
def lookup? {α : Type} (key : String) : List (String × α) → Option α
  | [] => none
  | (k, v) :: r => match lookup? key r with
    | some w => some w
    | none => if k = key then some v else none

namespace Value

/-- The member of an object that counts; other values have none. -/
def member? (v : Value) (key : String) : Option Value :=
  match v with
  | object members => lookup? key members
  | _ => none

/-- The text that a value is. -/
def text? : Value → Option String
  | text s => some s
  | _ => none

/-- The items of a list. -/
def items? : Value → Option (List Value)
  | list items => some items
  | _ => none

end Value

end PackageFinder.Json
