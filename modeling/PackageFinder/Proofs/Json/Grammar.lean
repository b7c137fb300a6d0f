import PackageFinder.Json.Reader
import PackageFinder.Proofs.Decimal.Reading

/-!
# What a JSON text is

The grammar of JSON texts, as relations between what a text starts with and what is left of it. A tree
is what a text spells; it keeps its numbers as they are spelt. What the reader makes of a tree is a
value, unless a number of it is too large.
-/

namespace PackageFinder.Json
open Decimal (IsDigits Exponent digitsValue)

/-! ## Trees -/

/-- A number as it is spelt: a sign, digits, digits after a point, and an exponent. -/
structure Numeral where
  negative : Bool
  whole : List Char
  places : Option (List Char)
  tail : List Char
  power : ℤ
  digits : IsDigits whole
  nonempty : whole ≠ []
  no_zero : whole.head? = some '0' → whole = ['0']
  places_digits : ∀ p ∈ places, IsDigits p ∧ p ≠ []
  exponent : Exponent tail power

namespace Numeral
variable (n : Numeral)

/-- The point and the digits after it. -/
def fraction : List Char :=
  match n.places with
  | none => []
  | some p => '.' :: p

/-- The number without its sign. -/
def unsigned : List Char := n.whole ++ (n.fraction ++ n.tail)

/-- The number. -/
def text : List Char := if n.negative then '-' :: n.unsigned else n.unsigned

/-- How far it is from zero. -/
def magnitude : ℚ :=
  digitsValue (n.whole ++ n.places.getD []) * 10 ^ (n.power - (n.places.getD []).length)

/-- The digits that are kept, as a number, and its power of ten without the exponent. -/
def kept : ℕ × ℤ :=
  let (m, k, _) := takeFitting 0 n.whole
  let dropped : ℤ := n.whole.length - k
  match n.places with
  | none => (m, dropped)
  | some p =>
    let (m, k, _) := takeFitting m p
    (m, dropped - k)

/-- What is made of digits, a power of ten and an exponent: a double, if there is one. -/
def scaled? (negative : Bool) (digits : ℕ) (power exponent : ℤ) : Option Number :=
  if exponentBound < exponent.natAbs then
    if digits ≠ 0 ∧ 0 < exponent then none else some (.double (.ofMagnitude negative 0))
  else (double? digits (power + exponent)).map fun x => .double (if negative then x.negate else x)

/-- What is made of digits alone: themselves if they fit, and a double otherwise. -/
def ofDigits (negative : Bool) (digits : ℕ) : Number :=
  match whole? negative digits with
  | some k => .whole k
  | none => .double (Binary64.nearest false digits 1).negate

/-- What becomes of the number: itself if it is whole and fits, and a double otherwise. -/
def number? : Option Number :=
  if n.places = none ∧ n.tail = [] ∧ n.kept.2 = 0 then some (ofDigits n.negative n.kept.1)
  else scaled? n.negative n.kept.1 n.kept.2 n.power

end Numeral

/-- What a JSON text spells. -/
inductive Tree where
  | null
  | bool (b : Bool)
  | number (n : Numeral)
  | text (s : String)
  | list (items : List Tree)
  | object (members : List (String × Tree))

mutual

/-- How many lists and objects stand inside one another. -/
def Tree.depth : Tree → ℕ
  | .list items => itemsDepth items + 1
  | .object members => membersDepth members + 1
  | _ => 0

/-- The depth of the deepest item. -/
def itemsDepth : List Tree → ℕ
  | [] => 0
  | t :: ts => max t.depth (itemsDepth ts)

/-- The depth of the deepest member. -/
def membersDepth : List (String × Tree) → ℕ
  | [] => 0
  | (_, t) :: ms => max t.depth (membersDepth ms)

end

mutual

/-- The numbers of a tree. -/
def Tree.numerals : Tree → List Numeral
  | .number n => [n]
  | .list items => itemsNumerals items
  | .object members => membersNumerals members
  | _ => []

/-- The numbers of some items. -/
def itemsNumerals : List Tree → List Numeral
  | [] => []
  | t :: ts => t.numerals ++ itemsNumerals ts

/-- The numbers of some members. -/
def membersNumerals : List (String × Tree) → List Numeral
  | [] => []
  | (_, t) :: ms => t.numerals ++ membersNumerals ms

end

mutual

/-- The value of a tree, if none of its numbers is too large. -/
def Tree.value? : Tree → Option Value
  | .null => some .null
  | .bool b => some (.bool b)
  | .number n => n.number?.map .number
  | .text s => some (.text s)
  | .list items => (itemsValue? items).map .list
  | .object members => (membersValue? members).map .object

/-- The values of some items. -/
def itemsValue? : List Tree → Option (List Value)
  | [] => some []
  | t :: ts => t.value?.bind fun v => (itemsValue? ts).map (v :: ·)

/-- The values of some members. -/
def membersValue? : List (String × Tree) → Option (List (String × Value))
  | [] => some []
  | (key, t) :: ms => t.value?.bind fun v => (membersValue? ms).map ((key, v) :: ·)

end

/-- The last member of a key. -/
inductive Tree.Last (key : String) : Tree → Tree → Prop
  | mk {before t after} : (∀ m ∈ after, m.1 ≠ key) →
    Tree.Last key (.object (before ++ (key, t) :: after)) t

/-! ## Texts -/

/-- Blanks. -/
inductive Blanks : List Char → List Char → Prop
  | nil {s} : Blanks s s
  | cons {c s r} : isBlank c = true → Blanks s r → Blanks (c :: s) r

/-- What stands for a character after a backslash: a letter, its number, or the two numbers that make
it up. -/
inductive Escape : Char → List Char → List Char → Prop
  | letter {l c r} : letterEscape? l = some c → Escape c (l :: r) r
  | number {a b c d n r} : hexFour? a b c d = some n → isLeading n = false → isTrailing n = false →
    Escape (Char.ofNat n) ('u' :: a :: b :: c :: d :: r) r
  | pair {a b c d n a' b' c' d' m r} : hexFour? a b c d = some n → isLeading n = true →
    hexFour? a' b' c' d' = some m → isTrailing m = true →
    Escape (joinPair n m) ('u' :: a :: b :: c :: d :: '\\' :: 'u' :: a' :: b' :: c' :: d' :: r) r

/-- What stands after the opening quote of a string. -/
inductive Quoted : List Char → List Char → List Char → Prop
  | close {r} : Quoted [] ('"' :: r) r
  | plain {c t s r} : c ≠ '"' → c ≠ '\\' → isControl c = false → Quoted t s r →
    Quoted (c :: t) (c :: s) r
  | escape {c t s s₁ r} : Escape c s s₁ → Quoted t s₁ r → Quoted (c :: t) ('\\' :: s) r

/-- What stands in a text: a value, the items of a list up to its bracket, or the members of an object
up to its brace. -/
inductive Part where
  | value (t : Tree)
  | items (ts : List Tree)
  | members (ms : List (String × Tree))

/-- What a text starts with, and what is left of it. -/
inductive Starts : Part → List Char → List Char → Prop
  | null {r} : Starts (.value .null) ("null".toList ++ r) r
  | yes {r} : Starts (.value (.bool true)) ("true".toList ++ r) r
  | no {r} : Starts (.value (.bool false)) ("false".toList ++ r) r
  | number {n r} : Starts (.value (.number n)) (n.text ++ r) r
  | text {t s r} : Quoted t s r → Starts (.value (.text (String.ofList t))) ('"' :: s) r
  | emptyList {s r} : Blanks s (']' :: r) → Starts (.value (.list [])) ('[' :: s) r
  | list {ts s s₁ r} : Blanks s s₁ → Starts (.items ts) s₁ r → Starts (.value (.list ts)) ('[' :: s) r
  | lastItem {t s s₁ r} : Starts (.value t) s s₁ → Blanks s₁ (']' :: r) → Starts (.items [t]) s r
  | nextItem {t ts s s₁ s₂ s₃ r} : Starts (.value t) s s₁ → Blanks s₁ (',' :: s₂) → Blanks s₂ s₃ →
    Starts (.items ts) s₃ r → Starts (.items (t :: ts)) s r
  | emptyObject {s r} : Blanks s ('}' :: r) → Starts (.value (.object [])) ('{' :: s) r
  | object {ms s s₁ r} : Blanks s s₁ → Starts (.members ms) s₁ r →
    Starts (.value (.object ms)) ('{' :: s) r
  | lastMember {key t s s₁ s₂ s₃ s₄ r} : Quoted key s s₁ → Blanks s₁ (':' :: s₂) → Blanks s₂ s₃ →
    Starts (.value t) s₃ s₄ → Blanks s₄ ('}' :: r) →
    Starts (.members [(String.ofList key, t)]) ('"' :: s) r
  | nextMember {key t ms s s₁ s₂ s₃ s₄ s₅ s₆ r} : Quoted key s s₁ → Blanks s₁ (':' :: s₂) →
    Blanks s₂ s₃ → Starts (.value t) s₃ s₄ → Blanks s₄ (',' :: s₅) → Blanks s₅ s₆ →
    Starts (.members ms) s₆ r → Starts (.members ((String.ofList key, t) :: ms)) ('"' :: s) r

/-- A text of a tree: the tree between blanks. -/
def IsText (t : Tree) (s : List Char) : Prop :=
  ∃ s₁ s₂, Blanks s s₁ ∧ Starts (.value t) s₁ s₂ ∧ Blanks s₂ []

end PackageFinder.Json
