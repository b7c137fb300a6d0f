/-!
# Text after a fixed beginning

`after? p s` is what follows `p` in a text that begins with `p`.
-/

namespace PackageFinder.Text

/-- What follows `p` in `s`, when `s` begins with `p`. -/
def after? : List Char → List Char → Option (List Char)
  | [], s => some s
  | _ :: _, [] => none
  | c :: p, d :: s => if c = d then after? p s else none

/-- `after?` finds `r` exactly when `s` is `p` followed by `r`. -/
theorem after?_eq_some_iff {p s r : List Char} : after? p s = some r ↔ s = p ++ r := by
  induction p generalizing s with
  | nil => simp [after?]
  | cons c p ih =>
    cases s with
    | nil => simp [after?]
    | cons d s =>
      by_cases h : c = d
      · simp [after?, h, ih]
      · simp [after?, h, Ne.symm h]

/-- A text that begins with `p` goes on after it. -/
@[simp] theorem after?_append (p r : List Char) : after? p (p ++ r) = some r :=
  after?_eq_some_iff.2 rfl

/-- The text before the last occurrence of `c` and the text after it. -/
def splitLast? (c : Char) : List Char → Option (List Char × List Char)
  | [] => none
  | d :: s => match splitLast? c s with
    | some (l, r) => some (d :: l, r)
    | none => if d = c then some ([], s) else none

/-- The pieces of a text between the occurrences of `c`. -/
def splitAll (c : Char) : List Char → List (List Char)
  | [] => [[]]
  | d :: s =>
    if d = c then [] :: splitAll c s
    else match splitAll c s with
      | [] => [[d]]
      | p :: ps => (d :: p) :: ps

end PackageFinder.Text
