import PackageFinder.Text.Affix

/-!
# Punycode

How a label of any characters is written with letters, digits and hyphens only.  The characters of
ASCII stand first; each of the others, in ascending order, is an insertion told by the distance
from the one before, in digits whose weights adapt to the distances seen so far.
-/

namespace PackageFinder.Url.Punycode

/-- A digit below 36: the letters, then the decimal digits. -/
def digit (n : Nat) : Char := Char.ofNat (if n < 26 then 97 + n else 22 + n)

/-- The value of a digit. -/
def digit? (c : Char) : Option Nat :=
  let n := c.toNat
  if 97 ≤ n ∧ n ≤ 122 then some (n - 97)
  else if 65 ≤ n ∧ n ≤ 90 then some (n - 65)
  else if 48 ≤ n ∧ n ≤ 57 then some (n - 22)
  else none

/-- Digits below the threshold of their place end a number. -/
def threshold (place bias : Nat) : Nat := max 1 (min 26 (place - bias))

/-- How often a distance is divided, times 36, and what is left. -/
def settle (delta : Nat) (k : Nat) : Nat × Nat :=
  if 455 < delta then settle (delta / 35) (k + 36) else (k, delta)
termination_by delta
decreasing_by exact Nat.div_lt_self (by omega) (by omega)

/-- The bias after a distance. -/
def adapt (delta count : Nat) (first : Bool) : Nat :=
  let delta := if first then delta / 700 else delta / 2
  let (k, delta) := settle (delta + delta / count) 0
  k + 36 * delta / (delta + 38)

/-- Reads a number off the start of a text. -/
def readNumber (bias place weight acc : Nat) : List Char → Option (Nat × List Char)
  | [] => none
  | c :: s => match digit? c with
    | none => none
    | some d =>
      let t := threshold place bias
      if d < t then some (acc + d * weight, s)
      else readNumber bias (place + 36) (weight * (36 - t)) (acc + d * weight) s

/-- A number is read off the text. -/
theorem length_of_readNumber {bias place weight acc n : Nat} {s r : List Char}
    (h : readNumber bias place weight acc s = some (n, r)) : r.length < s.length := by
  induction s generalizing place weight acc with
  | nil => simp [readNumber] at h
  | cons c s ih =>
    simp only [readNumber] at h
    split at h
    · simp at h
    · split at h
      · simp only [Option.some.injEq, Prod.mk.injEq] at h
        simp [← h.2]
      · have := ih h
        simp only [List.length_cons]
        omega

/-- Makes the insertions that a text tells. -/
def insertAll (bias point index : Nat) (out : List Char) (s : List Char) : Option (List Char) :=
  match s with
  | [] => some out
  | c :: s =>
    match _h : readNumber bias 36 1 index (c :: s) with
    | none => none
    | some (next, r) =>
      let count := out.length + 1
      let point := point + next / count
      let place := next % count
      if point < 0xD800 ∨ (0xDFFF < point ∧ point < 0x110000) then
        insertAll (adapt (next - index) count (index = 0)) point (place + 1)
          (out.insertIdx place (Char.ofNat point)) r
      else none
termination_by s.length
decreasing_by exact length_of_readNumber _h

/-- The label that a text stands for. -/
def decode (s : List Char) : Option (List Char) :=
  match Text.splitLast? '-' s with
  | some (c :: basic, r) => insertAll 72 128 0 (c :: basic) r
  | _ => insertAll 72 128 0 [] s

/-- The thresholds are from 1 to 26. -/
theorem threshold_bounds (place bias : Nat) :
    1 ≤ threshold place bias ∧ threshold place bias ≤ 26 := by
  unfold threshold
  omega

/-- Writes a number. -/
def writeNumber (bias place n : Nat) : List Char :=
  let t := threshold place bias
  if n < t then [digit n]
  else digit (t + (n - t) % (36 - t)) :: writeNumber bias (place + 36) ((n - t) / (36 - t))
termination_by n
decreasing_by
  have h := threshold_bounds place bias
  calc (n - threshold place bias) / (36 - threshold place bias)
      ≤ n - threshold place bias := Nat.div_le_self _ _
    _ < n := by omega

/-- What has been written, and from where the next distance counts. -/
structure Progress where
  /-- The digits so far. -/
  out : List Char
  /-- The distance so far. -/
  delta : Nat
  /-- The bias of the next number. -/
  bias : Nat
  /-- How many characters have been told. -/
  told : Nat

/-- Goes over one character of the label while the character `point` is told. -/
def Progress.step (basic point : Nat) (p : Progress) (c : Char) : Progress :=
  if c.toNat < point then { p with delta := p.delta + 1 }
  else if c.toNat = point then
    { out := p.out ++ writeNumber p.bias 36 p.delta
      delta := 0
      bias := adapt p.delta (p.told + 1) (p.told = basic)
      told := p.told + 1 }
  else p

/-- Tells the characters of some code points, in ascending order. -/
def tell (label : List Char) (basic : Nat) : List Nat → Nat → Progress → Progress
  | [], _, p => p
  | point :: points, last, p =>
    let p := { p with delta := p.delta + (point - last) * (p.told + 1) }
    let p := label.foldl (Progress.step basic point) p
    tell label basic points (point + 1) { p with delta := p.delta + 1 }

/-- Puts a number into an ascending list without repetitions. -/
def insertPoint (n : Nat) : List Nat → List Nat
  | [] => [n]
  | m :: ms => if n < m then n :: m :: ms else if n = m then m :: ms else m :: insertPoint n ms

/-- The code points outside ASCII, in ascending order. -/
def points (label : List Char) : List Nat :=
  ((label.filter (0x80 ≤ ·.toNat)).map Char.toNat).foldr insertPoint []

/-- The text of a label. -/
def encode (label : List Char) : List Char :=
  let basic := label.filter (·.toNat < 0x80)
  let start : Progress := { out := [], delta := 0, bias := 72, told := basic.length }
  basic ++ (if basic.isEmpty then [] else ['-'])
    ++ (tell label basic.length (points label) 128 start).out

end PackageFinder.Url.Punycode
