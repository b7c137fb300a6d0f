import PackageFinder.Decimal.Reading
import PackageFinder.Text.Affix
import PackageFinder.Url.Percent

/-!
# Addresses of four bytes and of eight pieces

IPv4 addresses are read in all their spellings: one to four numbers, decimal, octal or hexadecimal,
the last one filling what is left.  IPv6 addresses are read with one gap of zeros and an IPv4 ending,
and written with the longest gap.
-/

namespace PackageFinder.Url.Address

/-- A part of an IPv4 address. -/
inductive Part where
  /-- A number below `2 ^ 32`. -/
  | number (n : Nat)
  /-- A number that is too large. -/
  | tooLarge
  /-- No number. -/
  | notNumber
  deriving DecidableEq

/-- Reads digits of a base, no digits being zero. -/
def readDigits (base : Nat) (s : List Char) : Part :=
  match s.foldl (Decimal.addDigit? base) (some 0) with
  | some n => if n < UInt32.size then .number n else .tooLarge
  | none => .notNumber

/-- Reads a part of an IPv4 address. -/
def readPart : List Char → Part
  | [] => .notNumber
  | '0' :: 'x' :: r => readDigits 16 r
  | '0' :: 'X' :: r => readDigits 16 r
  | '0' :: c :: r => readDigits 8 (c :: r)
  | s => readDigits 10 s

/-- The parts between the dots, without an empty one at the end. -/
def parts (s : List Char) : List (List Char) :=
  let ps := Text.splitAll '.' s
  if ps.getLast? = some [] then ps.dropLast else ps

/-- Whether a host is meant as an IPv4 address: its last part is a number. -/
def endsInNumber (s : List Char) : Bool :=
  match (parts s).getLast? with
  | some p =>
    (!p.isEmpty && p.all Char.isDigit) || (match readPart p with
      | .notNumber => false
      | _ => true)
  | none => false

/-- The address of its numbers, the first ones of one byte each. -/
def joinBytes (count : Nat) : List Nat → Option Nat
  | [] => none
  | [n] => if n < Nat.pow 256 (4 - count) then some n else none
  | n :: ns =>
    if n < 256 then (joinBytes (count + 1) ns).map (n * Nat.pow 256 (3 - count) + ·) else none

/-- Reads an IPv4 address. -/
def readFour (s : List Char) : Option Nat :=
  let ps := parts s
  let numbers := ps.mapM fun p => match readPart p with
    | .number n => some n
    | _ => none
  if 4 < ps.length then none
  else match numbers with
    | some ns => joinBytes 0 ns
    | none => none

/-- The decimal digits of a number. -/
def decimal (n : Nat) : List Char := Nat.toDigits 10 n

/-- Writes an IPv4 address. -/
def writeFour (n : Nat) : List Char :=
  decimal (n >>> 24) ++ '.' :: decimal ((n >>> 16) % 256) ++ '.' :: decimal ((n >>> 8) % 256)
    ++ '.' :: decimal (n % 256)

/-- Reads up to `room` hexadecimal digits; gives their value, their count and the rest. -/
def takeHex : Nat → Nat → List Char → Nat × Nat × List Char
  | 0, n, s => (n, 0, s)
  | _ + 1, n, [] => (n, 0, [])
  | room + 1, n, c :: s => match Text.hexDigit? c with
    | some d =>
      let (m, k, r) := takeHex room (n * 16 + d) s
      (m, k + 1, r)
    | none => (n, 0, c :: s)

/-- What is left is a part of the text. -/
theorem length_of_takeHex (room n : Nat) (s : List Char) :
    (takeHex room n s).2.2.length ≤ s.length := by
  induction room generalizing n s with
  | zero => simp [takeHex]
  | succ room ih =>
    cases s with
    | nil => simp [takeHex]
    | cons c s =>
      simp only [takeHex]
      split
      · exact Nat.le_succ_of_le (ih _ s)
      · simp

/-- A decimal byte without leading zeros. -/
def readByte (s : List Char) : Option Nat :=
  match s with
  | [] => none
  | ['0'] => some 0
  | '0' :: _ => none
  | s => match readDigits 10 s with
    | .number n => if n < 256 then some n else none
    | _ => none

/-- The two pieces of the IPv4 ending of an IPv6 address. -/
def readEnding (s : List Char) : Option (Nat × Nat) :=
  match (Text.splitAll '.' s).map readByte with
  | [some a, some b, some c, some d] => some (a * 256 + b, c * 256 + d)
  | _ => none

/-- The pieces of an IPv6 address, and before which of them the gap stands. -/
structure Pieces where
  /-- The pieces that are written, a zero for the gap. -/
  pieces : List Nat
  /-- How many pieces stand before the gap, and with it. -/
  gap : Option Nat

/-- Reads on after some pieces. -/
def readPieces (p : Pieces) (s : List Char) : Option Pieces :=
  match s with
  | [] => some p
  | c :: s =>
    if p.pieces.length = 8 then none
    else if c = ':' then
      match p.gap with
      | some _ => none
      | none => readPieces ⟨p.pieces ++ [0], some (p.pieces.length + 1)⟩ s
    else
      match _h : takeHex 4 0 (c :: s) with
      | (_, 0, _) => none
      | (n, _ + 1, []) => some ⟨p.pieces ++ [n], p.gap⟩
      | (n, _ + 1, d :: r) =>
        if d = ':' then
          if r.isEmpty then none else readPieces ⟨p.pieces ++ [n], p.gap⟩ r
        else if d = '.' then
          if 6 < p.pieces.length then none
          else (readEnding (c :: s)).map fun (a, b) => ⟨p.pieces ++ [a, b], p.gap⟩
        else none
termination_by s.length
decreasing_by
  · simp
  · have := length_of_takeHex 4 0 (c :: s)
    rw [_h] at this
    simp only [List.length_cons] at this ⊢
    omega

/-- Reads an IPv6 address between its brackets. -/
def readEight (s : List Char) : Option (List Nat) :=
  let start : Option (Pieces × List Char) := match s with
    | [] => none
    | [_] => none
    | ':' :: ':' :: r => some (⟨[0], some 1⟩, r)
    | ':' :: _ => none
    | s => some (⟨[], none⟩, s)
  match start with
  | none => none
  | some (p, r) => match readPieces p r with
    | none => none
    | some ⟨pieces, some gap⟩ =>
      some (pieces.take gap ++ List.replicate (8 - pieces.length) 0 ++ pieces.drop gap)
    | some ⟨pieces, none⟩ => if pieces.length = 8 then some pieces else none

/-- How many zeros a list starts with. -/
def zeros : List Nat → Nat
  | 0 :: ns => zeros ns + 1
  | _ => 0

/-- Start and length of the first longest run of zeros, as far as it is longer than `best`. -/
def longestGap (start : Nat) (best : Nat × Nat) : List Nat → Nat × Nat
  | [] => best
  | n :: ns =>
    let k := zeros (n :: ns)
    longestGap (start + 1) (if best.2 < k then (start, k) else best) ns

/-- Pieces with colons between them. -/
def joinColons : List Nat → List Char
  | [] => []
  | [n] => Nat.toDigits 16 n
  | n :: ns => Nat.toDigits 16 n ++ ':' :: joinColons ns

/-- Writes an IPv6 address without brackets. -/
def writeEight (pieces : List Nat) : List Char :=
  let (start, count) := longestGap 0 (0, 1) pieces
  if count < 2 then joinColons pieces
  else joinColons (pieces.take start) ++ [':', ':'] ++ joinColons (pieces.drop (start + count))

end PackageFinder.Url.Address
