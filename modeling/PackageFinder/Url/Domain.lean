import PackageFinder.Unicode.Compose
import PackageFinder.Unicode.DirectionTable
import PackageFinder.Unicode.DomainTable
import PackageFinder.Unicode.JoiningTable
import PackageFinder.Url.Percent
import PackageFinder.Url.Punycode

/-!
# Domain names

The form of a domain name that requests carry: small letters, composed, and every label with
characters outside ASCII written in Punycode.  Labels already written so are checked.
-/

namespace PackageFinder.Url.Domain
open PackageFinder.Unicode

/-- What a character stands for; `none` for those that no domain name holds. -/
def mapChar (c : Char) : Option (List Char) :=
  if c.toNat < 0x80 then some [c.toLower]
  else if domainRefused.contains c then none
  else if domainIgnored.contains c then some []
  else match domainShifts.find? c with
    | some d => some [d]
    | none => some ((domainTexts.find? c).getD [c])

/-- What a text stands for. -/
def mapAll : List Char → Option (List Char)
  | [] => some []
  | c :: s => match mapChar c, mapAll s with
    | some t, some u => some (t ++ u)
    | _, _ => none

/-- The characters of ASCII that no domain name holds. -/
def isDenied (c : Char) : Bool :=
  decide (c.toNat ≤ 0x20) || c.toNat == 0x7F || isAmong "#%/:<>?@[\\]^|" c

/-- How a label is marked that is written in Punycode. -/
def mark : List Char := "xn--".toList

/-- Whether a text is in ASCII. -/
def isAscii (s : List Char) : Bool := s.all (·.toNat < 0x80)

/-! ### Joiners -/

/-- The joining type of a character, 0 for none. -/
def joiningType (c : Char) : Nat := (joiningTypes.find? c).getD 0

/-- The joining type of the nearest character that is not transparent. -/
def nearestType (s : List Char) : Nat :=
  match s.dropWhile (joiningType · = 4) with
  | c :: _ => joiningType c
  | [] => 0

/-- Whether the joiners of a label stand where they have an effect; `before` is the reverse of
what comes before. -/
def joinersFit : List Char → List Char → Bool
  | _, [] => true
  | before, c :: s =>
    let afterVirama := match before with
      | b :: _ => combiningClass b == 9
      | [] => false
    let fits :=
      if c = '\u200D' then afterVirama
      else if c = '\u200C' then
        let l := nearestType before
        let r := nearestType s
        afterVirama || ((l == 1 || l == 3) && (r == 2 || r == 3))
      else true
    fits && joinersFit (c :: before) s

/-! ### Writing direction -/

/-- The direction class of a character, 0 for left to right. -/
def direction (c : Char) : Nat := (directionClasses.find? c).getD 0

/-- Whether a character runs from right to left. -/
def isRightToLeft (c : Char) : Bool := [1, 2, 3].contains (direction c)

/-- The classes of a label without the marks at its end. -/
def directions (label : List Char) : List Nat :=
  ((label.map direction).reverse.dropWhile (· = 10)).reverse

/-- Whether a label of a name with characters from right to left runs in one direction. -/
def runsOneWay (label : List Char) : Bool :=
  let ds := directions label
  match (label.map direction).head? with
  | none => true
  | some 0 => ds.all ([0, 4, 5, 6, 7, 8, 9, 10].contains ·)
      && (match ds.getLast? with
        | some d => [0, 4].contains d
        | none => true)
  | some first => [1, 2].contains first
      && ds.all ([1, 2, 3, 4, 5, 6, 7, 8, 9, 10].contains ·)
      && (match ds.getLast? with
        | some d => [1, 2, 3, 4].contains d
        | none => true)
      && !(ds.contains 3 && ds.contains 4)

/-! ### Labels -/

/-- Whether the characters of a label may stand together. -/
def isSound (label : List Char) : Bool :=
  (match label with
    | c :: _ => !markRanges.contains c
    | [] => true)
  && joinersFit [] label

/-- The label that a label in Punycode stands for: one in normal form, not all in ASCII. -/
def decodeLabel (label : List Char) : Option (List Char) :=
  match Text.after? mark label with
  | none => some label
  | some r =>
    if !isAscii r then none
    else match Punycode.decode r with
      | none => none
      | some t =>
        if isAscii t then none
        else if mapAll t = some t ∧ compose t = t then some t
        else none

/-- A label as requests carry it. -/
def writeLabel (label : List Char) : List Char :=
  if isAscii label then label else mark ++ Punycode.encode label

/-- Texts with dots between them. -/
def joinDots : List (List Char) → List Char
  | [] => []
  | [l] => l
  | l :: ls => l ++ '.' :: joinDots ls

/-- Labels that may stand together in a name. -/
def areSound (labels : List (List Char)) : Bool :=
  labels.all isSound
    && (!labels.any (·.any isRightToLeft) || labels.all runsOneWay)

/-- A domain name as requests carry it; `none` if it is none. -/
def toAscii (name : List Char) : Option (List Char) :=
  match mapAll name with
  | none => none
  | some mapped =>
    match (Text.splitAll '.' (compose mapped)).mapM decodeLabel with
    | none => none
    | some labels =>
      let out := joinDots (labels.map writeLabel)
      if areSound labels && !out.any isDenied then some out else none

end PackageFinder.Url.Domain
