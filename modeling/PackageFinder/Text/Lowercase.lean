import PackageFinder.Unicode.CaseTable

/-!
# Small letters

Full lower-casing of a text: every character becomes its small letter, a dotted capital I becomes
two characters, and a capital sigma at the end of a word becomes the final small sigma.
-/

namespace PackageFinder.Text
open PackageFinder.Unicode

/-- The small letter of `c`; characters without one stay. -/
def smallLetter (c : Char) : Char :=
  if c.toNat < 0x80 then c.toLower else (smallLetters.find? c).getD c

/-- A letter with case that is not skipped over. -/
def isCased (c : Char) : Bool :=
  if c.toNat < 0x80 then c.isAlpha else casedRanges.contains c

/-- Skipped over when looking for the letters around a sigma. -/
def isCaseIgnorable (c : Char) : Bool := caseIgnorableRanges.contains c

/-- Whether the next letter of a text has case. -/
def meetsCased (s : List Char) : Bool :=
  match s.dropWhile isCaseIgnorable with
  | c :: _ => isCased c
  | [] => false

/-- Lower-cases `s`, which stands after the reverse of `before`. -/
def lowercaseAfter : List Char → List Char → List Char
  | _, [] => []
  | before, c :: s =>
    let small :=
      if c = 'Σ' then [if meetsCased before && !meetsCased s then 'ς' else 'σ']
      else if c = 'İ' then ['i', '\u0307']
      else [smallLetter c]
    small ++ lowercaseAfter (c :: before) s

/-- The text in small letters. -/
def lowercase (s : List Char) : List Char := lowercaseAfter [] s

end PackageFinder.Text
