/-!
# Going through a text

A cursor is what is left of a text and the mark where that starts.  It goes over a carriage return
with a line feed after it in one step; every step over a break starts a line.
-/

namespace PackageFinder.Yaml

/-- A place in a text, counted from zero in characters. -/
structure Mark where
  /-- The characters before it. -/
  index : Nat := 0
  /-- The lines before it. -/
  line : Nat := 0
  /-- The characters before it on its line. -/
  column : Nat := 0
  deriving DecidableEq, Repr, Inhabited

namespace Mark

/-- Whether a place is the first one of the first line. -/
def isOrigin (m : Mark) : Bool := m.line == 0 && m.column == 0

/-- The place as it is named, counted from one. -/
def text (m : Mark) : String :=
  "line " ++ toString (m.line + 1) ++ " column " ++ toString (m.column + 1)

/-- The place behind a message; the start of a text is not named. -/
def suffix (m : Mark) : String := if m.isOrigin then "" else " at " ++ m.text

/-- The place after a character that ends no line. -/
def next (m : Mark) : Mark := ⟨m.index + 1, m.line, m.column + 1⟩

/-- The place after a break of `n` characters. -/
def nextLine (m : Mark) (n : Nat) : Mark := ⟨m.index + n, m.line + 1, 0⟩

end Mark

/-! ### Characters -/

/-- Whether a character ends a line. -/
def isBreak (c : Char) : Bool :=
  c = '\n' || c = '\r' || c.toNat == 0x85 || c.toNat == 0x2028 || c.toNat == 0x2029

/-- Whether a character is a space or a tab. -/
def isBlank (c : Char) : Bool := c = ' ' || c = '\t'

/-- Whether a character can stand in the name of an anchor, a directive or a handle. -/
def isNameChar (c : Char) : Bool := c.isAlphanum || c = '_' || c = '-'

/-- Whether a character is a bracket or a comma of the flow style. -/
def isFlowMark (c : Char) : Bool := c = ',' || c = '[' || c = ']' || c = '{' || c = '}'

/-- A break as it counts in a text: the two Unicode separators stay what they are, and every other
break is a line feed. -/
def breakChar (c : Char) : Char := if c.toNat == 0x2028 || c.toNat == 0x2029 then c else '\n'

/-- What is left of a text, and where it starts. -/
structure Cursor where
  /-- The text that is left. -/
  rest : List Char
  /-- Where it starts. -/
  mark : Mark := {}
  deriving DecidableEq, Repr, Inhabited

namespace Cursor

/-- The character `n` places ahead. -/
def at? (c : Cursor) (n : Nat) : Option Char := c.rest[n]?

/-- The next character. -/
def head? (c : Cursor) : Option Char := c.rest.head?

/-- Whether nothing is left. -/
def isEnd (c : Cursor) : Bool := c.rest.isEmpty

/-- Whether the character `n` places ahead has a property. -/
def holdsAt (c : Cursor) (n : Nat) (p : Char → Bool) : Bool := (c.at? n).any p

/-- Whether the next character has a property. -/
def holds (c : Cursor) (p : Char → Bool) : Bool := c.head?.any p

/-- Whether the next character is `x`. -/
def startsWith (c : Cursor) (x : Char) : Bool := c.holds (· = x)

/-- Whether a space, a tab, a break or the end of the text is `n` places ahead. -/
def isGapAt (c : Cursor) (n : Nat) : Bool := (c.at? n).all fun x => isBlank x || isBreak x

/-- Whether a space, a tab, a break or the end of the text comes next. -/
def isGap (c : Cursor) : Bool := c.isGapAt 0

/-- Whether a break or the end of the text comes next. -/
def isLineEnd (c : Cursor) : Bool := c.head?.all isBreak

/-- The cursor one step further on. -/
def advance (c : Cursor) : Cursor :=
  match c.rest with
  | [] => c
  | '\r' :: '\n' :: r => ⟨r, c.mark.nextLine 2⟩
  | x :: r => ⟨r, if isBreak x then c.mark.nextLine 1 else c.mark.next⟩

/-- The cursor some steps further on. -/
def skip (c : Cursor) : Nat → Cursor
  | 0 => c
  | n + 1 => c.advance.skip n

/-- What the next step goes over, as it counts in a text. -/
def unit (c : Cursor) : List Char :=
  match c.rest with
  | [] => []
  | x :: _ => [if isBreak x then breakChar x else x]

/-- Goes over the characters with a property that no break has, and yields them. -/
def takeFrom (p : Char → Bool) (mark : Mark) : List Char → List Char × Cursor
  | [] => ([], ⟨[], mark⟩)
  | x :: r =>
    if p x then
      let (taken, c) := takeFrom p mark.next r
      (x :: taken, c)
    else ([], ⟨x :: r, mark⟩)

/-- The characters at the cursor with a property that no break has, and the cursor after them. -/
def takeWhile (c : Cursor) (p : Char → Bool) : List Char × Cursor := takeFrom p c.mark c.rest

/-- The cursor after the characters with a property that no break has. -/
def dropWhile (c : Cursor) (p : Char → Bool) : Cursor := (c.takeWhile p).2

/-- The cursor after spaces and tabs. -/
def skipBlanks (c : Cursor) : Cursor := c.dropWhile isBlank

/-- The cursor after a comment, if one comes next. -/
def skipComment (c : Cursor) : Cursor :=
  if c.startsWith '#' then c.dropWhile fun x => !isBreak x else c

/-- Whether the marks that start or end a document come next, alone at the start of a line. -/
def isDocumentMark (c : Cursor) (x : Char) : Bool :=
  c.mark.column == 0 && c.rest.take 3 == [x, x, x] && c.isGapAt 3

/-- Whether a line that starts or ends a document comes next. -/
def isDocumentBound (c : Cursor) : Bool := c.isDocumentMark '-' || c.isDocumentMark '.'

end Cursor

end PackageFinder.Yaml
