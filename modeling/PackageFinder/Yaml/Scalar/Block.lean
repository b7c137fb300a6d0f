import PackageFinder.Yaml.Directive

/-!
# Blocks of text

A text whose lines are indented under a bar or an angle bracket.  Under a bar the breaks stay;
under an angle bracket lines are joined, except around lines that start with a blank.  The breaks
at the end are dropped, reduced to one, or kept.
-/

namespace PackageFinder.Yaml

/-- What happens to the breaks at the end. -/
inductive Chomp where
  /-- They are dropped. -/
  | strip
  /-- One stays. -/
  | clip
  /-- All stay. -/
  | keep
  deriving DecidableEq, Repr

/-- What is said about a block before its first line. -/
structure BlockHeader where
  /-- What happens to the breaks at the end. -/
  chomp : Chomp := .clip
  /-- How far the lines are indented, if it is said. -/
  indentation : Option Nat := none
  deriving DecidableEq, Repr

/-- Reads what happens to the breaks at the end, if it is said. -/
def readChomp (c : Cursor) : Option Chomp × Cursor :=
  if c.startsWith '+' then (some .keep, c.advance)
  else if c.startsWith '-' then (some .strip, c.advance)
  else (none, c)

/-- Reads how far the lines are indented, if it is said. -/
def readIndicator (start : Mark) (c : Cursor) : Except Fault (Option Nat × Cursor) :=
  if c.startsWith '0' then c.fail .zeroIndentation .blockText start
  else match c.head? with
    | none => .ok (none, c)
    | some x => .ok (if x.isDigit then (some (x.toNat - 48), c.advance) else (none, c))

/-- Reads what is said about a block, in either order. -/
def readBlockHeader (start : Mark) (c : Cursor) : Except Fault (BlockHeader × Cursor) :=
  match readChomp c with
  | (some chomp, c) => do
    let (indentation, c) ← readIndicator start c
    .ok (⟨chomp, indentation⟩, c)
  | (none, c) => do
    match ← readIndicator start c with
    | (none, c) => .ok ({}, c)
    | (some n, c) =>
      let (chomp, c) := readChomp c
      .ok (⟨chomp.getD .clip, some n⟩, c)

/-- Empty lines of a block, and the indentation of the line after them. -/
structure EmptyLines where
  /-- Their breaks. -/
  breaks : List Char := []
  /-- The widest indentation of them and of the line after them. -/
  widest : Nat := 0
  /-- Where the last of them stops. -/
  stop : Mark
  deriving DecidableEq, Repr

/-- Goes over spaces, up to column `indent` if that is known. -/
def skipIndentation (indent : Option Nat) (c : Cursor) : Cursor :=
  let spaces := (c.rest.takeWhile (· = ' ')).length
  match indent with
  | none => c.skip spaces
  | some n => c.skip (min spaces (n - c.mark.column))

/-- Reads empty lines of a block, at most `fuel` of them, and the indentation of the line after
them. -/
def readEmptyLines (indent : Option Nat) (start : Mark) :
    Nat → EmptyLines → Cursor → Except Fault (EmptyLines × Cursor)
  | 0, lines, c => .ok (lines, c)
  | fuel + 1, lines, c =>
    let c := skipIndentation indent c
    let lines := { lines with widest := max lines.widest c.mark.column }
    if c.startsWith '\t' && indent.all fun n => decide (c.mark.column < n) then
      c.fail .tabIndentation .blockText start
    else if c.holds isBreak then
      readEmptyLines indent start fuel
        { lines with breaks := lines.breaks ++ c.unit, stop := c.advance.mark } c.advance
    else .ok (lines, c)

/-- The lines of a block that have been read. -/
structure BlockLines where
  /-- The text of the lines. -/
  text : List Char := []
  /-- The break after the last line. -/
  last : List Char := []
  /-- The empty lines after it. -/
  empty : EmptyLines
  /-- Whether the last line starts with a blank. -/
  indented : Bool := false

/-- What joins a line to those before it. -/
def BlockLines.joint (lines : BlockLines) (folded blank : Bool) : List Char :=
  if folded && lines.last = ['\n'] && !lines.indented && !blank then
    (if lines.empty.breaks = [] then [' '] else lines.empty.breaks)
  else lines.last ++ lines.empty.breaks

/-- Reads lines of a block onto those before them, at most `fuel` of them. -/
def readBlockLines (folded : Bool) (indent : Nat) (start : Mark) :
    Nat → BlockLines → Cursor → Except Fault (BlockLines × Cursor)
  | 0, lines, c => .ok (lines, c)
  | fuel + 1, lines, c =>
    if c.mark.column ≠ indent ∨ c.isEnd then .ok (lines, c)
    else do
      let blank := c.holds isBlank
      let (line, after) := c.takeWhile fun x => !isBreak x
      let next := after.advance
      let (empty, c) ←
        readEmptyLines (some indent) start (next.rest.length + 1) { stop := next.mark } next
      readBlockLines folded indent start fuel
        { text := lines.text ++ lines.joint folded blank ++ line, last := after.unit, empty,
          indented := blank } c

/-- The text of a block. -/
def BlockLines.chomped (lines : BlockLines) : Chomp → List Char
  | .strip => lines.text
  | .clip => lines.text ++ lines.last
  | .keep => lines.text ++ lines.last ++ lines.empty.breaks

/-- Reads a block of text inside a block collection that stands in column `outer`, if it stands in
any. -/
def readBlock (folded : Bool) (outer : Option Nat) (c : Cursor) :
    Except Fault (Token × Cursor) := do
  let start := c.mark
  let (header, c) ← readBlockHeader start c.advance
  let c ← skipLineEnd .blockText start c
  let said := header.indentation.map fun n => outer.getD 0 + n
  let (empty, c) ← readEmptyLines said start (c.rest.length + 1) { stop := c.mark } c
  let least := match outer with
    | none => 1
    | some n => n + 1
  let indent := said.getD (max empty.widest least)
  let (lines, c) ← readBlockLines folded indent start c.rest.length { empty } c
  let text := String.ofList (lines.chomped header.chomp)
  .ok (⟨.scalar (if folded then .folded else .literal) text, start, lines.empty.stop⟩, c)

end PackageFinder.Yaml
