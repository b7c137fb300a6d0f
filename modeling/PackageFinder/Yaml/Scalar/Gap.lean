import PackageFinder.Yaml.Token

/-!
# Between the words of a text

Blanks and breaks between two words of a text are folded: blanks on one line stay, one break counts
as a space, and of several breaks the first is dropped.
-/

namespace PackageFinder.Yaml

/-- What stands between two words. -/
structure Gap where
  /-- The blanks, as long as there is no break. -/
  blanks : List Char := []
  /-- The first break, unless it was escaped. -/
  first : List Char := []
  /-- The breaks after the first. -/
  others : List Char := []
  /-- Whether a line has ended. -/
  broken : Bool := false
  deriving DecidableEq, Repr

namespace Gap

/-- A gap with one blank more. -/
def addBlank (g : Gap) (x : Char) : Gap :=
  if g.broken then g else { g with blanks := g.blanks ++ [x] }

/-- A gap with one break more. -/
def addBreak (g : Gap) (x : Char) : Gap :=
  if g.broken then { g with others := g.others ++ [x] }
  else { first := [x], broken := true }

/-- What counts of a gap. -/
def folded (g : Gap) : List Char :=
  if !g.broken then g.blanks
  else if g.first = ['\n'] then (if g.others = [] then [' '] else g.others)
  else g.first ++ g.others

/-- Reads blanks and breaks onto a gap, at most `fuel` of them.  Once a line has ended, a tab to
the left of column `indent` stops it. -/
def read (indent : Nat) : Nat → Gap → Cursor → Gap × Cursor
  | 0, g, c => (g, c)
  | fuel + 1, g, c => match c.head? with
    | none => (g, c)
    | some x =>
      if g.broken && x = '\t' && decide (c.mark.column < indent) then (g, c)
      else if isBlank x then read indent fuel (g.addBlank x) c.advance
      else if isBreak x then read indent fuel (g.addBreak (breakChar x)) c.advance
      else (g, c)

end Gap

end PackageFinder.Yaml
