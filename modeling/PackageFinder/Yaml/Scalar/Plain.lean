import PackageFinder.Yaml.Scalar.Gap

/-!
# Plain texts

A text without marks goes on over words and lines until a colon before a blank, a comment, a bound
of the document, or a line that is not indented enough.  Between brackets a bracket or a comma ends
it too.
-/

namespace PackageFinder.Yaml

/-- A plain text that has been read. -/
structure PlainText where
  /-- The text. -/
  text : List Char
  /-- Where its last word stops. -/
  stop : Mark
  /-- Whether a line has ended after it. -/
  broken : Bool
  deriving DecidableEq, Repr

/-- Reads a word of a plain text, of at most `fuel` characters. -/
def readPlainWord (inFlow : Bool) (start : Mark) :
    Nat → Cursor → Except Fault (List Char × Cursor)
  | 0, c => .ok ([], c)
  | fuel + 1, c => match c.head? with
    | none => .ok ([], c)
    | some x =>
      if isBlank x || isBreak x then .ok ([], c)
      else if inFlow && x = ':' && c.holdsAt 1 fun y => y = '?' || isFlowMark y then
        c.fail .colonInPlain .plainText start
      else if x = ':' && c.isGapAt 1 || inFlow && isFlowMark x then .ok ([], c)
      else do
        let (word, after) ← readPlainWord inFlow start fuel c.advance
        .ok (x :: word, after)

/-- Reads the words of a plain text after a gap. -/
def readPlainWords (inFlow : Bool) (indent : Nat) (start : Mark) :
    Nat → Gap → Mark → Cursor → Except Fault (PlainText × Cursor)
  | 0, gap, stop, c => .ok (⟨[], stop, gap.broken⟩, c)
  | fuel + 1, gap, stop, c =>
    if c.isDocumentBound || c.startsWith '#' then .ok (⟨[], stop, gap.broken⟩, c)
    else do
      let (word, after) ← readPlainWord inFlow start c.rest.length c
      if word.isEmpty then .ok (⟨[], stop, gap.broken⟩, after)
      else
        let text := gap.folded ++ word
        let (next, c) := Gap.read indent after.rest.length {} after
        if c.rest.length = after.rest.length then .ok (⟨text, after.mark, false⟩, c)
        else if c.startsWith '\t' then c.fail .tabInPlain .plainText start
        else if !inFlow && decide (c.mark.column < indent) then
          .ok (⟨text, after.mark, next.broken⟩, c)
        else
          let (more, c) ← readPlainWords inFlow indent start fuel next after.mark c
          .ok ({ more with text := text ++ more.text }, c)

/-- Reads a plain text whose lines have to be indented to column `indent`. -/
def readPlain (inFlow : Bool) (indent : Nat) (c : Cursor) : Except Fault (PlainText × Cursor) :=
  readPlainWords inFlow indent c.mark c.rest.length {} c.mark c

end PackageFinder.Yaml
