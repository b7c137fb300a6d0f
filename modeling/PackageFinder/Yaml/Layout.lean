import PackageFinder.Yaml.Scalar.Block
import PackageFinder.Yaml.Scalar.Plain
import PackageFinder.Yaml.Scalar.Quoted

/-!
# Tokens from text

Reads a text as tokens.  Indentation opens and closes blocks.  Whether a value is a key shows only
at the colon after it, so the token that makes it one is put before it later; a value that may
still become a key is a candidate, and the tokens from the oldest candidate on are not settled.
-/

namespace PackageFinder.Yaml

/-- A value that becomes a key if a colon follows on its line. -/
structure Candidate where
  /-- Whether nothing but a key can stand there. -/
  required : Bool
  /-- The number of tokens before it. -/
  number : Nat
  /-- Where it starts. -/
  mark : Mark
  deriving DecidableEq, Repr

/-- How many characters a key and the blanks before its colon may have. -/
def keyLimit : Nat := 1024

/-- Whether a candidate can no longer become a key at a place. -/
def Candidate.isStale (k : Candidate) (m : Mark) : Bool :=
  decide (k.mark.line < m.line) || decide (k.mark.index + keyLimit < m.index)

/-- How far a text has been read. -/
structure Layout where
  /-- What is left of it. -/
  cursor : Cursor
  /-- Whether a key may start here. -/
  keyAllowed : Bool := true
  /-- The columns of the blocks around, innermost first. -/
  indents : List Nat := []
  /-- The candidate inside the innermost brackets. -/
  candidate : Option Candidate := none
  /-- The candidates outside of each pair of brackets, innermost first. -/
  outer : List (Option Candidate) := []
  /-- The tokens. -/
  tokens : Array Token := #[]
  /-- Whether the end of the text is among them. -/
  finished : Bool := false

namespace Layout

/-- Whether there are brackets around. -/
def inFlow (l : Layout) : Bool := !l.outer.isEmpty

/-- Where it stands. -/
def mark (l : Layout) : Mark := l.cursor.mark

/-- The column from which lines belong to the innermost block. -/
def indent (l : Layout) : Nat :=
  match l.indents with
  | [] => 0
  | column :: _ => column + 1

/-- How many tokens are settled. -/
def settled (l : Layout) : Nat :=
  (l.candidate :: l.outer).foldl
    (fun n k => match k with
      | some k => min n k.number
      | none => n)
    l.tokens.size

/-- Adds a token. -/
def emit (l : Layout) (kind : TokenKind) (start stop : Mark) : Layout :=
  { l with tokens := l.tokens.push ⟨kind, start, stop⟩ }

/-- Puts a token without extent after the first `number` tokens. -/
def insert (l : Layout) (number : Nat) (kind : TokenKind) (m : Mark) : Layout :=
  { l with tokens := l.tokens.insertIdxIfInBounds number ⟨kind, m, m⟩ }

/-! ### Blocks -/

/-- Opens a block in a column that is further in than the innermost block. -/
def openBlock (l : Layout) (kind : TokenKind) (column number : Nat) (m : Mark) : Layout :=
  if !l.inFlow && decide (l.indent ≤ column) then
    { l.insert number kind m with indents := column :: l.indents }
  else l

/-- Opens a block where it stands. -/
def openBlockHere (l : Layout) (kind : TokenKind) : Layout :=
  l.openBlock kind l.mark.column l.tokens.size l.mark

/-- Closes the blocks that are further in than column `least`; all, if there is none. -/
def closeBlocks (l : Layout) (least : Option Nat) : Layout :=
  if l.inFlow then l
  else
    let (closed, left) := l.indents.span fun column => least.all (· < column)
    let ends := closed.map fun _ => Token.mk .blockEnd l.mark l.mark
    { l with indents := left, tokens := l.tokens ++ ends.toArray }

/-! ### Candidates -/

/-- The fault of a required candidate. -/
def missingColon {α : Type} (l : Layout) (k : Candidate) : Except Fault α :=
  l.cursor.fail .colonMissing .key k.mark

/-- Gives up the candidate. -/
def dropCandidate (l : Layout) : Except Fault Layout :=
  match l.candidate with
  | some k => if k.required then l.missingColon k else .ok { l with candidate := none }
  | none => .ok l

/-- Makes what comes next the candidate, if a key may start here. -/
def nominate (l : Layout) : Except Fault Layout :=
  if l.keyAllowed then do
    let required := !l.inFlow && l.indents.head? = some l.mark.column
    let l ← l.dropCandidate
    .ok { l with candidate := some ⟨required, l.tokens.size, l.mark⟩ }
  else .ok l

/-- Gives up a candidate that is stale. -/
def freshened (l : Layout) : Option Candidate → Except Fault (Option Candidate)
  | none => .ok none
  | some k =>
    if !k.isStale l.mark then .ok (some k)
    else if k.required then l.missingColon k
    else .ok none

/-- Gives up the candidates that are stale, outermost first. -/
def dropStale (l : Layout) : Except Fault Layout := do
  let outer ← l.outer.reverse.mapM l.freshened
  let candidate ← l.freshened l.candidate
  .ok { l with candidate, outer := outer.reverse }

/-! ### Between tokens -/

/-- Goes over blanks, comments and breaks, over at most `fuel` lines.  A tab counts as a blank
only where no key may start. -/
def skipLines : Nat → Layout → Layout
  | 0, l => l
  | fuel + 1, l =>
    let c := l.cursor.dropWhile fun x => x = ' ' || (l.inFlow || !l.keyAllowed) && x = '\t'
    let c := c.skipComment
    if c.holds isBreak then
      skipLines fuel { l with cursor := c.advance, keyAllowed := l.keyAllowed || !l.inFlow }
    else { l with cursor := c }

/-! ### Tokens -/

/-- Reads a mark of `n` characters. -/
def take (l : Layout) (kind : TokenKind) (n : Nat) : Layout :=
  let after := l.cursor.skip n
  { l.emit kind l.mark after.mark with cursor := after }

/-- Reads the end of the text, which counts as the start of a line. -/
def takeEnd (l : Layout) : Except Fault Layout := do
  let m := l.mark
  let m := if m.column = 0 then m else ⟨m.index, m.line + 1, 0⟩
  let l := { l with cursor := { l.cursor with mark := m } }
  let l ← (l.closeBlocks none).dropCandidate
  .ok { l.emit .streamEnd m m with keyAllowed := false, finished := true }

/-- Reads a directive. -/
def takeDirective (l : Layout) : Except Fault Layout := do
  let l ← (l.closeBlocks none).dropCandidate
  let (token, c) ← readDirective l.cursor
  .ok { l with cursor := c, keyAllowed := false, tokens := l.tokens.push token }

/-- Reads the start or the end of a document. -/
def takeBound (l : Layout) (kind : TokenKind) : Except Fault Layout := do
  let l ← (l.closeBlocks none).dropCandidate
  .ok { l.take kind 3 with keyAllowed := false }

/-- Reads an opening bracket or brace. -/
def takeOpening (l : Layout) (kind : TokenKind) : Except Fault Layout := do
  let l ← l.nominate
  .ok { l.take kind 1 with
    keyAllowed := true, candidate := none, outer := l.candidate :: l.outer }

/-- Reads a closing bracket or brace. -/
def takeClosing (l : Layout) (kind : TokenKind) : Except Fault Layout := do
  let l ← l.dropCandidate
  let l := { l.take kind 1 with keyAllowed := false }
  match l.outer with
  | [] => .ok l
  | candidate :: outer => .ok { l with candidate, outer }

/-- Reads a comma. -/
def takeComma (l : Layout) : Except Fault Layout := do
  let l ← l.dropCandidate
  .ok { l.take .comma 1 with keyAllowed := true }

/-- Reads a dash before an item.  Between brackets it is left to be refused later. -/
def takeItem (l : Layout) : Except Fault Layout := do
  if !l.inFlow && !l.keyAllowed then l.cursor.failPlainly .itemNotAllowed
  else
    let l ← (l.openBlockHere .blockListStart).dropCandidate
    .ok { l.take .item 1 with keyAllowed := true }

/-- Reads the mark of a key. -/
def takeKey (l : Layout) : Except Fault Layout := do
  if !l.inFlow && !l.keyAllowed then l.cursor.failPlainly .keyNotAllowed
  else
    let l ← (l.openBlockHere .blockMappingStart).dropCandidate
    .ok { l.take .key 1 with keyAllowed := !l.inFlow }

/-- Reads the colon before a value.  The candidate, if there is one, becomes the key. -/
def takeValue (l : Layout) : Except Fault Layout :=
  match l.candidate with
  | some k =>
    let l := l.insert k.number .key k.mark
    let l := l.openBlock .blockMappingStart k.mark.column k.number k.mark
    .ok { l.take .value 1 with keyAllowed := false, candidate := none }
  | none =>
    if !l.inFlow && !l.keyAllowed then l.cursor.failPlainly .valueNotAllowed
    else
      let l := l.openBlockHere .blockMappingStart
      .ok { l.take .value 1 with keyAllowed := !l.inFlow }

/-- Reads an anchor, an alias, a tag or a text that may become a key. -/
def takeWith (l : Layout) (read : Cursor → Except Fault (TokenKind × Cursor)) :
    Except Fault Layout := do
  let l ← l.nominate
  let (kind, c) ← read l.cursor
  .ok { l.emit kind l.mark c.mark with cursor := c, keyAllowed := false }

/-- Reads a block of text. -/
def takeBlock (l : Layout) (folded : Bool) : Except Fault Layout := do
  let l ← l.dropCandidate
  let (token, c) ← readBlock folded l.indents.head? l.cursor
  .ok { l with cursor := c, keyAllowed := true, tokens := l.tokens.push token }

/-- Reads a text between quotes. -/
def takeQuoted (l : Layout) (double : Bool) : Except Fault Layout :=
  l.takeWith fun c => do
    let (text, c) ← readQuoted double c
    let style := if double then Style.doubleQuoted else .singleQuoted
    .ok (.scalar style (String.ofList text), c)

/-- Reads a plain text. -/
def takePlain (l : Layout) : Except Fault Layout := do
  let l ← l.nominate
  let (plain, c) ← readPlain l.inFlow l.indent l.cursor
  .ok { l.emit (.scalar .plain (String.ofList plain.text)) l.mark plain.stop with
    cursor := c, keyAllowed := plain.broken }

/-- The characters that start no plain text. -/
def indicators : List Char := "-?:,[]\x7b\x7d#&*!|>'\"%@\x60".toList

/-- Whether a plain text starts at a cursor. -/
def startsPlain (inFlow : Bool) (c : Cursor) : Bool :=
  !c.isGap && !c.holds indicators.contains
    || c.startsWith '-' && !c.holdsAt 1 isBlank
    || !inFlow && (c.startsWith '?' || c.startsWith ':') && !c.isGapAt 1

/-- Reads the token that starts with `x`. -/
def takeToken (l : Layout) (x : Char) : Except Fault Layout :=
  let c := l.cursor
  if c.mark.column = 0 ∧ x = '%' then l.takeDirective
  else if c.isDocumentMark '-' then l.takeBound .documentStart
  else if c.isDocumentMark '.' then l.takeBound .documentEnd
  else if x = '[' then l.takeOpening .flowListStart
  else if x = '{' then l.takeOpening .flowMappingStart
  else if x = ']' then l.takeClosing .flowListEnd
  else if x = '}' then l.takeClosing .flowMappingEnd
  else if x = ',' then l.takeComma
  else if x = '-' ∧ c.isGapAt 1 then l.takeItem
  else if x = '?' ∧ (l.inFlow ∨ c.isGapAt 1) then l.takeKey
  else if x = ':' ∧ (l.inFlow ∨ c.isGapAt 1) then l.takeValue
  else if x = '*' then l.takeWith fun c => do
    let (name, c) ← readAnchorName .reference c
    .ok (.reference name, c)
  else if x = '&' then l.takeWith fun c => do
    let (name, c) ← readAnchorName .anchor c
    .ok (.anchor name, c)
  else if x = '!' then l.takeWith (readTag l.inFlow)
  else if x = '|' ∧ !l.inFlow then l.takeBlock false
  else if x = '>' ∧ !l.inFlow then l.takeBlock true
  else if x = '\'' then l.takeQuoted false
  else if x = '"' then l.takeQuoted true
  else if startsPlain l.inFlow c then l.takePlain
  else c.fail .nothingStarts .token c.mark

/-- Reads the next token, and closes the blocks that end before it. -/
def step (l : Layout) : Except Fault Layout := do
  let l ← (skipLines (l.cursor.rest.length + 1) l).dropStale
  let l := l.closeBlocks (some l.mark.column)
  let l ← match l.cursor.head? with
    | none => l.takeEnd
    | some x => l.takeToken x
  l.dropStale

/-- Reads at most `fuel` tokens. -/
def run : Nat → Layout → List Token × Option Fault
  | 0, l => (l.tokens.toList, none)
  | fuel + 1, l => match l.step with
    | .error fault => (l.tokens.toList.take l.settled, some fault)
    | .ok next => if next.finished then (next.tokens.toList, none) else run fuel next

end Layout

/-- Whether a character may stand in a text. -/
def isPrintable (c : Char) : Bool :=
  let n := c.toNat
  c = '\t' || c = '\n' || c = '\r' || decide (0x20 ≤ n ∧ n ≤ 0x7E) || n == 0x85
    || decide (0xA0 ≤ n ∧ n ≤ 0xFFFD) || decide (0x10000 ≤ n)

/-- How many bytes stand before the first character that may not stand in a text. -/
def controlOffset? (offset : Nat) : List Char → Option Nat
  | [] => none
  | c :: s => if isPrintable c then controlOffset? (offset + c.utf8Size) s else some offset

/-- The mark that may stand at the start of a text to tell how it is encoded. -/
def encodingMark : Char := '\ufeff'

/-- The start of a text.  A mark of its encoding says nothing but takes up a column. -/
def Cursor.ofText (text : List Char) : Cursor :=
  let c : Cursor := ⟨text, {}⟩
  if c.startsWith encodingMark then c.advance else c

/-- The tokens of a text that are settled before its first fault, and that fault. -/
def tokensOf (text : List Char) : List Token × Option Fault :=
  match controlOffset? 0 text with
  | some offset => ([], some (.control offset))
  | none =>
    let first : Layout := { cursor := .ofText text, tokens := #[⟨.streamStart, {}, {}⟩] }
    first.run (text.length + 1)

end PackageFinder.Yaml
