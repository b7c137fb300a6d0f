import PackageFinder.Text.Digit
import PackageFinder.Yaml.Scalar.Gap

/-!
# Texts between quotes

Between single quotes only the quote is written specially, twice.  Between double quotes a
backslash starts an escape; before a break it joins the lines without a space.
-/

namespace PackageFinder.Yaml

/-- The quote of a text. -/
def quoteOf (double : Bool) : Char := if double then '"' else '\''

/-- The character that a letter after a backslash stands for. -/
def escaped? : Char → Option Char
  | '0' => some '\x00'
  | 'a' => some '\x07'
  | 'b' => some '\x08'
  | 't' => some '\t'
  | '\t' => some '\t'
  | 'n' => some '\n'
  | 'v' => some '\x0b'
  | 'f' => some '\x0c'
  | 'r' => some '\r'
  | 'e' => some '\x1b'
  | ' ' => some ' '
  | '"' => some '"'
  | '/' => some '/'
  | '\\' => some '\\'
  | 'N' => some '\u0085'
  | '_' => some '\u00a0'
  | 'L' => some '\u2028'
  | 'P' => some '\u2029'
  | _ => none

/-- How many digits follow a letter after a backslash. -/
def codeLength? : Char → Option Nat
  | 'x' => some 2
  | 'u' => some 4
  | 'U' => some 8
  | _ => none

/-- The number that exactly `count` hexadecimal digits at the start of a text stand for. -/
def hexNumber? (n : Nat) : Nat → List Char → Option Nat
  | 0, _ => some n
  | count + 1, x :: r => (Text.hexDigit? x).bind fun d => hexNumber? (n * 16 + d) count r
  | _ + 1, [] => none

/-- Reads a character from its digits. -/
def readCode (start : Mark) (count : Nat) (c : Cursor) : Except Fault (Char × Cursor) :=
  match hexNumber? 0 count c.rest with
  | none => c.fail .digitMissing .quotedEscape start
  | some n =>
    if n.isValidChar then .ok (Char.ofNat n, c.skip count)
    else c.fail .badCharacterCode .quotedEscape start

/-- Reads an escape, but none of a break. -/
def readEscape (start : Mark) (c : Cursor) : Except Fault (Char × Cursor) :=
  match (c.at? 1).bind escaped? with
  | some x => .ok (x, c.skip 2)
  | none => match (c.at? 1).bind codeLength? with
    | some count => readCode start count (c.skip 2)
    | none => c.fail .unknownEscape .quotedEscape start

/-- Reads a word of a text between quotes, of at most `fuel` characters, and an escaped break
after it, if there is one. -/
def readQuotedWord (double : Bool) (start : Mark) :
    Nat → Cursor → Except Fault ((List Char × Bool) × Cursor)
  | 0, c => .ok (([], false), c)
  | fuel + 1, c => match c.head? with
    | none => .ok (([], false), c)
    | some x =>
      if isBlank x || isBreak x then .ok (([], false), c)
      else if double && x = '\\' && c.holdsAt 1 isBreak then .ok (([], true), c.skip 2)
      else if x = quoteOf double && (double || !c.holdsAt 1 (· = '\'')) then
        .ok (([], false), c)
      else do
        let (y, after) ←
          if x = quoteOf double then Except.ok (x, c.skip 2)
          else if double && x = '\\' then readEscape start c
          else Except.ok (x, c.advance)
        let ((word, broken), after) ← readQuotedWord double start fuel after
        .ok ((y :: word, broken), after)

/-- Reads the words of a text between quotes, and the closing quote. -/
def readQuotedWords (double : Bool) (start : Mark) :
    Nat → Cursor → Except Fault (List Char × Cursor)
  | 0, c => c.fail .endInQuotes .quotedText start
  | fuel + 1, c =>
    if c.isDocumentBound then c.fail .boundInQuotes .quotedText start
    else if c.isEnd then c.fail .endInQuotes .quotedText start
    else do
      let ((word, broken), c) ← readQuotedWord double start c.rest.length c
      if c.startsWith (quoteOf double) then .ok (word, c.advance)
      else
        let (gap, c) := Gap.read 0 c.rest.length { broken } c
        let (more, c) ← readQuotedWords double start fuel c
        .ok (word ++ gap.folded ++ more, c)

/-- Reads a text between quotes. -/
def readQuoted (double : Bool) (c : Cursor) : Except Fault (List Char × Cursor) :=
  readQuotedWords double c.mark (c.rest.length + 1) c.advance

end PackageFinder.Yaml
