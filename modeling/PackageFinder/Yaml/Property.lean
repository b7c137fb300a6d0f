import PackageFinder.Text.Utf8
import PackageFinder.Text.Digit
import PackageFinder.Yaml.Token

/-!
# Anchors and tags

What can stand before a value: a name to refer to it by, and the name of its kind.
-/

namespace PackageFinder.Yaml

/-- Whether a character may follow the name of an anchor that no space follows. -/
def endsName (c : Char) : Bool := "?:,]\x7d%@\x60".toList.contains c

/-- Reads the name of an anchor or alias after its mark. -/
def readAnchorName (activity : Activity) (c : Cursor) : Except Fault (String × Cursor) :=
  let (name, after) := c.advance.takeWhile isNameChar
  if name.isEmpty || !(after.isGap || after.holds endsName) then
    after.fail .nameMissing activity c.mark
  else .ok (String.ofList name, after)

/-! ### Tags -/

/-- How many octets a character has that starts with this one. -/
def octetCount? (octet : Nat) : Option Nat :=
  if octet < 0x80 then some 1
  else if 0xC0 ≤ octet ∧ octet < 0xE0 then some 2
  else if 0xE0 ≤ octet ∧ octet < 0xF0 then some 3
  else if 0xF0 ≤ octet ∧ octet < 0xF8 then some 4
  else none

/-- Reads one octet from a percent sign and two digits. -/
def readOctet (activity : Activity) (start : Mark) (c : Cursor) : Except Fault (Nat × Cursor) :=
  match c.rest with
  | '%' :: a :: b :: _ => match Text.hexDigit? a, Text.hexDigit? b with
    | some m, some n => .ok (m * 16 + n, c.skip 3)
    | _, _ => c.fail .octetMissing activity start
  | _ => c.fail .octetMissing activity start

/-- Reads octets that continue a character.  The fault of a wrong one stands before it. -/
def readNextOctets (activity : Activity) (start : Mark) :
    Nat → Cursor → Except Fault (List UInt8 × Cursor)
  | 0, c => .ok ([], c)
  | n + 1, c => do
    let (octet, after) ← readOctet activity start c
    if 0x80 ≤ octet ∧ octet < 0xC0 then
      let (octets, after) ← readNextOctets activity start n after
      .ok (UInt8.ofNat octet :: octets, after)
    else c.fail .badNextOctet activity start

/-- Reads the octets of one character. -/
def readOctets (activity : Activity) (start : Mark) (c : Cursor) :
    Except Fault (List UInt8 × Cursor) := do
  let (octet, after) ← readOctet activity start c
  match octetCount? octet with
  | none => c.fail .badFirstOctet activity start
  | some n =>
    let (octets, after) ← readNextOctets activity start (n - 1) after
    .ok (UInt8.ofNat octet :: octets, after)

/-- Whether a character can stand in a tag; brackets and commas only where they end nothing. -/
def isTagChar (bracketed : Bool) (c : Char) : Bool :=
  isNameChar c || ";/?:@&=+$.%!~*'()".toList.contains c || bracketed && ",[]".toList.contains c

/-- Reads characters of a tag, at most `fuel` of them. -/
def readTagChars (bracketed : Bool) (activity : Activity) (start : Mark) :
    Nat → Cursor → Except Fault (List UInt8 × Cursor)
  | 0, c => .ok ([], c)
  | fuel + 1, c => match c.head? with
    | none => .ok ([], c)
    | some x =>
      if !isTagChar bracketed x then .ok ([], c)
      else do
        let (octets, after) ←
          if x = '%' then readOctets activity start c
          else Except.ok (String.utf8EncodeChar x, c.advance)
        let (more, after) ← readTagChars bracketed activity start fuel after
        .ok (octets ++ more, after)

/-- Reads the name in a tag, which may be missing only after a handle that gives it. -/
def readTagName (bracketed given : Bool) (activity : Activity) (start : Mark) (c : Cursor) :
    Except Fault (Tag × Cursor) := do
  let (name, after) ← readTagChars bracketed activity start c.rest.length c
  if name.isEmpty && !given then after.fail .tagNameMissing activity start
  else .ok (name, after)

/-- Reads an exclamation mark, a name, and the exclamation mark after it, if there is one. -/
def readHandle (activity : Activity) (start : Mark) (c : Cursor) :
    Except Fault (List Char × Cursor) :=
  if !c.startsWith '!' then c.fail .exclamationMissing activity start
  else
    let (name, after) := c.advance.takeWhile isNameChar
    if after.startsWith '!' then .ok ('!' :: name ++ ['!'], after.advance)
    else .ok ('!' :: name, after)

/-- Reads a tag between angle brackets after its exclamation mark. -/
def readBracketedTag (start : Mark) (c : Cursor) : Except Fault (TokenKind × Cursor) := do
  let (name, after) ← readTagName true false .tagName start c.advance
  if after.startsWith '>' then .ok (.tag "" name, after.advance)
  else after.fail .angleMissing .tag start

/-- Reads a tag with a handle.  What looks like a handle but does not end in an exclamation mark
starts the name, and a lone exclamation mark is a name of its own. -/
def readHandledTag (start : Mark) (c : Cursor) : Except Fault (TokenKind × Cursor) := do
  let (handle, after) ← readHandle .tag start c
  if 1 < handle.length && handle.getLast? = some '!' then
    let (name, after) ← readTagName false false .tagName start after
    .ok (.tag (String.ofList handle) name, after)
  else
    let (name, after) ← readTagName false true .tagName start after
    let name := Text.utf8 handle.tail ++ name
    .ok (if name.isEmpty then .tag "" (Text.utf8 handle) else .tag "!" name, after)

/-- Reads a tag; between brackets a comma may follow it. -/
def readTag (inFlow : Bool) (c : Cursor) : Except Fault (TokenKind × Cursor) := do
  let (kind, after) ←
    if c.holdsAt 1 (· = '<') then readBracketedTag c.mark c.advance else readHandledTag c.mark c
  if after.isGap || inFlow && after.startsWith ',' then .ok (kind, after)
  else after.fail .gapMissing .tag c.mark

end PackageFinder.Yaml
