import PackageFinder.Mismatch

/-!
# What can be wrong with a JSON text

The faults of JSON texts, their wording, and the places where they are reported.  A place is a
line, counted from one, and the number of bytes before it on that line.  A reader that stops
says what it left unread; the place follows from that and from the whole text.
-/

namespace PackageFinder.Json
open Text (ticked)

/-- What is wrong with a text. -/
inductive Fault where
  | endInList
  | endInObject
  | endInString
  | endInValue
  | colonMissing
  | itemEndMissing
  | memberEndMissing
  | misspeltWord
  | valueMissing
  | badEscape
  | badNumber
  | numberTooLarge
  | controlCharacter
  | keyNotString
  | loneSurrogate
  | unfinishedPair
  | trailingComma
  | trailingText
  | tooDeep
  | mismatch (m : Mismatch)
  deriving DecidableEq, Repr

def Fault.message : Fault → String
  | endInList => "EOF while parsing a list"
  | endInObject => "EOF while parsing an object"
  | endInString => "EOF while parsing a string"
  | endInValue => "EOF while parsing a value"
  | colonMissing => "expected " ++ ticked ":"
  | itemEndMissing => "expected " ++ ticked "," ++ " or " ++ ticked "]"
  | memberEndMissing => "expected " ++ ticked "," ++ " or " ++ ticked "\x7d"
  | misspeltWord => "expected ident"
  | valueMissing => "expected value"
  | badEscape => "invalid escape"
  | badNumber => "invalid number"
  | numberTooLarge => "number out of range"
  | controlCharacter => "control character (\\u0000-\\u001F) found while parsing a string"
  | keyNotString => "key must be a string"
  | loneSurrogate => "lone leading surrogate in hex escape"
  | unfinishedPair => "unexpected end of hex escape"
  | trailingComma => "trailing comma"
  | trailingText => "trailing characters"
  | tooDeep => "recursion limit exceeded"
  | mismatch m => m.message

/-- A place in a text. -/
structure Place where
  /-- The line, counted from one. -/
  line : Nat
  /-- The bytes before the place on its line. -/
  column : Nat
  deriving DecidableEq, Repr

/-- The place `n` bytes further on, or the end of the text. -/
def Place.advance (p : Place) : Nat → List Char → Place
  | _, [] => p
  | n, c :: s =>
    if n < c.utf8Size then ⟨p.line, p.column + n⟩
    else
      advance (if c = '\n' then ⟨p.line + 1, 0⟩ else ⟨p.line, p.column + c.utf8Size⟩)
        (n - c.utf8Size) s

/-- The number of bytes of a text. -/
def byteCount (s : List Char) : Nat := s.foldl (fun n c => n + c.utf8Size) 0

/-- How a reader stops at a fault. -/
structure Stop where
  /-- What is wrong. -/
  fault : Fault
  /-- What had not been read. -/
  left : List Char
  /-- How many bytes of it count as read. -/
  ahead : Nat

/-- A fault at a place. -/
structure Complaint where
  /-- What is wrong. -/
  fault : Fault
  /-- Where. -/
  place : Place
  deriving DecidableEq, Repr

/-- The place where a reader of a text stopped. -/
def Stop.within (stop : Stop) (text : List Char) : Complaint :=
  let read := byteCount text - byteCount stop.left
  ⟨stop.fault, Place.advance ⟨1, 0⟩ (read + stop.ahead) text⟩

def Complaint.message (c : Complaint) : String :=
  c.fault.message ++ " at line " ++ toString c.place.line ++ " column " ++ toString c.place.column

/-- Stops before the text that is left. -/
def stopAt {α : Type} (fault : Fault) (left : List Char) : Except Stop α :=
  .error ⟨fault, left, 0⟩

/-- Stops one byte into the text that is left. -/
def stopOn {α : Type} (fault : Fault) (left : List Char) : Except Stop α :=
  .error ⟨fault, left, 1⟩

end PackageFinder.Json
