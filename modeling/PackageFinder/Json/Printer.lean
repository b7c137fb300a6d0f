import PackageFinder.Decimal.Notation
import PackageFinder.Json.Value

/-!
# Writing JSON texts

`Value.pretty` writes a value over several lines, one space deeper for each level, an empty list or
object on one line.  In strings only quotes, backslashes and control characters are escaped.
-/

namespace PackageFinder.Json

/-- Two hexadecimal digits. -/
def hexPair (n : Nat) : List Char := [Nat.digitChar (n / 16 % 16), Nat.digitChar (n % 16)]

/-- What is written for one character of a string. -/
def escapeChar (c : Char) : List Char :=
  match c with
  | '"' => ['\\', '"']
  | '\\' => ['\\', '\\']
  | '\x08' => ['\\', 'b']
  | '\x0c' => ['\\', 'f']
  | '\n' => ['\\', 'n']
  | '\r' => ['\\', 'r']
  | '\t' => ['\\', 't']
  | c => if c.toNat < 0x20 then ['\\', 'u', '0', '0'] ++ hexPair c.toNat else [c]

/-- A string with its quotes. -/
def writeString (s : String) : List Char := '"' :: s.toList.flatMap escapeChar ++ ['"']

/-- A number. -/
def Number.write : Number → List Char
  | whole n => (toString n).toList
  | double x => if x.isFinite then x.compact.toList else "null".toList

/-- The start of a line at some depth, after the end of the line before. -/
def newLine (depth : Nat) : List Char := '\n' :: List.replicate depth ' '

mutual

/-- Writes a value that stands at some depth. -/
def Value.pretty (depth : Nat) : Value → List Char
  | .null => "null".toList
  | .bool b => (toString b).toList
  | .number n => n.write
  | .text s => writeString s
  | .list [] => ['[', ']']
  | .list (v :: vs) =>
    '[' :: newLine (depth + 1) ++ v.pretty (depth + 1) ++ prettyItems (depth + 1) vs
      ++ newLine depth ++ [']']
  | .object [] => ['{', '}']
  | .object ((k, v) :: ms) =>
    '{' :: newLine (depth + 1) ++ writeString k ++ [':', ' '] ++ v.pretty (depth + 1)
      ++ prettyMembers (depth + 1) ms ++ newLine depth ++ ['}']

/-- Writes the items after the first. -/
def prettyItems (depth : Nat) : List Value → List Char
  | [] => []
  | v :: vs => ',' :: newLine depth ++ v.pretty depth ++ prettyItems depth vs

/-- Writes the members after the first. -/
def prettyMembers (depth : Nat) : List (String × Value) → List Char
  | [] => []
  | (k, v) :: ms =>
    ',' :: newLine depth ++ writeString k ++ [':', ' '] ++ v.pretty depth
      ++ prettyMembers depth ms

end

end PackageFinder.Json
