import PackageFinder.Url.Address
import PackageFinder.Url.Domain
import PackageFinder.Url.ParseError

/-!
# Hosts

The host of an address: a domain name, a number, or for schemes of unknown meaning any text.
-/

namespace PackageFinder.Url

/-- The host of an address. -/
inductive Host where
  /-- No name, where a host could stand. -/
  | empty
  /-- A domain name, or the text of a host of unknown meaning. -/
  | name (text : List Char)
  /-- An address of four bytes. -/
  | four (n : Nat)
  /-- An address of eight pieces. -/
  | eight (pieces : List Nat)
  deriving DecidableEq, Repr

namespace Host

/-- The text of a host. -/
def write : Host → List Char
  | empty => []
  | name text => text
  | four n => Address.writeFour n
  | eight pieces => '[' :: Address.writeEight pieces ++ [']']

/-- A name, or none. -/
def ofName (s : List Char) : Host := if s.isEmpty then empty else name s

/-- Reads an address between brackets, of which the first one has been read. -/
def readBracketed (s : List Char) : Except ParseError Host :=
  match s.getLast? with
  | some ']' => match Address.readEight s.dropLast with
    | some pieces => .ok (eight pieces)
    | none => .error .badIpv6
  | _ => .error .badIpv6

/-- Reads the host of a special scheme. -/
def readSpecial (s : List Char) : Except ParseError Host :=
  match s with
  | '[' :: r => readBracketed r
  | s => match (Text.ofUtf8? (percentDecode s)).bind Domain.toAscii with
    | none => .error .badDomain
    | some [] => .error .emptyHost
    | some d =>
      if Address.endsInNumber d then
        match Address.readFour d with
        | some n => .ok (four n)
        | none => .error .badIpv4
      else .ok (name d)

/-- What no host of unknown meaning holds. -/
def isForbidden (c : Char) : Bool := isAmong "\x00\t\n\r #/:<>?@[\\]^|" c

/-- Reads the host of a scheme of unknown meaning. -/
def readOpaque (s : List Char) : Except ParseError Host :=
  match s with
  | '[' :: r => readBracketed r
  | s =>
    if s.any isForbidden then .error .badDomainCharacter
    else .ok (ofName (percentEncode isControl s))

end Host

end PackageFinder.Url
