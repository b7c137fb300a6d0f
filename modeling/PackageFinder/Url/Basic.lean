import PackageFinder.Url.Form
import PackageFinder.Url.Host

/-!
# Addresses

The parts of an address, and the text that they form.  The parts are kept in the form in which
they are written.
-/

namespace PackageFinder

/-- The parts of an address. -/
structure Url where
  /-- What stands before the first colon, in small letters. -/
  scheme : List Char
  /-- The user name; empty for none. -/
  username : List Char := []
  /-- The password. -/
  password : Option (List Char) := none
  /-- The host, if the address has the form of one with a host. -/
  host : Option Url.Host := none
  /-- The port, unless it is the one of the scheme. -/
  port : Option Nat := none
  /-- The path. -/
  path : List Char := []
  /-- The query. -/
  query : Option (List Char) := none
  /-- The fragment. -/
  fragment : Option (List Char) := none
  deriving DecidableEq, Repr

namespace Url

/-- The port that a scheme implies. -/
def defaultPort? (scheme : List Char) : Option Nat :=
  if scheme = "http".toList ∨ scheme = "ws".toList then some 80
  else if scheme = "https".toList ∨ scheme = "wss".toList then some 443
  else if scheme = "ftp".toList then some 21
  else none

/-- Whether a scheme is one of files. -/
def isFile (scheme : List Char) : Bool := decide (scheme = "file".toList)

/-- Whether the parts of an address have a fixed meaning. -/
def isSpecial (scheme : List Char) : Bool := isFile scheme || (defaultPort? scheme).isSome

/-- User name and password, with the sign that ends them. -/
def writeUser (u : Url) : List Char :=
  match u.password with
  | some p => u.username ++ ':' :: p ++ ['@']
  | none => if u.username.isEmpty then [] else u.username ++ ['@']

/-- The port with its colon. -/
def writePort (u : Url) : List Char :=
  match u.port with
  | some n => ':' :: Nat.toDigits 10 n
  | none => []

/-- What stands between the scheme and the path; without a host, a path that looks like one is set
off. -/
def writeAuthority (u : Url) : List Char :=
  match u.host with
  | some h => '/' :: '/' :: u.writeUser ++ h.write ++ u.writePort
  | none => if (Text.after? ['/', '/'] u.path).isSome then ['/', '.'] else []

/-- An optional part with the sign that announces it. -/
def writePart (sign : Char) : Option (List Char) → List Char
  | some s => sign :: s
  | none => []

/-- The text of an address. -/
def write (u : Url) : List Char :=
  u.scheme ++ ':' :: u.writeAuthority ++ u.path ++ writePart '?' u.query
    ++ writePart '#' u.fragment

/-- The text of an address, as a string. -/
def text (u : Url) : String := String.ofList u.write

/-- Whether an address names a host. -/
def hasHost (u : Url) : Bool :=
  match u.host with
  | none => false
  | some .empty => false
  | some _ => true

/-- The address with more pairs at the end of its query. -/
def addPairs (u : Url) (ps : List (String × String)) : Url :=
  let query := Form.addPairs (u.query.getD []) ps
  { u with query := if query.isEmpty then none else some query }

/-- The address without user name and password, unless they are not those of any text. -/
def withoutUser (u : Url) : Url :=
  match Text.ofUtf8? (percentDecode u.username) with
  | none => u
  | some name =>
    let password := u.password.bind fun p => Text.ofUtf8? (percentDecode p)
    if name.isEmpty && password.isNone then u else { u with username := [], password := none }

end Url

end PackageFinder
