import PackageFinder.Url.Basic
import PackageFinder.Url.Path

/-!
# Reading addresses

A text is read as an address part by part: scheme, user and password, host, port, path, query and
fragment.  Blanks around it, and tabs and line ends anywhere in it, do not count.
-/

namespace PackageFinder.Url

/-- Control characters and the space. -/
def isOuterBlank (c : Char) : Bool := decide (c.toNat ≤ 0x20)

/-- Tabs and line ends. -/
def isIgnored (c : Char) : Bool := c = '\t' || c = '\n' || c = '\r'

/-- The characters of a text that count. -/
def significant (s : List Char) : List Char :=
  let s := s.dropWhile isOuterBlank
  (s.reverse.dropWhile isOuterBlank).reverse.filter (!isIgnored ·)

/-- May stand in a scheme. -/
def isSchemeChar (c : Char) : Bool := c.isAlphanum || c = '+' || c = '-' || c = '.'

/-- The scheme that a text starts with, and what follows its colon. -/
def readScheme (s : List Char) : Option (List Char × List Char) :=
  match s with
  | [] => none
  | c :: _ =>
    if !c.isAlpha then none
    else match s.dropWhile isSchemeChar with
      | ':' :: r => some ((s.takeWhile isSchemeChar).map Char.toLower, r)
      | _ => none

/-- Ends what stands before the path. -/
def endsAuthority (special : Bool) (c : Char) : Bool :=
  c = '/' || c = '?' || c = '#' || (special && c = '\\')

/-- Separates segments of a path. -/
def isSlash (special : Bool) (c : Char) : Bool := c = '/' || (special && c = '\\')

/-- Ends a path. -/
def endsPath (c : Char) : Bool := c = '?' || c = '#'

/-- Name and password before the sign that ends them. -/
def readUser (s : List Char) : List Char × Option (List Char) :=
  let name := percentEncode userBad (s.takeWhile (· ≠ ':'))
  match s.dropWhile (· ≠ ':') with
  | _ :: c :: r => (name, some (percentEncode userBad (c :: r)))
  | _ => (name, none)

/-- The user and the password of an address and what follows them. -/
def splitUser (special : Bool) (s : List Char) :
    Except ParseError (List Char × Option (List Char) × List Char) :=
  let authority := s.takeWhile (!endsAuthority special ·)
  let rest := s.dropWhile (!endsAuthority special ·)
  match Text.splitLast? '@' authority with
  | none => .ok ([], none, s)
  | some ([], r) =>
    if r.isEmpty && !rest.isEmpty then .error .emptyHost else .ok ([], none, r ++ rest)
  | some (user, r) =>
    let (name, password) := readUser user
    .ok (name, password, r ++ rest)

/-- The text of a host, up to a colon outside brackets or the end of the authority, and what
follows. -/
def splitHost (special : Bool) : Bool → List Char → List Char × List Char
  | _, [] => ([], [])
  | inside, c :: s =>
    if (c = ':' && !inside) || endsAuthority special c then ([], c :: s)
    else
      let (h, r) := splitHost special ((inside || c = '[') && c ≠ ']') s
      (c :: h, r)

/-- The digits of a port and what follows them. -/
def readPort (s : List Char) : Except ParseError (Option Nat × List Char) :=
  let digits := s.takeWhile Char.isDigit
  let rest := s.dropWhile Char.isDigit
  let n := digits.foldl (fun n c => n * 10 + (c.toNat - 48)) 0
  let ended := match rest with
    | [] => true
    | c :: _ => endsAuthority true c
  if 65535 < n ∨ !ended then .error .badPort
  else .ok (if digits.isEmpty then none else some n, rest)

/-- Query and fragment. -/
def readTail (special : Bool) (s : List Char) : Option (List Char) × Option (List Char) :=
  let fragment (r : List Char) := match r with
    | _ :: r => some (percentEncode fragmentBad r)
    | [] => none
  match s with
  | '?' :: r =>
    let bad := if special then specialQueryBad else queryBad
    (some (percentEncode bad (r.takeWhile (· ≠ '#'))), fragment (r.dropWhile (· ≠ '#')))
  | s => (none, fragment s)

/-- The pieces of a text between slashes. -/
def segments (special : Bool) : List Char → List (List Char)
  | [] => [[]]
  | c :: s =>
    if isSlash special c then [] :: segments special s
    else match segments special s with
      | [] => [[c]]
      | p :: ps => (c :: p) :: ps

/-- The path after the host. -/
def readPath (special : Bool) (s : List Char) : List Char :=
  match s with
  | [] => if special then ['/'] else []
  | c :: r =>
    if isSlash special c then Path.ofSegments (segments special r)
    else Path.ofSegments (segments special s)

/-- Adds path, query and fragment. -/
def finish (u : Url) (special : Bool) (path : List Char → List Char) (s : List Char) : Url :=
  let (query, fragment) := readTail special (s.dropWhile (!endsPath ·))
  { u with path := path (s.takeWhile (!endsPath ·)), query := query, fragment := fragment }

/-- Reads an address after the two slashes that announce a host. -/
def readAuthority (scheme : List Char) (s : List Char) : Except ParseError Url := do
  let special := isSpecial scheme
  let (username, password, s) ← splitUser special s
  let (hostText, s) := splitHost special false s
  if special && hostText.isEmpty then throw .emptyHost
  let host ← if special then Host.readSpecial hostText else Host.readOpaque hostText
  let hasPort := s.head? = some ':'
  if host = .empty ∧ hasPort then throw .emptyHost
  let (port, s) ← if hasPort then readPort s.tail else pure (none, s)
  if host = .empty ∧ (!username.isEmpty ∨ password.isSome) then throw .emptyHost
  let u : Url :=
    { scheme := scheme, username := username, password := password, host := some host,
      port := if port = defaultPort? scheme then none else port }
  return finish u special (readPath special) s

/-- Reads an address of a scheme of unknown meaning that has no host. -/
def readPlain (scheme : List Char) (s : List Char) : Url :=
  let path (p : List Char) := match p with
    | '/' :: r => Path.ofSegments (segments false r)
    | p => percentEncode isControl p
  finish { scheme := scheme } false path s

/-- The path of a file after the host. -/
def readFilePath (s : List Char) : List Char :=
  match s with
  | [] => ['/']
  | c :: r => Path.ofFileSegments (segments true (if isSlash true c then r else s))

/-- Whether a path after the host starts with a drive letter. -/
def startsWithDrive (s : List Char) : Bool :=
  match segments true (s.takeWhile (!endsPath ·)) with
  | _ :: p :: _ => Path.isDrive p
  | _ => false

/-- Reads the address of a file.  A drive letter leaves no place for a host. -/
def readFile (s : List Char) : Except ParseError Url :=
  let file : Url := { scheme := "file".toList, host := some .empty }
  match s with
  | a :: b :: r =>
    if isSlash true a && isSlash true b then
      let hostText := r.takeWhile (!endsAuthority true ·)
      if Path.isDrive hostText then .ok (finish file true readFilePath r)
      else if hostText.isEmpty then .ok (finish file true readFilePath r)
      else do
        let rest := r.dropWhile (!endsAuthority true ·)
        let host ← Host.readSpecial hostText
        let isLocal := host = .name "localhost".toList ∨ startsWithDrive rest
        return finish { file with host := some (if isLocal then .empty else host) } true
          readFilePath rest
    else .ok (finish file true readFilePath s)
  | s => .ok (finish file true readFilePath s)

/-- Reads an address. -/
def parse (text : String) : Except ParseError Url :=
  match readScheme (significant text.toList) with
  | none => .error .relativeWithoutBase
  | some (scheme, s) =>
    if isFile scheme then readFile s
    else if isSpecial scheme then readAuthority scheme (s.dropWhile (isSlash true ·))
    else match s with
      | '/' :: '/' :: r => readAuthority scheme r
      | s => .ok (readPlain scheme s)

end PackageFinder.Url
