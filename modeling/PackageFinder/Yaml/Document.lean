import PackageFinder.Yaml.Grammar

/-!
# Documents

The first document of a text, and whether anything follows it.
-/

namespace PackageFinder.Yaml

/-- The first document of a text. -/
structure Document where
  /-- Its value. -/
  root : Node
  /-- The fault that cut it off, or that was met after its value. -/
  fault : Option Fault := none
  /-- Whether anything follows it. -/
  followed : Bool := false
  deriving DecidableEq, Inhabited

namespace Reading

/-- Whether a token starts or ends a document, or says something about one. -/
def isBetweenDocuments : TokenKind → Bool
  | .version _ _ => true
  | .handle _ _ => true
  | .documentStart => true
  | .documentEnd => true
  | .streamEnd => true
  | _ => false

/-- Reads the value of a document after the mark that starts it. -/
def readMarked (fuel : Nat) : Reading Node := do
  match ← peek with
  | none => return .cut
  | some token =>
    if token.kind ≠ .documentStart then
      failPlainly token .documentStartMissing
      return .cut
    else
      skip
      readOptional fuel .block isBetweenDocuments none

/-- Reads the value of the first document.  Only a document with directives needs a mark at its
start. -/
def readRoot (fuel : Nat) : Reading Node := do
  match ← peek with
  | none => return .cut
  | some token =>
    if token.kind = .streamEnd then return .void
    else
      readDirectives fuel false
      if token.kind ≠ .documentEnd ∧ isBetweenDocuments token.kind then readMarked fuel
      else readNode fuel .block

/-- Reads the marks that end documents. -/
def skipDocumentEnds : Nat → Reading Unit
  | 0 => return
  | fuel + 1 => do
    match ← peek with
    | some ⟨.documentEnd, _, _⟩ =>
      skip
      skipDocumentEnds fuel
    | _ => return

/-- Whether anything but marks that end documents follows. -/
def isFollowed (fuel : Nat) : Reading Bool := do
  skipDocumentEnds fuel
  match ← peek with
  | some ⟨.streamEnd, _, _⟩ => return false
  | _ => return true

/-- Reads the first document. -/
def readDocument (fuel : Nat) : Reading Document := do
  match ← peek with
  | none => return { root := .cut, fault := (← get).fault }
  | some _ =>
    skip
    let root ← readRoot fuel
    match ← peek with
    | none => return { root, fault := (← get).fault }
    | some _ => return { root, followed := ← isFollowed fuel }

end Reading

/-- The first document of a text. -/
def Document.parse (text : String) : Document :=
  let (tokens, ending) := tokensOf text.toList
  ((Reading.readDocument (4 * tokens.length + 8)).run { tokens, ending }).1

/-- The value that a value stands for: the anchored one, if it is an alias. -/
def Document.follow (d : Document) (node : Node) : Node :=
  match node with
  | .reference _ anchor => (d.root.find? anchor).getD .cut
  | node => node

end PackageFinder.Yaml
