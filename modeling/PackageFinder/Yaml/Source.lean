import PackageFinder.Yaml.Layout
import PackageFinder.Yaml.Node

/-!
# Reading from tokens

The tokens that are left, and what has been declared so far.  Reading goes on until a fault is met;
after that there are no tokens any more, so that what is read then is cut off.
-/

namespace PackageFinder.Yaml

/-- Tokens to read from. -/
structure Source where
  /-- The tokens that are left. -/
  tokens : List Token
  /-- The fault that ends the tokens. -/
  ending : Option Fault
  /-- The fault that has been met. -/
  fault : Option Fault := none
  /-- What the handles stand for. -/
  handles : List (String × Tag) := []
  /-- The numbers of the anchors. -/
  anchors : List (String × Nat) := []

/-- What reads from tokens. -/
abbrev Reading := StateM Source

namespace Reading

/-- The next token; the fault that ends the tokens is met where they end. -/
def peek : Reading (Option Token) := do
  let s ← get
  if s.fault.isSome then return none
  match s.tokens with
  | token :: _ => return some token
  | [] =>
    set { s with fault := s.ending }
    return none

/-- Goes over a token. -/
def skip : Reading Unit := modify fun s => { s with tokens := s.tokens.tail }

/-- Meets a fault. -/
def fail (fault : Fault) : Reading Unit := modify fun s => { s with fault := some fault }

/-- Meets a problem at a token, while reading something that began at `start`. -/
def failAt (token : Token) (problem : Problem) (activity : Activity) (start : Mark) :
    Reading Unit :=
  fail (.met problem token.start (some (activity, start)))

/-- Meets a problem at a token, while reading nothing in particular. -/
def failPlainly (token : Token) (problem : Problem) : Reading Unit :=
  fail (.met problem token.start none)

/-- Numbers an anchor.  The number is how many names there were, so an anchor that is set again
may get the number of one that is set later. -/
def number (name : String) : Reading Nat := do
  let s ← get
  let n := s.anchors.length
  set { s with anchors := (name, n) :: s.anchors.filter (·.1 ≠ name) }
  return n

/-- The number of an anchor. -/
def numberOf? (name : String) : Reading (Option Nat) := do
  let s ← get
  return s.anchors.lookup name

/-! ### Directives -/

/-- What the handles stand for that are always there. -/
def standardHandles : List (String × Tag) :=
  [("!", Text.utf8 "!".toList), ("!!", Text.utf8 "tag:yaml.org,2002:".toList)]

/-- Declares a handle, unless that has been done before. -/
def declare (token : Token) (name : String) (stem : Tag) : Reading Unit := do
  let s ← get
  if (s.handles.lookup name).isSome then failPlainly token .repeatedHandle
  else set { s with handles := (name, stem) :: s.handles }

/-- Reads at most `fuel` directives; `versioned` tells whether a version was among those before. -/
def readDirectives : Nat → Bool → Reading Unit
  | 0, _ => return
  | fuel + 1, versioned => do
    match ← peek with
    | none => return
    | some token => match token.kind with
      | .version major minor =>
        if versioned then failPlainly token .repeatedVersion
        else if major = 1 ∧ (minor = 1 ∨ minor = 2) then
          skip
          readDirectives fuel true
        else failPlainly token .otherVersion
      | .handle name stem =>
        declare token name stem
        skip
        readDirectives fuel versioned
      | _ => modify fun s => { s with handles := s.handles ++ standardHandles }

end Reading

end PackageFinder.Yaml
