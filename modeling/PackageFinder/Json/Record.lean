import PackageFinder.Decimal.Notation
import PackageFinder.Json.Skip
import PackageFinder.Text.Quoted

/-!
# Reading values of a known shape

Readers for texts, numbers, lists and records.  A record is an object with known members, of which
each may occur once, in any order and among others that are passed over; or it is a list of the
members' values in their order.
-/

namespace PackageFinder.Json
open Text (ticked)

/-- How a number is described. -/
def Number.describe : Number → String
  | whole n => "integer " ++ ticked (toString n)
  | double x => "floating point " ++ ticked x.compact

/-- Refuses the value that a text starts with because something else is wanted. -/
def refuse {α : Type} (wanted : String) (s : List Char) : Except Stop α :=
  match s with
  | [] => stopAt .endInValue []
  | c :: r =>
    if c = 'n' then do
      let (_, r) ← readWord "ull".toList r
      stopAt (.mismatch (.wrongKind "null" wanted)) r
    else if c = 't' then do
      let (_, r) ← readWord "rue".toList r
      stopAt (.mismatch (.wrongKind ("boolean " ++ ticked "true") wanted)) r
    else if c = 'f' then do
      let (_, r) ← readWord "alse".toList r
      stopAt (.mismatch (.wrongKind ("boolean " ++ ticked "false") wanted)) r
    else if c = '"' then do
      let (t, r) ← readString r
      stopAt (.mismatch (.wrongKind ("string " ++ Text.quoted (String.ofList t)) wanted)) r
    else if c = '-' then do
      let (n, r) ← readNumber true r
      stopAt (.mismatch (.wrongKind n.describe wanted)) r
    else if c.isDigit then do
      let (n, r) ← readNumber false (c :: r)
      stopAt (.mismatch (.wrongKind n.describe wanted)) r
    else if c = '[' then stopAt (.mismatch (.wrongKind "sequence" wanted)) (c :: r)
    else if c = '{' then stopAt (.mismatch (.wrongKind "map" wanted)) (c :: r)
    else stopOn .valueMissing (c :: r)

/-- Reads a text that is called `wanted` where it is missing. -/
def readTextAs (wanted : String) (s : List Char) : Except Stop (String × List Char) :=
  match skipBlanks s with
  | '"' :: r => do
    let (t, r) ← readString r
    .ok (String.ofList t, r)
  | r => refuse wanted r

/-- Reads a text. -/
def readText (s : List Char) : Except Stop (String × List Char) := readTextAs "a string" s

/-- Reads a text, or `null` for none. -/
def readTextOrNull (s : List Char) : Except Stop (Option String × List Char) :=
  match skipBlanks s with
  | 'n' :: r => do
    let (_, r) ← readWord "ull".toList r
    .ok (none, r)
  | r => do
    let (t, r) ← readText r
    .ok (some t, r)

/-- Reads `null`. -/
def readNull (s : List Char) : Except Stop (Unit × List Char) :=
  match skipBlanks s with
  | 'n' :: r => readWord "ull".toList r
  | r => refuse "unit" r

/-- Takes a number as a whole one without sign. -/
def naturalOf (n : Number) (s : List Char) : Except Stop (Nat × List Char) :=
  match n with
  | .whole (.ofNat k) => .ok (k, s)
  | .whole _ => stopAt (.mismatch (.wrongValue n.describe "usize")) s
  | .double _ => stopAt (.mismatch (.wrongKind n.describe "usize")) s

/-- Reads a whole number without sign. -/
def readNatural (s : List Char) : Except Stop (Nat × List Char) :=
  match skipBlanks s with
  | [] => stopAt .endInValue []
  | c :: r =>
    if c = '-' then do
      let (n, r) ← readNumber true r
      naturalOf n r
    else if c.isDigit then do
      let (n, r) ← readNumber false (c :: r)
      naturalOf n r
    else refuse "usize" (c :: r)

/-- Reads the items of a list of which the opening bracket has been read. -/
def readItemsWith {α : Type} (item : Nat → List Char → Except Stop (α × List Char)) :
    Nat → List Char → Except Stop (List α × List Char)
  | 0, s => stopAt .endInList s
  | fuel + 1, s => do
    let (v, r) ← item fuel s
    match ← readItemEnd r with
    | (.done, r) => .ok ([v], r)
    | (.more, r) =>
      let (vs, r) ← readItemsWith item fuel r
      .ok (v :: vs, r)

/-- Reads a list. -/
def readListWith {α : Type} (item : Nat → List Char → Except Stop (α × List Char)) (fuel : Nat)
    (s : List Char) : Except Stop (List α × List Char) :=
  match skipBlanks s with
  | '[' :: r => do
    match ← readListStart r with
    | (.done, r) => .ok ([], r)
    | (.more, r) => readItemsWith item fuel r
  | r => refuse "a sequence" r

/-- A known member of a record that is being collected. -/
structure Field (σ : Type) where
  /-- The key. -/
  name : String
  /-- Whether a value has been read. -/
  isSet : σ → Bool
  /-- Reads a value. -/
  read : Nat → σ → List Char → Except Stop (σ × List Char)
  /-- Whether the list form may end before it. -/
  optional : Bool := false

/-- A known member whose value is kept where `get` and `set` say, as it is read. -/
def Field.of {σ α : Type} (name : String) (get : σ → Option α) (set : σ → α → σ)
    (reader : Nat → List Char → Except Stop (α × List Char)) (optional : Bool := false) :
    Field σ where
  name := name
  isSet collected := (get collected).isSome
  read fuel collected s := do
    let (v, r) ← reader fuel s
    .ok (set collected v, r)
  optional := optional

/-- How a record is read. -/
structure RecordShape (σ α : Type) where
  /-- What it is called. -/
  name : String
  /-- Nothing collected. -/
  empty : σ
  /-- The known members in their order. -/
  fields : List (Field σ)
  /-- The record, or the name of the first member that is missing. -/
  finish : σ → Except String α

namespace RecordShape
variable {σ α : Type}

/-- The record that has been collected, before the text that is left. -/
def complete (shape : RecordShape σ α) (collected : σ) (s : List Char) :
    Except Stop (α × List Char) :=
  match shape.finish collected with
  | .ok v => .ok (v, s)
  | .error name => stopAt (.mismatch (.missingMember name)) s

/-- Where a member that occurs again is reported: behind the blanks, and behind a closing brace. -/
def afterRepeated (s : List Char) : List Char :=
  match skipBlanks s with
  | '}' :: r => r
  | r => r

/-- Reads one member after the opening quote of its key. -/
def readMember (shape : RecordShape σ α) (fuel : Nat) (collected : σ) (s : List Char) :
    Except Stop (σ × List Char) := do
  let (key, r) ← readString s
  match shape.fields.find? (·.name = String.ofList key) with
  | none => do
    let (_, r) ← readColon r
    let (_, r) ← skipValue fuel r
    .ok (collected, r)
  | some field =>
    if field.isSet collected then stopAt (.mismatch (.repeatedMember field.name)) (afterRepeated r)
    else do
      let (_, r) ← readColon r
      field.read fuel collected r

/-- Reads the members, the first after the opening quote of its key, up to the closing brace. -/
def readMembers (shape : RecordShape σ α) : Nat → σ → List Char → Except Stop (σ × List Char)
  | 0, _, s => stopAt .endInObject s
  | fuel + 1, collected, s => do
    let (collected, r) ← shape.readMember fuel collected s
    match ← readMemberEnd r with
    | (.done, r) => .ok (collected, r)
    | (.more, r) => readMembers shape fuel collected r

/-- The description of the list form. -/
def listForm (shape : RecordShape σ α) : String :=
  shape.name ++ " with " ++ toString shape.fields.length ++ " elements"

/-- Reads the values of the list form up to its end, which is not read; `next` says whether a
value follows. -/
def readValues (shape : RecordShape σ α) (fuel : Nat) :
    Nat → List (Field σ) → σ → Next × List Char → Except Stop (σ × Bool × List Char)
  | _, [], collected, (.done, s) => .ok (collected, true, s)
  | _, [], collected, (.more, s) => .ok (collected, false, s)
  | seen, field :: fields, collected, (.done, s) =>
    if field.optional then readValues shape fuel (seen + 1) fields collected (.done, s)
    else stopAt (.mismatch (.wrongLength seen shape.listForm)) s
  | seen, field :: fields, collected, (.more, s) => do
    let (collected, r) ← field.read fuel collected s
    if fields.isEmpty then .ok (collected, false, r)
    else readValues shape fuel (seen + 1) fields collected (← readItemEnd r)

/-- Reads the end of the list form after the last value. -/
def readEnd (s : List Char) : Except Stop (Unit × List Char) :=
  match skipBlanks s with
  | [] => stopAt .endInList []
  | ']' :: r => .ok ((), r)
  | ',' :: r => match skipBlanks r with
    | ']' :: r => stopOn .trailingComma (']' :: r)
    | r => stopOn .trailingText r
  | r => stopOn .trailingText r

/-- Reads a record. -/
def read (shape : RecordShape σ α) (fuel : Nat) (s : List Char) : Except Stop (α × List Char) :=
  match skipBlanks s with
  | '{' :: r => do
    match ← readObjectStart r with
    | (.done, r) => shape.complete shape.empty r
    | (.more, r) =>
      let (collected, r) ← shape.readMembers fuel shape.empty r
      shape.complete collected r
  | '[' :: r => do
    let (collected, ended, r) ←
      shape.readValues fuel 0 shape.fields shape.empty (← readListStart r)
    if ended then shape.complete collected r
    else
      let (_, r) ← readEnd r
      shape.complete collected r
  | r => refuse shape.name r

end RecordShape

end PackageFinder.Json
