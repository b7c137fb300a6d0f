import PackageFinder.Yaml.Document
import PackageFinder.Yaml.Meaning

/-!
# Values of a known shape

Decoders for texts, numbers, truth values, names and records.  A record is a mapping with known
keys, of which each may occur once, in any order and among others that are passed over.
-/

namespace PackageFinder.Yaml

/-- The keys that lead to a value, outermost first. -/
abbrev Path := List String

/-- Why a value is refused. -/
inductive Refusal where
  /-- It does not fit, at a place that may still have to be found. -/
  | mismatch (m : Mismatch) (place : Option (Path × Mark))
  /-- It is cut off. -/
  | cut
  deriving DecidableEq, Repr

/-- Reads a value at a path. -/
abbrev Decoder (α : Type) := Document → Path → Node → Except Refusal α

/-- Gives a mismatch without a place its place. -/
def Refusal.at (path : Path) (mark : Mark) : Refusal → Refusal
  | mismatch m none => mismatch m (some (path, mark))
  | r => r

/-- A mismatch at a place. -/
def refuseAt {α : Type} (path : Path) (mark : Mark) (m : Mismatch) : Except Refusal α :=
  .error (.mismatch m (some (path, mark)))

/-- How a text fails to be what is wanted. -/
def scalarMismatch (tag : Option Tag) (style : Style) (text wanted : String) : Mismatch :=
  match scalarMeaning tag style text with
  | .ok meaning => .wrongKind meaning.describe wanted
  | .error tagged => .wrongValue (Meaning.text text).describe tagged

/-- Refuses a value because something else is wanted. -/
def refuse {α : Type} (wanted : String) (path : Path) (node : Node) : Except Refusal α :=
  match node with
  | .scalar header style text =>
    refuseAt path header.mark (scalarMismatch header.tag style text wanted)
  | .list header _ => refuseAt path header.mark (.wrongKind "sequence" wanted)
  | .mapping header _ => refuseAt path header.mark (.wrongKind "map" wanted)
  | _ => .error .cut

namespace Decoder

/-- Reads a text, of whatever style. -/
def textAs (wanted : String) : Decoder String := fun d path node =>
  match d.follow node with
  | .scalar _ _ text => .ok text
  | other => refuse wanted path other

/-- Reads a text. -/
def text : Decoder String := textAs "a string"

/-- Reads a text, or nothing from a plain text that means nothing. -/
def textOrNone : Decoder (Option String) := fun d path node =>
  match d.follow node with
  | .scalar header .plain s => match header.tag with
    | some tag =>
      if tag ≠ standardTag "null" then .ok (some s)
      else if isNullWord s then .ok none
      else .error (.mismatch (.wrongValue (Meaning.text s).describe "null") none)
    | none => .ok (if s = "" ∨ isNullWord s then none else some s)
  | .void => .ok none
  | other => (text d path other).map some

/-- Whether a text can spell a value of a kind: it is plain, or a literal block with its tag. -/
def canSpell (kind : String) (header : Header) (style : Style) : Bool :=
  style = .plain || style = .literal && header.tag = some (standardTag kind)

/-- Reads a value of a kind from its spelling. -/
def spelt {α : Type} (kind wanted : String) (read : List Char → Option α) : Decoder α :=
  fun d path node => match d.follow node with
    | .scalar header style s =>
      match if canSpell kind header style then read s.toList else none with
      | some v => .ok v
      | none => refuse wanted path (.scalar header style s)
    | other => refuse wanted path other

/-- Reads a truth value. -/
def bool : Decoder Bool := spelt "bool" "a boolean" fun s => readBool? (String.ofList s)

/-- Reads a double. -/
def double : Decoder Binary64 := spelt "float" "f64" readFloat?

/-- Reads a whole number of 64 bits without sign. -/
def word (wanted : String) : Decoder Nat :=
  spelt "int" wanted fun s => (readUnsigned? s).filter (· < UInt64.size)

/-- Reads a whole number without sign up to `bound`. -/
def natural (bound : Nat) (wanted : String) : Decoder Nat := fun d path node => do
  let n ← word wanted d path node
  if n ≤ bound then .ok n
  else match d.follow node with
    | .scalar header _ _ =>
      refuseAt path header.mark (.wrongValue (Meaning.whole n).describe wanted)
    | _ => .error .cut

/-! ### Names -/

/-- The name in a tag that begins with an exclamation mark. -/
def nameOfTag? (tag : Option Tag) : Option String :=
  match tag with
  | some (first :: rest) =>
    if [first] = Text.utf8 ['!'] then (Text.ofUtf8? rest).map String.ofList else none
  | _ => none

/-- Reads nothing, after a tag that has said it all. -/
def nothing (path : Path) (node : Node) : Except Refusal Unit :=
  match node with
  | .scalar header style s =>
    if style = .plain ∧ (s = "" ∨ isNullWord s) then .ok ()
    else refuseAt path header.mark (.wrongValue (Meaning.text s).describe "null")
  | .list header _ => refuseAt path header.mark (.wrongKind "sequence" "unit")
  | .mapping header _ => refuseAt path header.mark (.wrongKind "map" "unit")
  | _ => .error .cut

/-- The header of a value that has one. -/
def headerOf? : Node → Option Header
  | .scalar header _ _ => some header
  | .list header _ => some header
  | .mapping header _ => some header
  | _ => none

/-- The value with a name, if the name is among the known ones. -/
def named {α : Type} (all : List (String × α)) (name : String) : Except Refusal α :=
  match all.lookup name with
  | some v => .ok v
  | none => .error (.mismatch (.unknownName name (all.map (·.1))) none)

/-- Reads a name that stands for a value: as a text, or as a tag with nothing after it. -/
def name {α : Type} (all : List (String × α)) : Decoder α := fun d path node =>
  let node := d.follow node
  match nameOfTag? ((headerOf? node).bind (·.tag)) with
  | some tagged => do
    let v ← named all tagged
    nothing path node
    .ok v
  | none => match node with
    | .scalar header _ s => (named all s).mapError (·.at path header.mark)
    | other => refuse "a YAML tag starting with '!'" path other

/-! ### Records -/

/-- A known key of a record. -/
structure KnownKey (σ : Type) where
  /-- The key. -/
  name : String
  /-- Reads its value into the record. -/
  read : σ → Decoder σ

/-- A known key whose value is read by a decoder. -/
def KnownKey.of {σ α : Type} (name : String) (decoder : Decoder α) (set : σ → α → σ) : KnownKey σ :=
  ⟨name, fun record d path node => (decoder d path node).map (set record)⟩

/-- A key as a step of a path; only a text shows there. -/
def stepOf (key : Node) : String :=
  match key with
  | .scalar _ _ text => text
  | _ => "?"

/-- Reads keys and their values into a record; `seen` holds the known keys before them. -/
def readEntries {σ : Type} (fields : List (KnownKey σ)) (d : Document) (path : Path) :
    List String → σ → List (Node × Node) → Except Refusal σ
  | _, record, [] => .ok record
  | seen, record, (key, value) :: entries => do
    let name ← textAs "field identifier" d path key
    match fields.find? (·.name = name) with
    | none =>
      if value.isWhole then readEntries fields d path seen record entries else .error .cut
    | some field =>
      if name ∈ seen then .error (.mismatch (.repeatedMember name) none)
      else
        let record ← field.read record d (path ++ [stepOf key]) value
        readEntries fields d path (name :: seen) record entries

/-- Reads a record, of which the keys that do not occur stay as they are in `start`. -/
def record {σ : Type} (kind : String) (fields : List (KnownKey σ)) (start : σ) : Decoder σ :=
  fun d path node => match d.follow node with
    | .void => .ok start
    | .mapping header entries =>
      (readEntries fields d path [] start entries).mapError (·.at path header.mark)
    | .scalar header style s =>
      if style = .plain ∧ s = "" then .ok start
      else refuse ("struct " ++ kind) path (.scalar header style s)
    | other => refuse ("struct " ++ kind) path other

end Decoder

/-! ### Whole texts -/

/-- Why a text is refused. -/
inductive Complaint where
  | fault (f : Fault)
  | unfinished
  | mismatch (m : Mismatch) (place : Option (Path × Mark))
  | severalDocuments
  deriving DecidableEq, Repr

def Complaint.message : Complaint → String
  | fault f => f.message
  | unfinished => "EOF while parsing a value"
  | mismatch m none => m.message
  | mismatch m (some (path, mark)) =>
    (if path = [] then "" else ".".intercalate path ++ ": ") ++ m.message ++ mark.suffix
  | severalDocuments => "deserializing from YAML containing more than one document is not supported"

/-- What a refusal of the value of a document says about the text. -/
def Document.complaint (d : Document) : Refusal → Complaint
  | .mismatch m place => .mismatch m place
  | .cut => match d.fault with
    | some f => .fault f
    | none => .unfinished

/-- Reads the only document of a text. -/
def Document.decode {α : Type} (d : Document) (decoder : Decoder α) : Except Complaint α :=
  match decoder d [] d.root with
  | .error refusal => .error (d.complaint refusal)
  | .ok v => match d.fault with
    | some f => .error (.fault f)
    | none => if d.followed then .error .severalDocuments else .ok v

end PackageFinder.Yaml
