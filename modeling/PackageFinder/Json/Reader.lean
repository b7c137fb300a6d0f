import PackageFinder.Json.Numeral
import PackageFinder.Json.Word

/-!
# Reading JSON texts

`parse` reads a text as one value, with blanks anywhere between its items, and refuses everything
else with the place of the first fault.  Lists and objects may be nested 127 levels deep.
-/

namespace PackageFinder.Json

/-- How many lists and objects may stand inside one another. -/
def depthLimit : Nat := 127

/-- Reads the colon after a key. -/
def readColon (s : List Char) : Except Stop (Unit × List Char) :=
  match skipBlanks s with
  | [] => stopAt .endInObject []
  | ':' :: r => .ok ((), r)
  | r => stopOn .colonMissing r

/-- What stands between two items of a list, or after the last. -/
inductive Next where
  /-- Another item follows. -/
  | more
  /-- The list or object is closed. -/
  | done

/-- Reads what follows an item of a list. -/
def readItemEnd (s : List Char) : Except Stop (Next × List Char) :=
  match skipBlanks s with
  | [] => stopAt .endInList []
  | ']' :: r => .ok (.done, r)
  | ',' :: r => match skipBlanks r with
    | [] => stopAt .endInValue []
    | ']' :: r => stopOn .trailingComma (']' :: r)
    | r => .ok (.more, r)
  | r => stopOn .itemEndMissing r

/-- Reads what follows a member of an object, up to the opening quote of the next key. -/
def readMemberEnd (s : List Char) : Except Stop (Next × List Char) :=
  match skipBlanks s with
  | [] => stopAt .endInObject []
  | '}' :: r => .ok (.done, r)
  | ',' :: r => match skipBlanks r with
    | [] => stopAt .endInValue []
    | '}' :: r => stopOn .trailingComma ('}' :: r)
    | '"' :: r => .ok (.more, r)
    | r => stopOn .keyNotString r
  | r => stopOn .memberEndMissing r

/-- Reads what follows the opening bracket of a list: its end, or its first item. -/
def readListStart (s : List Char) : Except Stop (Next × List Char) :=
  match skipBlanks s with
  | [] => stopAt .endInList []
  | ']' :: r => .ok (.done, r)
  | r => .ok (.more, r)

/-- Reads what follows the opening brace of an object: its end, or the opening quote of its first
key. -/
def readObjectStart (s : List Char) : Except Stop (Next × List Char) :=
  match skipBlanks s with
  | [] => stopAt .endInObject []
  | '}' :: r => .ok (.done, r)
  | '"' :: r => .ok (.more, r)
  | r => stopOn .keyNotString r

mutual

/-- Reads a value that is at most `depth` levels deep. -/
def readValue : Nat → Nat → List Char → Except Stop (Value × List Char)
  | 0, _, s => stopAt .endInValue s
  | fuel + 1, depth, s =>
    match skipBlanks s with
    | [] => stopAt .endInValue []
    | c :: r =>
      if c = 'n' then do
        let (_, r) ← readWord "ull".toList r
        .ok (.null, r)
      else if c = 't' then do
        let (_, r) ← readWord "rue".toList r
        .ok (.bool true, r)
      else if c = 'f' then do
        let (_, r) ← readWord "alse".toList r
        .ok (.bool false, r)
      else if c = '"' then do
        let (t, r) ← readString r
        .ok (.text (String.ofList t), r)
      else if c = '-' then do
        let (n, r) ← readNumber true r
        .ok (.number n, r)
      else if c.isDigit then do
        let (n, r) ← readNumber false (c :: r)
        .ok (.number n, r)
      else if c = '[' then
        match depth with
        | 0 => stopOn .tooDeep (c :: r)
        | depth + 1 => do
          match ← readListStart r with
          | (.done, r) => .ok (.list [], r)
          | (.more, r) =>
            let (vs, r) ← readItems fuel depth r
            .ok (.list vs, r)
      else if c = '{' then
        match depth with
        | 0 => stopOn .tooDeep (c :: r)
        | depth + 1 => do
          match ← readObjectStart r with
          | (.done, r) => .ok (.object [], r)
          | (.more, r) =>
            let (ms, r) ← readMembers fuel depth r
            .ok (.object ms, r)
      else stopOn .valueMissing (c :: r)

/-- Reads the items of a list up to its closing bracket. -/
def readItems : Nat → Nat → List Char → Except Stop (List Value × List Char)
  | 0, _, s => stopAt .endInList s
  | fuel + 1, depth, s => do
    let (v, r) ← readValue fuel depth s
    match ← readItemEnd r with
    | (.done, r) => .ok ([v], r)
    | (.more, r) =>
      let (vs, r) ← readItems fuel depth r
      .ok (v :: vs, r)

/-- Reads the members of an object, the first after the opening quote of its key, up to the closing
brace. -/
def readMembers : Nat → Nat → List Char → Except Stop (List (String × Value) × List Char)
  | 0, _, s => stopAt .endInObject s
  | fuel + 1, depth, s => do
    let (key, r) ← readString s
    let (_, r) ← readColon r
    let (v, r) ← readValue fuel depth r
    match ← readMemberEnd r with
    | (.done, r) => .ok ([(String.ofList key, v)], r)
    | (.more, r) =>
      let (ms, r) ← readMembers fuel depth r
      .ok ((String.ofList key, v) :: ms, r)

end

/-- Reads a whole text with a reader that takes a bound on the number of its steps. -/
def readWhole {α : Type} (read : Nat → List Char → Except Stop (α × List Char))
    (text : String) : Except Complaint α :=
  let s := text.toList
  let result : Except Stop α := do
    let (v, r) ← read (2 * s.length + 2) s
    match skipBlanks r with
    | [] => .ok v
    | r => stopOn .trailingText r
  match result with
  | .ok v => .ok v
  | .error stop => .error (stop.within s)

/-- Reads a text as one value. -/
def parse (text : String) : Except Complaint Value :=
  readWhole (fun fuel s => readValue fuel depthLimit s) text

end PackageFinder.Json
