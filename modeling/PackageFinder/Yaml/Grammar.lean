import PackageFinder.Yaml.Source

/-!
# Values from tokens

How lists, mappings and texts are made of tokens, in block style and in flow style.  A value that
is missing where one may stand is an empty plain text.
-/

namespace PackageFinder.Yaml
namespace Reading

/-- Where a value stands. -/
inductive Position where
  /-- In a list of dashes, or alone. -/
  | block
  /-- In a line with a key, where dashes need not be indented. -/
  | member
  /-- Between brackets. -/
  | flow
  deriving DecidableEq

/-- What stands before a value. -/
structure Properties where
  /-- Where the value or the first property starts. -/
  start : Mark
  /-- The anchor. -/
  anchor : Option String := none
  /-- The handle and the name of the tag. -/
  tag : Option (String × Tag) := none
  /-- Where the tag starts. -/
  tagMark : Mark := start

/-- Reads the properties of a value that starts with a token: an anchor and a tag in either order,
each at most once. -/
def readProperties (token : Token) : Reading Properties := do
  let start := token.start
  match token.kind with
  | .anchor name =>
    skip
    match ← peek with
    | some ⟨.tag handle suffix, mark, _⟩ =>
      skip
      return { start, anchor := some name, tag := some (handle, suffix), tagMark := mark }
    | _ => return { start, anchor := some name }
  | .tag handle suffix =>
    skip
    match ← peek with
    | some ⟨.anchor name, _, _⟩ =>
      skip
      return { start, anchor := some name, tag := some (handle, suffix) }
    | _ => return { start, tag := some (handle, suffix) }
  | _ => return { start }

/-- The tag that the properties give; the fault of a handle that is not declared. -/
def resolveTag (properties : Properties) : Reading (Except Fault (Option Tag)) := do
  match properties.tag with
  | none => return .ok none
  | some (handle, suffix) =>
    if handle = "" then return .ok (some suffix)
    else match (← get).handles.lookup handle with
      | some stem => return .ok (some (stem ++ suffix))
      | none =>
        let context := (Activity.node, properties.start)
        return .error (.met .undeclaredHandle properties.tagMark (some context))

/-- The header of a value with properties; numbers its anchor. -/
def headerOf (properties : Properties) (tag : Option Tag) : Reading Header := do
  match properties.anchor with
  | none => return { mark := properties.start, tag }
  | some name => return { mark := properties.start, anchor := some (← number name), tag }

/-- The tag of a text: the lone exclamation mark says nothing. -/
def scalarTag (tag : Option Tag) : Option Tag :=
  if tag = some (Text.utf8 ['!']) then none else tag

/-- What comes next in a list or mapping between brackets. -/
inductive Ahead where
  /-- Nothing, because a fault was met. -/
  | stopped
  /-- The closing bracket, which has been read. -/
  | closed
  /-- Something that starts with a token. -/
  | more (token : Token)

/-- Reads the closing bracket, or the comma before the next item; before the first item there is
no comma. -/
def readSeparator (closing : TokenKind) (problem : Problem) (activity : Activity) (start : Mark)
    (first : Bool) : Reading Ahead := do
  match ← peek with
  | none => return .stopped
  | some token =>
    if token.kind = closing then
      skip
      return .closed
    else if first then return .more token
    else if token.kind = .comma then
      skip
      match ← peek with
      | none => return .stopped
      | some token =>
        if token.kind = closing then
          skip
          return .closed
        else return .more token
    else
      failAt token problem activity start
      return .stopped

/-- What may follow in place of an item. -/
def endsItem (kind : TokenKind) : Bool := kind = .item || kind = .blockEnd

/-- What may follow in place of a key or value. -/
def endsMember (kind : TokenKind) : Bool := kind = .key || kind = .value || kind = .blockEnd

/-- Reads the value of an alias. -/
def readAlias (token : Token) (name : String) : Reading Node := do
  skip
  match ← numberOf? name with
  | some n => return .reference token.start n
  | none =>
    fail (.unknownAnchor token.start)
    return .cut

mutual

/-- Reads a value. -/
def readNode : Nat → Position → Reading Node
  | 0, _ => return .cut
  | fuel + 1, position => do
    match ← peek with
    | none => return .cut
    | some token => match token.kind with
      | .reference name => readAlias token name
      | _ =>
        let properties ← readProperties token
        match ← peek with
        | none => return .cut
        | some token => match ← resolveTag properties with
          | .error fault =>
            fail fault
            return .cut
          | .ok tag => readContent fuel position properties tag token

/-- Reads what follows the properties of a value. -/
def readContent : Nat → Position → Properties → Option Tag → Token → Reading Node
  | 0, _, _, _, _ => return .cut
  | fuel + 1, position, properties, tag, token => do
    match token.kind, position with
    | .item, .member =>
      let header ← headerOf properties tag
      return .list header (← readFlushItems fuel)
    | .scalar style text, _ =>
      skip
      return .scalar (← headerOf properties (scalarTag tag)) style text
    | .flowListStart, _ =>
      skip
      let header ← headerOf properties tag
      return .list header (← readFlowItems fuel token.start true)
    | .flowMappingStart, _ =>
      skip
      let header ← headerOf properties tag
      return .mapping header (← readFlowEntries fuel token.start true)
    | kind, position =>
      if kind = .blockListStart ∧ position ≠ .flow then
        skip
        let header ← headerOf properties tag
        return .list header (← readBlockItems fuel token.start)
      else if kind = .blockMappingStart ∧ position ≠ .flow then
        skip
        let header ← headerOf properties tag
        return .mapping header (← readBlockEntries fuel token.start)
      else if properties.anchor.isSome ∨ tag.isSome then
        return .scalar (← headerOf properties tag) .plain ""
      else
        let activity := if position = .flow then Activity.flowNode else .blockNode
        failAt token .contentMissing activity properties.start
        return .cut

/-- Reads a value, or nothing before a token that may follow in its place; the place of nothing is
`place`, or that of the token. -/
def readOptional : Nat → Position → (TokenKind → Bool) → Option Mark → Reading Node
  | 0, _, _, _ => return .cut
  | fuel + 1, position, absent, place => do
    match ← peek with
    | none => return .cut
    | some token =>
      if absent token.kind then return .empty (place.getD token.start)
      else readNode fuel position

/-- Reads the items of a list of dashes that began at `start`. -/
def readBlockItems : Nat → Mark → Reading (List Node)
  | 0, _ => return [.cut]
  | fuel + 1, start => do
    match ← peek with
    | none => return [.cut]
    | some token => match token.kind with
      | .item =>
        skip
        let item ← readOptional fuel .block endsItem (some token.stop)
        return item :: (← readBlockItems fuel start)
      | .blockEnd =>
        skip
        return []
      | _ =>
        failAt token .dashMissing .blockList start
        return [.cut]

/-- Reads the items of a list of dashes in the column of its key. -/
def readFlushItems : Nat → Reading (List Node)
  | 0 => return [.cut]
  | fuel + 1 => do
    match ← peek with
    | none => return [.cut]
    | some token => match token.kind with
      | .item =>
        skip
        let item ← readOptional fuel .block (fun kind => kind = .item || endsMember kind)
          (some token.stop)
        return item :: (← readFlushItems fuel)
      | _ => return []

/-- Reads the lines with keys of a mapping that began at `start`. -/
def readBlockEntries : Nat → Mark → Reading (List (Node × Node))
  | 0, _ => return [(.cut, .cut)]
  | fuel + 1, start => do
    match ← peek with
    | none => return [(.cut, .cut)]
    | some token => match token.kind with
      | .key =>
        skip
        let key ← readOptional fuel .member endsMember (some token.stop)
        let value ← readBlockValue fuel
        return (key, value) :: (← readBlockEntries fuel start)
      | .blockEnd =>
        skip
        return []
      | _ =>
        failAt token .keyMissing .blockMapping start
        return [(.cut, .cut)]

/-- Reads the value of a key in a line. -/
def readBlockValue : Nat → Reading Node
  | 0 => return .cut
  | fuel + 1 => do
    match ← peek with
    | none => return .cut
    | some token =>
      if token.kind = .value then
        skip
        readOptional fuel .member endsMember (some token.stop)
      else return .empty token.start

/-- Reads the items of a list between brackets that began at `start`. -/
def readFlowItems : Nat → Mark → Bool → Reading (List Node)
  | 0, _, _ => return [.cut]
  | fuel + 1, start, first => do
    match ← readSeparator .flowListEnd .itemEndMissing .flowList start first with
    | .stopped => return [.cut]
    | .closed => return []
    | .more token =>
      let item ← if token.kind = .key then readPair fuel token else readNode fuel .flow
      return item :: (← readFlowItems fuel start false)

/-- Reads a key and its value as an item of a list between brackets.  Where the key is missing,
the token in its place is passed over. -/
def readPair : Nat → Token → Reading Node
  | 0, _ => return .cut
  | fuel + 1, token => do
    skip
    let key ← match ← peek with
      | none => pure Node.cut
      | some token =>
        if token.kind = .value ∨ token.kind = .comma ∨ token.kind = .flowListEnd then
          skip
          pure (Node.empty token.stop)
        else readNode fuel .flow
    let value ← readFlowValue fuel .flowListEnd
    let rest := if (← peek).isNone then [(Node.cut, Node.cut)] else []
    return .mapping { mark := token.start } ((key, value) :: rest)

/-- Reads the value of a key between brackets. -/
def readFlowValue : Nat → TokenKind → Reading Node
  | 0, _ => return .cut
  | fuel + 1, closing => do
    match ← peek with
    | none => return .cut
    | some token =>
      if token.kind = .value then
        skip
        readOptional fuel .flow (fun kind => kind = .comma || kind = closing) none
      else return .empty token.start

/-- Reads the members of a mapping between braces that began at `start`. -/
def readFlowEntries : Nat → Mark → Bool → Reading (List (Node × Node))
  | 0, _, _ => return [(.cut, .cut)]
  | fuel + 1, start, first => do
    match ← readSeparator .flowMappingEnd .memberEndMissing .flowMapping start first with
    | .stopped => return [(.cut, .cut)]
    | .closed => return []
    | .more token =>
      if token.kind = .key then
        skip
        let key ← readOptional fuel .flow
          (fun kind => kind = .value || kind = .comma || kind = .flowMappingEnd) none
        let value ← readFlowValue fuel .flowMappingEnd
        return (key, value) :: (← readFlowEntries fuel start false)
      else
        let key ← readNode fuel .flow
        let value ← readOptional fuel .flow (fun _ => true) none
        return (key, value) :: (← readFlowEntries fuel start false)

end

end Reading
end PackageFinder.Yaml
