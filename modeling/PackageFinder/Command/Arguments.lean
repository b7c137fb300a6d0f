import PackageFinder.Command.Usage
import PackageFinder.Text.Affix
import PackageFinder.Text.Similarity

/-!
# Arguments

Reads the arguments of the command: one query, and options in any order.  The value of an option
follows it, or is attached to it.  After two dashes everything is a query.
-/

namespace PackageFinder.Command

/-- A search that is asked for. -/
structure Search where
  /-- What is searched for. -/
  query : String
  /-- The settings file. -/
  config : Option String
  /-- Whether everything is logged. -/
  verbose : Bool
  deriving DecidableEq, Repr

/-- What the arguments ask for. -/
inductive Request where
  | search (s : Search)
  | help
  | version
  deriving DecidableEq, Repr

/-- What has been read last and is not taken in yet. -/
inductive Pending where
  | nothing
  | config (path : Option String)
  | query (text : String)
  deriving DecidableEq, Repr

/-- What has been read of the arguments. -/
structure Progress where
  /-- The query. -/
  query : Option String := none
  /-- The settings file. -/
  config : Option String := none
  /-- Whether everything is logged. -/
  verbose : Bool := false
  /-- The options that were used, in their order. -/
  used : List Flag := []
  /-- What is not taken in yet. -/
  pending : Pending := .nothing
  /-- Whether two dashes have been read. -/
  trailing : Bool := false
  deriving DecidableEq, Repr

/-- What an argument leads to: it is read, or it decides what is asked for. -/
abbrev Step := Except UsageError (Progress ⊕ Request)

namespace Progress

/-- Whether a query has been read. -/
def hasQuery (p : Progress) : Bool :=
  p.query.isSome || match p.pending with
    | .query _ => true
    | _ => false

/-- The options that were used, and one more. -/
def usedWith (p : Progress) (o : Flag) : List Flag :=
  if o ∈ p.used then p.used else p.used ++ [o]

/-- Takes in the path of the settings file. -/
def takePath (p : Progress) (path : String) : Except UsageError Progress :=
  if p.config.isSome then .error (.repeated .config)
  else if path = "" then .error .pathMissing
  else .ok { p with config := some path, used := p.usedWith .config }

/-- Takes in what has been read last. -/
def settle (p : Progress) : Except UsageError Progress :=
  let settled := { p with pending := .nothing }
  match p.pending with
  | .nothing => .ok p
  | .config none => .error .pathMissing
  | .config (some path) => settled.takePath path
  | .query text => .ok { settled with query := some text }

/-- Reads an option with the value that is attached to it, if there is one. -/
def readFlag (p : Progress) (o : Flag) (attached : Option String) : Step := do
  match o, attached with
  | .config, some path => return .inl (← (← p.settle).takePath path)
  | .config, none => return .inl { ← p.settle with pending := .config none }
  | .verbose, none =>
    let p ← p.settle
    if p.verbose then throw (.repeated .verbose)
    return .inl { p with verbose := true, used := p.usedWith .verbose }
  | .help, none =>
    let _ ← p.settle
    return .inr .help
  | .version, none =>
    let _ ← p.settle
    return .inr .version
  | o, some value => throw (.valueRefused value o (p.usedWith o))

/-- How alike an argument and an option have to be to be taken for each other. -/
def likeness : Text.Fraction := ⟨7, 10⟩

/-- The error of a long name that is not known. -/
def unknownName (p : Progress) (name : String) : UsageError :=
  let similar := (Text.closest? likeness name.toList (Flag.all.map (·.name))).bind Flag.ofName?
  let used := match similar with
    | some o => p.usedWith o
    | none => p.used
  .unexpected ("--" ++ name) similar similar.isNone used

/-- Reads a long option after its dashes. -/
def readLong (p : Progress) (s : List Char) : Step :=
  let name := String.ofList (s.takeWhile (· ≠ '='))
  let attached := (Text.after? ['='] (s.dropWhile (· ≠ '='))).map String.ofList
  match Flag.ofName? name with
  | some o => p.readFlag o attached
  | none => throw (p.unknownName name)

/-- Reads options by their letters after a dash.  The path of the settings file takes up what is
left. -/
def readLetters (p : Progress) : List Char → Step
  | [] => .ok (.inl p)
  | c :: s => match Flag.ofLetter? c with
    | none => throw (.unexpected ("-" ++ c.toString) none true [])
    | some .config =>
      let path := match s with
        | '=' :: s => some (String.ofList s)
        | [] => none
        | s => some (String.ofList s)
      p.readFlag .config path
    | some o => do
      match ← p.readFlag o none with
      | .inl p => readLetters p s
      | .inr r => return .inr r

/-- Reads an argument that is no option. -/
def readValue (p : Progress) (argument : String) : Step := do
  if p.hasQuery then throw (.unexpected argument none false [])
  return .inl { ← p.settle with pending := .query argument }

/-- Reads an argument. -/
def read (p : Progress) (argument : String) : Step :=
  if p.trailing then p.readValue argument
  else match argument.toList with
    | ['-', '-'] => .ok (.inl { p with trailing := true })
    | '-' :: '-' :: s => p.readLong s
    | '-' :: c :: s => p.readLetters (c :: s)
    | _ => match p.pending with
      | .config none => .ok (.inl { p with pending := .config (some argument) })
      | _ => p.readValue argument

/-- What the arguments ask for, once all are read. -/
def finish (p : Progress) : Except UsageError Request := do
  let p ← p.settle
  match p.query with
  | some query => return .search ⟨query, p.config, p.verbose⟩
  | none => throw (.queryMissing p.used)

/-- Reads arguments. -/
def readAll (p : Progress) : List String → Except UsageError Request
  | [] => p.finish
  | argument :: arguments => do
    match ← p.read argument with
    | .inl p => readAll p arguments
    | .inr request => return request

end Progress

/-- What some arguments ask for. -/
def Request.ofArguments (arguments : List String) : Except UsageError Request :=
  Progress.readAll {} arguments

end PackageFinder.Command
