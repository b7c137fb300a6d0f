import PackageFinder.Program

/-!
# How the command is used

The options of the command, its help, and what it says about arguments that it does not
understand.
-/

namespace PackageFinder.Command

/-- An option of the command. -/
inductive Flag where
  | config
  | verbose
  | help
  | version
  deriving DecidableEq, Repr

namespace Flag

/-- All options. -/
def all : List Flag := [config, verbose, help, version]

/-- The long name. -/
def name : Flag → String
  | config => "config"
  | verbose => "verbose"
  | help => "help"
  | version => "version"

/-- The letter. -/
def letter : Flag → Char
  | config => 'c'
  | verbose => 'v'
  | help => 'h'
  | version => 'V'

/-- The long name as it is written, with what follows it. -/
def form : Flag → String
  | config => "--config <CONFIG>"
  | o => "--" ++ o.name

/-- What the option is for. -/
def purpose : Flag → String
  | config => "Path to a settings file"
  | verbose => "Log debug output to stderr"
  | help => "Print help"
  | version => "Print version"

/-- The option with a long name. -/
def ofName? (name : String) : Option Flag := all.find? (·.name = name)

/-- The option with a letter. -/
def ofLetter? (letter : Char) : Option Flag := all.find? (·.letter = letter)

end Flag

/-- What is wrong with the arguments. -/
inductive UsageError where
  /-- An argument that is not understood.  It may be like an option, or could be passed as a value
  after two dashes; `used` are the options that were. -/
  | unexpected (argument : String) (similar : Option Flag) (passable : Bool)
      (used : List Flag)
  | pathMissing
  | repeated (o : Flag)
  | valueRefused (value : String) (o : Flag) (used : List Flag)
  | queryMissing (used : List Flag)
  deriving DecidableEq, Repr

/-- How the command is called with some options. -/
def callWith (used : List Flag) : String :=
  " ".intercalate ("Usage:" :: Program.name :: used.map (·.form) ++ ["<QUERY>"])

/-- How the command is called. -/
def call : String := "Usage: " ++ Program.name ++ " [OPTIONS] <QUERY>"

/-- How the command is called with the options that were used, or in general. -/
def callAfter (used : List Flag) : String := if used = [] then call else callWith used

/-- The paragraphs about an error. -/
def UsageError.paragraphs : UsageError → List String
  | unexpected argument similar passable used =>
    ["unexpected argument '" ++ argument ++ "' found"]
      ++ (match similar with
        | some o => ["  tip: a similar argument exists: '--" ++ o.name ++ "'"]
        | none =>
          if passable then
            ["  tip: to pass '" ++ argument ++ "' as a value, use '-- " ++ argument ++ "'"]
          else [])
      ++ [callAfter used]
  | pathMissing =>
    ["a value is required for '" ++ Flag.config.form ++ "' but none was supplied"]
  | repeated o => ["the argument '" ++ o.form ++ "' cannot be used multiple times", call]
  | valueRefused value o used =>
    ["unexpected value '" ++ value ++ "' for '" ++ o.form ++ "' found; no more were expected",
      callAfter used]
  | queryMissing used =>
    ["the following required arguments were not provided:\n  <QUERY>", callWith used]

def UsageError.message (e : UsageError) : String :=
  "error: " ++ "\n\n".intercalate (e.paragraphs ++ ["For more information, try '--help'."]) ++ "\n"

/-- A text, filled with blanks up to a width. -/
def padded (width : Nat) (s : String) : String :=
  s ++ String.ofList (List.replicate (width - s.length) ' ')

/-- An option with its letter. -/
def Flag.fullForm (o : Flag) : String := "-" ++ o.letter.toString ++ ", " ++ o.form

/-- The help. -/
def helpText : String :=
  let width := (Flag.all.map (·.fullForm.length)).foldl max 0
  "\n".intercalate
    (["Search macOS update packages and resolve the download link of every match", "", call, "",
      "Arguments:", "  <QUERY>  Search keyword, e.g. \"Security Update\"", "", "Options:"]
      ++ (Flag.all.map fun o => "  " ++ padded width o.fullForm ++ "  " ++ o.purpose))
    ++ "\n"

/-- The version as it is told. -/
def versionText : String := Program.name ++ " " ++ Program.version ++ "\n"

end PackageFinder.Command
