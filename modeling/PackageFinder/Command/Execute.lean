import PackageFinder.Command.Arguments
import PackageFinder.Http.Client
import PackageFinder.Report.Printer
import PackageFinder.Run.Window
import PackageFinder.Settings.Load

/-!
# Carrying out the command

A search that can be started prints its report and succeeds, however much of it failed.  Settings
that cannot be loaded or used stop the command before anything is asked of the network.  `execute`
resolves the items of a search one after the other; `Execution` leaves it open in which order their
pages are answered.
-/

namespace PackageFinder.Command

/-- Where the command is given. -/
structure Surroundings where
  /-- The files. -/
  files : Files
  /-- The variables of the environment. -/
  env : Environment
  /-- The directory of the user's settings. -/
  configDirectory : Option String

/-- How the command ends. -/
structure Outcome where
  /-- Zero for success. -/
  code : Nat
  /-- What is printed. -/
  output : String := ""
  /-- What is said about an error. -/
  complaint : String := ""
  deriving DecidableEq, Repr

/-- How the command ends with a report, whatever the report says. -/
def Outcome.ofReport (r : Report) : Outcome := { code := 0, output := r.render ++ "\n" }

/-- Why a search cannot be started. -/
inductive StartError where
  | load (cause : LoadError)
  | client (cause : FetchError)
  deriving DecidableEq, Repr

namespace StartError

def message : StartError → String
  | load cause => cause.message
  | client cause => cause.message

/-- The causes inside a reason, the outermost first. -/
def causes : StartError → List String
  | load _ => []
  | client cause => cause.causes

/-- The causes, one on each line; several are numbered. -/
def causeLines : List String → List String
  | [] => []
  | [cause] => ["", "Caused by:", "    " ++ cause]
  | causes => ["", "Caused by:"]
    ++ (causes.zipIdx.map fun (cause, n) =>
      let number := toString n
      String.ofList (List.replicate (5 - number.length) ' ') ++ number ++ ": " ++ cause)

/-- What is said about a reason. -/
def complaint (e : StartError) : String :=
  "\n".intercalate (("Error: " ++ e.message) :: causeLines e.causes) ++ "\n"

/-- How the command ends when a search cannot be started. -/
def outcome (e : StartError) : Outcome := { code := 1, complaint := e.complaint }

end StartError

/-- The settings of a search and the client that is made of them. -/
def start (around : Surroundings) (s : Search) : Except StartError (Settings × Http.Client) := do
  let settings ← (Settings.load around.files around.env around.configDirectory s.config).mapError
    .load
  let client ← (Http.Client.ofSettings settings.outgoing).mapError .client
  return (settings, client)

/-- What is noted before a search is started. -/
def startNotes (around : Surroundings) (s : Search) : List Log.Entry :=
  .started :: Settings.loadNotes around.files around.env around.configDirectory s.config

/-- Carries out a search, with calls answered as `http` says for the client. -/
def search (around : Surroundings) (http : Http.Client → Http.Network) (s : Search) :
    Outcome × List Event :=
  let notes := (startNotes around s).map Event.log
  match start around s with
  | .error e => (e.outcome, notes)
  | .ok (settings, client) =>
    let (report, trace) := run settings s.query (http client)
    (.ofReport report, notes ++ trace)

/-- Carries out what is asked for. -/
def Request.perform (around : Surroundings) (http : Http.Client → Http.Network) :
    Request → Outcome × List Event
  | .help => ({ code := 0, output := helpText }, [])
  | .version => ({ code := 0, output := versionText }, [])
  | .search s => Command.search around http s

/-- Carries out the command. -/
def execute (around : Surroundings) (http : Http.Client → Http.Network)
    (arguments : List String) : Outcome × List Event :=
  match Request.ofArguments arguments with
  | .error e => ({ code := 2, complaint := e.message }, [])
  | .ok request => request.perform around http

/-- What the command may lead to: how it ends, and what it does. -/
inductive Execution (around : Surroundings) (http : Http.Client → Http.Network)
    (arguments : List String) : Outcome → List Event → Prop
  | refused {e} :
    Request.ofArguments arguments = .error e →
    Execution around http arguments { code := 2, complaint := e.message } []
  | help :
    Request.ofArguments arguments = .ok .help →
    Execution around http arguments { code := 0, output := helpText } []
  | version :
    Request.ofArguments arguments = .ok .version →
    Execution around http arguments { code := 0, output := versionText } []
  | stopped {s e} :
    Request.ofArguments arguments = .ok (.search s) →
    start around s = .error e →
    Execution around http arguments e.outcome ((startNotes around s).map .log)
  | searched {s settings client report trace} :
    Request.ofArguments arguments = .ok (.search s) →
    start around s = .ok (settings, client) →
    Run (http client) settings s.query report trace →
    Execution around http arguments (.ofReport report) ((startNotes around s).map .log ++ trace)

/-- What is written beside the output: the entries that are shown, and then the complaint. -/
def errorText (shown : Log.Entry → Bool) (outcome : Outcome) (events : List Event) : String :=
  let lines := ((events.filterMap (·.logged?)).filter shown).map fun e => e.line ++ "\n"
  String.join lines ++ outcome.complaint

/-- The entries that are shown: all of them, or those for everyone. -/
def isShown (verbose : Bool) (e : Log.Entry) : Bool := verbose || e.level ≠ .debug

/-- Whether the arguments ask for everything to be logged. -/
def isVerbose (arguments : List String) : Bool :=
  match Request.ofArguments arguments with
  | .ok (.search s) => s.verbose
  | _ => false

/-- The variable that filters the log. -/
def filterName : String := "RUST_LOG"

/-- The surroundings with a value for the filter of the log, or with none. -/
def Surroundings.withFilter (around : Surroundings) (filter : Option String) : Surroundings :=
  { around with env := fun name => if name = filterName then filter else around.env name }

/-- The entries that are shown: those that pass the filter of the log as `readFilter` reads it, and
if it is not set or cannot be read, those that the arguments ask for. -/
def shownEntries (readFilter : String → Option (Log.Entry → Bool)) (env : Environment)
    (arguments : List String) : Log.Entry → Bool :=
  (env.value? filterName readFilter).getD (isShown (isVerbose arguments))

/-- What is seen of the command from outside. -/
structure Appearance where
  /-- Zero for success. -/
  code : Nat
  /-- What is printed. -/
  output : String
  /-- What is written beside the output. -/
  errors : String
  deriving DecidableEq, Repr

/-- What is seen of an outcome and of the events before it. -/
def Outcome.appearance (o : Outcome) (shown : Log.Entry → Bool) (events : List Event) :
    Appearance :=
  ⟨o.code, o.output, errorText shown o events⟩

/-- What the command may look like, and what it does. -/
inductive Appears (readFilter : String → Option (Log.Entry → Bool)) (around : Surroundings)
    (http : Http.Client → Http.Network) (arguments : List String) :
    Appearance → List Event → Prop
  | of {outcome events} :
    Execution around http arguments outcome events →
    Appears readFilter around http arguments
      (outcome.appearance (shownEntries readFilter around.env arguments) events) events

end PackageFinder.Command
