import PackageFinder.Settings.Environment
import PackageFinder.Settings.Files
import PackageFinder.Settings.Reader
import PackageFinder.Settings.Validation

/-!
# Loading settings

Settings come from a file, or are the default ones if there is no file; then the environment has
its say, and the result has to be usable.  A file that is named has to be there.  Otherwise the
first of some places where something stands is taken, whatever it is.
-/

namespace PackageFinder

/-- Why settings cannot be loaded. -/
inductive LoadError where
  | file (cause : FileError)
  | text (cause : Yaml.Complaint)
  | flaw (cause : SettingsFlaw)
  deriving DecidableEq, Repr

def LoadError.message : LoadError → String
  | file cause => cause.message
  | text cause => cause.message
  | flaw cause => cause.message

namespace Environment

/-- The variable of the settings file. -/
def settingsPathName : String := "DMGMONKEY_SETTINGS_PATH"

/-- The variable of the directory of all settings. -/
def configHomeName : String := "XDG_CONFIG_HOME"

/-- The variable of the user's home. -/
def homeName : String := "HOME"

/-- All variables that are asked for. -/
def names : List String :=
  [settingsPathName, configHomeName, homeName, endpointName, localeName, pagesName, timeoutName,
    concurrencyName, matchModeName]

/-- A path below another. -/
def below (directory name : String) : String :=
  if directory.endsWith "/" then directory ++ name else directory ++ "/" ++ name

/-- The directory of the user's settings: the one that is set, if its path starts at the root, or
a directory in the user's home. -/
def configDirectory? (env : Environment) : Option String :=
  match (env configHomeName).filter (·.startsWith "/") with
  | some directory => some directory
  | none => ((env homeName).filter (· ≠ "")).map (below · ".config")

end Environment

namespace Settings

/-- The places where a settings file is looked for, in their order. -/
def candidates (env : Environment) (configDirectory : Option String) : List String :=
  (env Environment.settingsPathName).toList ++ ["dmgmonkey.yml", "config/dmgmonkey.yml"]
    ++ (configDirectory.map (Environment.below · "dmgmonkey/settings.yml")).toList

/-- The path of the settings file: the one that is named, or the first candidate where something
stands. -/
def source? (files : Files) (env : Environment) (configDirectory explicit : Option String) :
    Option String :=
  match explicit with
  | some path => some path
  | none => (candidates env configDirectory).find? files.exists?

/-- The settings of a file. -/
def ofFile (files : Files) (path : String) : Except LoadError Settings :=
  match files.readText path with
  | .error cause => .error (.file cause)
  | .ok text => (parse text).mapError .text

/-- The settings of a file, or the default ones. -/
def ofSource (files : Files) : Option String → Except LoadError Settings
  | some path => ofFile files path
  | none => .ok {}

/-- The settings, if they can be used. -/
def validated (s : Settings) : Except LoadError Settings :=
  match s.flaw? with
  | some flaw => .error (.flaw flaw)
  | none => .ok s

/-- Loads the settings. -/
def load (files : Files) (env : Environment) (configDirectory explicit : Option String) :
    Except LoadError Settings := do
  let s ← ofSource files (source? files env configDirectory explicit)
  (s.withEnvironment env).validated

/-- What is noted while the settings are loaded. -/
def loadNotes (files : Files) (env : Environment) (configDirectory explicit : Option String) :
    List Log.Entry :=
  let source := source? files env configDirectory explicit
  let first : Log.Entry := match source with
    | some path => .loadingSettings path
    | none => .noSettingsFile
  match ofSource files source with
  | .error _ => [first]
  | .ok _ => first :: env.allNotes

end Settings
end PackageFinder
