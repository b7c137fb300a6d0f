import PackageFinder.Decimal.Notation
import PackageFinder.Settings.Basic
import PackageFinder.Url.ParseError

/-!
# Why settings are refused

The reasons for which a settings file cannot be read, and for which settings cannot be used.
-/

namespace PackageFinder

/-- Why a file cannot be read. -/
inductive FileError where
  | notFound
  | notDirectory
  | isDirectory
  | notText
  | refused (reason : String) (number : Nat)
  deriving DecidableEq, Repr

def FileError.message : FileError → String
  | notFound => "No such file or directory (os error 2)"
  | notDirectory => "Not a directory (os error 20)"
  | isDirectory => "Is a directory (os error 21)"
  | notText => "stream did not contain valid UTF-8"
  | refused reason number => reason ++ " (os error " ++ toString number ++ ")"

/-- What is wrong with settings. -/
inductive SettingsFlaw where
  | badEndpoint (endpoint : String) (cause : Url.ParseError)
  | noPages
  | noConcurrency
  | badTimeout (seconds : Binary64)
  deriving DecidableEq, Repr

def SettingsFlaw.message : SettingsFlaw → String
  | badEndpoint endpoint cause => s!"invalid search endpoint '{endpoint}': {cause.message}"
  | noPages => "search.pages must be at least 1"
  | noConcurrency => "outgoing.detail_concurrency must be at least 1"
  | badTimeout seconds =>
    s!"outgoing.request_timeout must be a positive number of seconds, got {seconds.plain}"

end PackageFinder
