import PackageFinder.Decimal.Reading
import PackageFinder.Run.Log
import PackageFinder.Settings.Basic

/-!
# Settings from the environment

Six settings can be given by variables of the environment.  A variable that is not set changes
nothing, and neither does one whose value cannot be used, which is noted.
-/

namespace PackageFinder

/-- The variables that are set, and the bytes of their values. -/
abbrev Variables := String → Option (List UInt8)

/-- The variables that are set to a text, and their values. -/
abbrev Environment := String → Option String

/-- The value of a variable, if it is a text. -/
def Variables.texts (raw : Variables) : Environment := fun name =>
  (raw name).bind fun bytes => String.fromUTF8? ⟨bytes.toArray⟩

namespace Environment

/-- The variable of the endpoint. -/
def endpointName : String := "DMGMONKEY_ENDPOINT"

/-- The variable of the language. -/
def localeName : String := "DMGMONKEY_LOCALE"

/-- The variable of the number of pages. -/
def pagesName : String := "DMGMONKEY_PAGES"

/-- The variable of the timeout. -/
def timeoutName : String := "DMGMONKEY_TIMEOUT"

/-- The variable of the concurrency. -/
def concurrencyName : String := "DMGMONKEY_CONCURRENCY"

/-- The variable of the match mode. -/
def matchModeName : String := "DMGMONKEY_MATCH_MODE"

/-- The value of a variable as read, if it is set and can be read. -/
def value? {α : Type} (env : Environment) (name : String) (read : String → Option α) : Option α :=
  (env name).bind read

/-- What is noted about a variable: its value, if that cannot be read. -/
def notes {α : Type} (env : Environment) (name : String) (read : String → Option α) :
    List Log.Entry :=
  match env name with
  | none => []
  | some text => if (read text).isNone then [.ignored name text] else []

/-- Reads a number of pages. -/
def readPages (text : String) : Option Nat := Decimal.readNat? pagesBound text.toList

/-- Reads a timeout. -/
def readTimeout (text : String) : Option Binary64 := Decimal.readDouble? text.toList

/-- Reads a concurrency. -/
def readConcurrency (text : String) : Option Nat := Decimal.readNat? concurrencyBound text.toList

/-- Reads a match mode. -/
def readMatchMode (text : String) : Option Link.MatchMode := (Link.MatchMode.parse text).toOption

end Environment

open Environment in
/-- The settings with those that the environment gives. -/
def Settings.withEnvironment (s : Settings) (env : Environment) : Settings :=
  { search :=
      { s.search with
        endpoint := (env endpointName).getD s.search.endpoint
        locale := (env localeName).getD s.search.locale
        pages := (env.value? pagesName readPages).getD s.search.pages }
    outgoing :=
      { s.outgoing with
        requestTimeout := (env.value? timeoutName readTimeout).getD s.outgoing.requestTimeout
        detailConcurrency :=
          (env.value? concurrencyName readConcurrency).getD s.outgoing.detailConcurrency }
    extraction :=
      { matchMode := (env.value? matchModeName readMatchMode).getD s.extraction.matchMode } }

open Environment in
/-- What is noted about the variables that give settings. -/
def Environment.allNotes (env : Environment) : List Log.Entry :=
  env.notes pagesName readPages ++ env.notes timeoutName readTimeout
    ++ env.notes concurrencyName readConcurrency ++ env.notes matchModeName readMatchMode

end PackageFinder
