import PackageFinder.Fetch.Error
import PackageFinder.Program

/-!
# The log

What a run tells about itself while it goes on, each entry with its level and its wording.
-/

namespace PackageFinder.Log

/-- How important an entry is. -/
inductive Level where
  | debug
  | info
  | warn
  deriving DecidableEq, Repr

/-- The name of a level. -/
def Level.name : Level → String
  | debug => "DEBUG"
  | info => "INFO"
  | warn => "WARN"

/-- What a run tells. -/
inductive Entry where
  | started
  | loadingSettings (path : String)
  | noSettingsFile
  | ignored (name value : String)
  | searching (query : String) (pages : Nat) (endpoint : String)
  | pageRead (offset items : Nat)
  | pageFailed (offset : Nat) (error : FetchError)
  | found (items failed : Nat)
  | got (url : String) (status bytes : Nat)
  | urlMissing (title : String)
  | resolved (url link : String)
  | linkMissing (url : String) (error : FetchError)
  | detailFailed (url : String) (error : FetchError)
  | finished (linked count : Nat) (query : String)
  | incomplete (steps : Nat)
  deriving DecidableEq, Repr

namespace Entry

/-- The level of an entry. -/
def level : Entry → Level
  | started | noSettingsFile | pageRead .. | got .. | resolved .. => .debug
  | loadingSettings _ | searching .. | found .. | finished .. => .info
  | ignored .. | pageFailed .. | urlMissing _ | linkMissing .. | detailFailed .. | incomplete _ =>
    .warn

def message : Entry → String
  | started => s!"{Program.name} v{Program.version}"
  | loadingSettings path => s!"Loading settings from: {path}"
  | noSettingsFile => "No settings file found, using defaults"
  | ignored name value => s!"Ignoring unparseable {name}={value}"
  | searching query pages endpoint => s!"Searching '{query}' over {pages} pages of {endpoint}"
  | pageRead offset items => s!"Offset {offset} returned {items} items"
  | pageFailed offset error => s!"Search request failed at offset {offset}: {error.message}"
  | found items failed => s!"Found {items} items, {failed} pages failed"
  | got url status bytes => s!"GET {url} -> {status} ({bytes} bytes)"
  | urlMissing title => s!"Search item '{title}' has no detail url"
  | .resolved url link => s!"Resolved {url} -> {link}"
  | linkMissing url error => s!"No download link in {url}: {error.message}"
  | detailFailed url error => s!"Detail request failed for {url}: {error.message}"
  | finished linked count query => s!"Resolved {linked} of {count} packages for '{query}'"
  | incomplete steps => s!"{steps} steps failed, report is partial"

/-- An entry on one line. -/
def line (e : Entry) : String := e.level.name ++ " " ++ e.message

end Entry

end PackageFinder.Log
