import PackageFinder.Settings.Basic
import PackageFinder.Yaml.Decode

/-!
# Settings from a file

The text of a settings file is a YAML document: a record of sections.  What it does not say stays
as it is when nothing is set.
-/

namespace PackageFinder
open Yaml (Decoder)
open Yaml.Decoder (KnownKey)

namespace SearchSettings

/-- The keys about where and how to search. -/
def fields : List (KnownKey SearchSettings) :=
  [.of "endpoint" .text fun s v => { s with endpoint := v },
   .of "locale" .text fun s v => { s with locale := v },
   .of "sort" .text fun s v => { s with sort := v },
   .of "facet" .text fun s v => { s with facet := v },
   .of "category" .text fun s v => { s with category := v },
   .of "pages" (.natural pagesBound "u32") fun s v => { s with pages := v }]

/-- Reads the section about where and how to search. -/
def decoder : Decoder SearchSettings := .record "SearchSettings" fields {}

end SearchSettings

namespace ProxySettings

/-- The keys about proxies. -/
def fields : List (KnownKey ProxySettings) :=
  [.of "http" .textOrNone fun s v => { s with http := v },
   .of "https" .textOrNone fun s v => { s with https := v },
   .of "all" .textOrNone fun s v => { s with all := v }]

/-- Reads the section about proxies. -/
def decoder : Decoder ProxySettings := .record "ProxySettings" fields {}

end ProxySettings

namespace OutgoingSettings

/-- The keys about how requests are made. -/
def fields : List (KnownKey OutgoingSettings) :=
  [.of "request_timeout" .double fun s v => { s with requestTimeout := v },
   .of "user_agent" .textOrNone fun s v => { s with userAgent := v },
   .of "verify_ssl" .bool fun s v => { s with verifySsl := v },
   .of "proxies" ProxySettings.decoder fun s v => { s with proxies := v },
   .of "detail_concurrency" (.natural concurrencyBound "usize")
    fun s v => { s with detailConcurrency := v }]

/-- Reads the section about how requests are made. -/
def decoder : Decoder OutgoingSettings := .record "OutgoingSettings" fields {}

end OutgoingSettings

namespace ExtractionSettings

/-- The names of the match modes in a settings file. -/
def modes : List (String × Link.MatchMode) := [("greedy", .greedy), ("first", .first)]

/-- The keys about how links are found. -/
def fields : List (KnownKey ExtractionSettings) :=
  [.of "match_mode" (.name modes) fun s v => { s with matchMode := v }]

/-- Reads the section about how links are found. -/
def decoder : Decoder ExtractionSettings := .record "ExtractionSettings" fields {}

end ExtractionSettings

namespace Settings

/-- The sections. -/
def fields : List (KnownKey Settings) :=
  [.of "search" SearchSettings.decoder fun s v => { s with search := v },
   .of "outgoing" OutgoingSettings.decoder fun s v => { s with outgoing := v },
   .of "extraction" ExtractionSettings.decoder fun s v => { s with extraction := v }]

/-- Reads the sections. -/
def decoder : Decoder Settings := .record "Settings" fields {}

/-- Reads the text of a settings file. -/
def parse (text : String) : Except Yaml.Complaint Settings :=
  (Yaml.Document.parse text).decode decoder

end Settings
end PackageFinder
