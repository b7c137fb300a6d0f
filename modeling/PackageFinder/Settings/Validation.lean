import PackageFinder.Http.Timeout
import PackageFinder.Settings.Error
import PackageFinder.Url.Parser

/-!
# Usable settings

Settings can be used when their endpoint is an address, at least one page and one detail page at a
time are asked for, and the timeout is a positive time that can be waited for.
-/

namespace PackageFinder

/-- Whether a number of seconds is zero or negative. -/
def isNotPositive (seconds : Binary64) : Bool :=
  match seconds.view with
  | .nan => false
  | .infinite negative => negative
  | .finite negative m _ => negative || m == 0

/-- The first flaw of settings, if they have one. -/
def Settings.flaw? (s : Settings) : Option SettingsFlaw :=
  match Url.parse s.search.endpoint with
  | .error cause => some (.badEndpoint s.search.endpoint cause)
  | .ok _ =>
    if s.search.pages = 0 then some .noPages
    else if s.outgoing.detailConcurrency = 0 then some .noConcurrency
    else if isNotPositive s.outgoing.requestTimeout
        ∨ Http.nanoseconds? s.outgoing.requestTimeout = none then
      some (.badTimeout s.outgoing.requestTimeout)
    else none

end PackageFinder
