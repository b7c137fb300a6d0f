import PackageFinder.Http.Response
import PackageFinder.Url.Basic

/-!
# Calls

What a run asks the network for, and what the requests for it carry.
-/

namespace PackageFinder.Http

/-- What a run asks for. -/
inductive Call where
  /-- A page of the index. -/
  | index (endpoint : String) (params : List (String × String))
  /-- A detail page. -/
  | detail (url : String)
  deriving DecidableEq, Repr

namespace Call

/-- The address that is asked, before its parameters. -/
def address : Call → String
  | index endpoint _ => endpoint
  | detail url => url

/-- The parameters that are added to the address. -/
def params : Call → List (String × String)
  | index _ ps => ps
  | detail _ => []

/-- The forms of answer that are asked for, by preference. -/
def accept : Call → String
  | index .. => "application/json,text/javascript,*/*;q=0.01"
  | detail _ => "text/html,application/xhtml+xml,application/xml;q=0.9,*/*;q=0.8"

end Call

/-- A request as it is sent. -/
structure Request where
  /-- The address. -/
  url : Url
  /-- The forms of answer that are asked for. -/
  accept : String
  /-- What the request calls itself. -/
  userAgent : String
  deriving DecidableEq, Repr

/-- What became of a call. -/
abbrev Answer := Except TransportError Response

/-- How calls are answered. -/
abbrev Network := Call → Answer

end PackageFinder.Http
