import PackageFinder.Decimal.Notation
import PackageFinder.Http.TransportError
import PackageFinder.Json.Fault

/-!
# Failed steps

Why a step of a run failed: asking for a page, understanding it, or finding a link in it.
-/

namespace PackageFinder

/-- Why a step failed. -/
inductive FetchError where
  | transport (cause : Http.TransportError)
  | status (code : Nat) (url : String)
  | decode (complaint : Json.Complaint)
  | invalidTimeout (seconds : Binary64)
  | missingUrl
  | linkNotFound
  deriving DecidableEq, Repr

def FetchError.message : FetchError → String
  | transport cause => "HTTP request failed: " ++ cause.message
  | status code url => "HTTP error " ++ toString code ++ " from " ++ url
  | decode complaint => "failed to decode response: " ++ complaint.message
  | invalidTimeout seconds => "request timeout of " ++ seconds.plain ++ " seconds is out of range"
  | missingUrl => "search item has no detail url"
  | linkNotFound => "no metaUrl found in detail page"

/-- The causes inside a failure, the outermost first. -/
def FetchError.causes : FetchError → List String
  | transport cause => cause.chain
  | decode complaint => [complaint.message]
  | _ => []

end PackageFinder
