import PackageFinder.Fetch.Error

/-!
# Answers

The answer to a request: its status, the address that it came from, and its text.
-/

namespace PackageFinder.Http

/-- The answer to a request. -/
structure Response where
  /-- The status code. -/
  status : Nat
  /-- The address that it came from. -/
  url : String
  /-- The body. -/
  text : String
  deriving DecidableEq, Repr

namespace Response

/-- Whether the status is one of success. -/
def isSuccess (r : Response) : Bool := decide (200 ≤ r.status) && decide (r.status < 300)

/-- The answer, if its status is one of success. -/
def checked (r : Response) : Except FetchError Response :=
  if r.isSuccess then .ok r else .error (.status r.status r.url)

end Response

end PackageFinder.Http
