import PackageFinder.Run.Session

/-!
# Fetching pages

Making a call and taking the text of a successful answer.
-/

namespace PackageFinder
open PackageFinder.Http

/-- The text of an answer, if it is one of success. -/
def Http.Response.body (r : Response) : Except FetchError String := r.checked.map (·.text)

/-- Makes a call and notes its answer. -/
def fetch (c : Call) : Session Answer := do
  let answer ← Session.ask c
  match answer with
  | .ok r => Session.log (.got r.url r.status r.text.utf8ByteSize)
  | .error _ => pure ()
  return answer

/-- The text of an answer to a call, if it is one of success. -/
def bodyOf : Answer → Except FetchError String
  | .ok r => r.body
  | .error e => .error (.transport e)

/-- Makes a call and takes the text of its answer. -/
def fetchBody (c : Call) : Session (Except FetchError String) := do
  return bodyOf (← fetch c)

end PackageFinder
