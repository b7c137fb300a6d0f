import PackageFinder.Run.Fetch
import PackageFinder.Search.Outcome
import PackageFinder.Search.Query

/-!
# Collecting search items

The pages of the index are asked for one after the other.  A page that cannot be read is noted and
does not stop the search.
-/

namespace PackageFinder
open PackageFinder.Http

/-- What the text of an index page, or its failure, makes of the page. -/
def Page.ofBody (offset : Nat) : Except FetchError String → Page
  | .error e => .failed offset e
  | .ok text => match Item.parsePage text with
    | .ok found => .items found
    | .error complaint => .failed offset (.decode complaint)

/-- What is noted about a page. -/
def Page.entry (offset : Nat) : Page → Log.Entry
  | .items found => .pageRead offset found.length
  | .failed _ e => .pageFailed offset e

/-- Asks for one page. -/
def fetchPage (endpoint : String) (q : Query) (offset : Nat) : Session Page := do
  let body ← fetchBody (.index endpoint (q.params offset))
  let page := Page.ofBody offset body
  Session.log (page.entry offset)
  return page

/-- Asks for some pages in turn and takes each of them in. -/
def collectPages (endpoint : String) (q : Query) : Outcome → List Nat → Session Outcome
  | o, [] => pure o
  | o, offset :: rest => do
    let page ← fetchPage endpoint q offset
    collectPages endpoint q (o.absorb page) rest

/-- Asks for all pages of a query. -/
def collect (endpoint : String) (q : Query) : Session Outcome := do
  Session.log (.searching q.text q.pages endpoint)
  let o ← collectPages endpoint q {} q.offsets
  Session.log (.found o.items.length o.failures.length)
  return o

end PackageFinder
