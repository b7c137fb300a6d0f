import PackageFinder.Report.Basic
import PackageFinder.Search.Item

/-!
# Outcomes of a search

The pages of a search are read one after the other; what has been found so far is the list of the
items of the readable pages and a failure for each of the others.
-/

namespace PackageFinder

/-- What became of one page. -/
inductive Page where
  /-- Its items. -/
  | items (found : List Item)
  /-- Why it could not be read. -/
  | failed (offset : Nat) (error : FetchError)
  deriving Repr

/-- What a search found. -/
structure Outcome where
  /-- The items, in the order of the pages. -/
  items : List Item := []
  /-- The pages that could not be read. -/
  failures : List Failure := []
  deriving DecidableEq, Repr

namespace Outcome

/-- The failure of a page. -/
def pageFailure (offset : Nat) (e : FetchError) : Failure :=
  .of .search ("offset " ++ toString offset) e

/-- Takes in one more page. -/
def absorb (o : Outcome) : Page → Outcome
  | .items found => { o with items := o.items ++ found }
  | .failed offset e => { o with failures := o.failures ++ [pageFailure offset e] }

/-- What some pages have brought. -/
def ofPages (pages : List Page) : Outcome := pages.foldl absorb {}

end Outcome

end PackageFinder
