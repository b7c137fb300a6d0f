import PackageFinder.Fetch.Error

/-!
# Reports

What a run found: the number of search items, a package for each of them, and the steps that
failed.
-/

namespace PackageFinder

/-- A search item with the link that was found for it. -/
structure Package where
  /-- What it is called. -/
  title : String
  /-- The address of the download. -/
  url : Option String
  deriving DecidableEq, Repr

/-- The step of a run. -/
inductive Stage where
  /-- Asking for an index page. -/
  | search
  /-- Asking for a detail page. -/
  | detail
  /-- Finding the link in a detail page. -/
  | extraction
  deriving DecidableEq, Repr

namespace Stage

/-- The name of a stage. -/
def name : Stage → String
  | search => "search"
  | detail => "detail"
  | extraction => "extraction"

/-- All stages. -/
def all : List Stage := [search, detail, extraction]

/-- The stage of a name. -/
def ofName? (s : String) : Option Stage := all.find? (·.name = s)

end Stage

/-- A step that failed. -/
structure Failure where
  /-- Which step. -/
  stage : Stage
  /-- What it was about. -/
  target : String
  /-- The wording of its error. -/
  error : String
  deriving DecidableEq, Repr

namespace Failure

/-- A step that failed with an error. -/
def of (stage : Stage) (target : String) (e : FetchError) : Failure := ⟨stage, target, e.message⟩

/-- A failure on one line. -/
def display (f : Failure) : String := f.stage.name ++ " " ++ f.target ++ ": " ++ f.error

end Failure

/-- What a run found. -/
structure Report where
  /-- The number of search items. -/
  count : Nat
  /-- A package for each item. -/
  packages : List Package
  /-- The steps that failed. -/
  failures : List Failure
  deriving DecidableEq, Repr

namespace Report

/-- The number of packages with a link. -/
def resolved (r : Report) : Nat := r.packages.countP (·.url.isSome)

/-- Whether a step failed. -/
def isPartial (r : Report) : Bool := !r.failures.isEmpty

end Report

end PackageFinder
