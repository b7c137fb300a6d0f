import PackageFinder.Link.Search
import PackageFinder.Text.Lowercase

/-!
# Match modes

The two ways of choosing among the links of a page, and their names.
-/

namespace PackageFinder.Link

/-- Which link of a page is taken. -/
inductive MatchMode where
  /-- The last link that starts on the first line on which one starts. -/
  | greedy
  /-- The first link. -/
  | first
  deriving DecidableEq, Repr

namespace MatchMode

/-- The name of a mode in settings files. -/
def name : MatchMode → String
  | greedy => "greedy"
  | first => "first"

/-- Reads a mode in any case, `last` being another name of `greedy`; otherwise gives the text in
small letters. -/
def parse (s : String) : Except String MatchMode :=
  let t := String.ofList (Text.lowercase s.toList)
  if t = "greedy" ∨ t = "last" then .ok greedy
  else if t = "first" then .ok first
  else .error t

/-- What is said of a text, in small letters, that names no mode. -/
def unknown (t : String) : String := s!"unknown match mode '{t}'"

/-- The link that a page stands for. -/
def find? : MatchMode → List Char → Option (List Char)
  | greedy => greedy?
  | first => first?

end MatchMode

/-- The download link in the text of a detail page. -/
def extract (mode : MatchMode) (body : String) : Option String :=
  (mode.find? body.toList).map String.ofList

end PackageFinder.Link
