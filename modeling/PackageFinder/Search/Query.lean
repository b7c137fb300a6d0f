import PackageFinder.Settings.Basic

/-!
# Queries

What the index is asked: the keyword and the settings of the search, and the parameters of the
request for one page.
-/

namespace PackageFinder

/-- What the index is asked. -/
structure Query where
  /-- The keyword. -/
  text : String
  /-- The language. -/
  locale : String
  /-- The order of the results. -/
  sort : String
  /-- The group of results. -/
  facet : String
  /-- The kind of download. -/
  category : String
  /-- How many pages are asked for. -/
  pages : Nat
  deriving DecidableEq, Repr

namespace Query

/-- A keyword with the settings of a search. -/
def ofSettings (text : String) (s : SearchSettings) : Query :=
  { text := text, locale := s.locale, sort := s.sort, facet := s.facet, category := s.category,
    pages := s.pages }

/-- The pages that are asked for, in order. -/
def offsets (q : Query) : List Nat := List.range q.pages

/-- The parameters of the request for one page, in order. -/
def params (q : Query) (offset : Nat) : List (String × String) :=
  [("page", "downloads_search"), ("offset", toString offset), ("sort", q.sort),
    ("facet", q.facet), ("category", q.category), ("q", q.text), ("locale", q.locale)]

end Query

end PackageFinder
