import PackageFinder.Run.Collect
import PackageFinder.Run.Resolve
import PackageFinder.Settings.Basic

/-!
# Runs

A run collects the search items of a query, resolves each of them, and reports what it found and
what failed.
-/

namespace PackageFinder

/-- The report of the items of a search and their resolutions. -/
def Report.ofResolutions (o : Outcome) (rs : List Resolution) : Report :=
  ⟨o.items.length, rs.map (·.package), o.failures ++ rs.filterMap (·.failure)⟩

/-- Notes what a report says. -/
def noteReport (query : String) (r : Report) : Session Unit := do
  Session.log (.finished r.resolved r.count query)
  if r.isPartial then Session.log (.incomplete r.failures.length)

/-- A run of a query. -/
def run (s : Settings) (query : String) : Session Report := do
  let o ← collect s.search.endpoint (.ofSettings query s.search)
  let rs ← resolveAll s.extraction.matchMode o.items
  let report := Report.ofResolutions o rs
  noteReport query report
  return report

end PackageFinder
