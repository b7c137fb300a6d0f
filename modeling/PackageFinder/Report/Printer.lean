import PackageFinder.Json.Printer
import PackageFinder.Report.Basic
import PackageFinder.Text.Utf8

/-!
# Writing reports

A report is written as a JSON object over several lines.  The failures are left out when there are
none.
-/

namespace PackageFinder

/-- The JSON object of a package. -/
def Package.toValue (p : Package) : Json.Value :=
  .object [("title", .text p.title), ("url", p.url.elim .null .text)]

/-- The JSON object of a failure. -/
def Failure.toValue (f : Failure) : Json.Value :=
  .object [("stage", .text f.stage.name), ("target", .text f.target), ("error", .text f.error)]

/-- The JSON object of a report. -/
def Report.toValue (r : Report) : Json.Value :=
  .object
    ([("count", .number (.whole r.count)), ("packages", .list (r.packages.map (·.toValue)))]
      ++ if r.failures.isEmpty then [] else [("failures", .list (r.failures.map (·.toValue)))])

/-- The bytes that are written for a report. -/
def Report.bytes (r : Report) : List UInt8 := Text.utf8 (r.toValue.pretty 0)

/-- The text of a report. -/
def Report.render (r : Report) : String := String.ofList (Text.ofUtf8Lossy r.bytes)

end PackageFinder
