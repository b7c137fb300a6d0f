import PackageFinder.Json.Record
import PackageFinder.Report.Basic

/-!
# Reading reports

A report is read back from its text.  The failures may be missing, and so may the link of a
package.
-/

namespace PackageFinder
open PackageFinder.Json

namespace Package

/-- A package of which not everything has been read. -/
structure Draft where
  /-- The title. -/
  title : Option String := none
  /-- The link. -/
  url : Option (Option String) := none

/-- How a package is read. -/
def shape : RecordShape Draft Package where
  name := "struct Package"
  empty := {}
  fields := [
    .of "title" (·.title) (fun d t => { d with title := some t }) fun _ => readText,
    .of "url" (·.url) (fun d u => { d with url := some u }) fun _ => readTextOrNull]
  finish d := match d.title with
    | none => .error "title"
    | some t => .ok ⟨t, d.url.join⟩

end Package

namespace Stage

/-- The stage of a name that has just been read. -/
def ofText (name : String) (s : List Char) : Except Stop (Stage × List Char) :=
  match ofName? name with
  | some stage => .ok (stage, s)
  | none => stopAt (.mismatch (.unknownName name (all.map (·.name)))) s

/-- Reads a stage: its name, or an object with its name as key and nothing as value. -/
def read (s : List Char) : Except Stop (Stage × List Char) :=
  match skipBlanks s with
  | [] => stopAt .endInValue []
  | '"' :: r => do
    let (name, r) ← readText ('"' :: r)
    ofText name r
  | '{' :: r => do
    let (name, r) ← match skipBlanks r with
      | [] => stopAt .endInValue []
      | r => readTextAs "variant identifier" r
    let (stage, r) ← ofText name r
    let (_, r) ← readColon r
    let (_, r) ← readNull r
    match skipBlanks r with
    | [] => stopAt .endInObject []
    | '}' :: r => .ok (stage, r)
    | r => stopAt .valueMissing r
  | r => stopOn .valueMissing r

end Stage

namespace Failure

/-- A failure of which not everything has been read. -/
structure Draft where
  /-- The stage. -/
  stage : Option Stage := none
  /-- What it was about. -/
  target : Option String := none
  /-- The wording of its error. -/
  error : Option String := none

/-- How a failure is read. -/
def shape : RecordShape Draft Failure where
  name := "struct Failure"
  empty := {}
  fields := [
    .of "stage" (·.stage) (fun d stage => { d with stage := some stage }) fun _ => Stage.read,
    .of "target" (·.target) (fun d t => { d with target := some t }) fun _ => readText,
    .of "error" (·.error) (fun d t => { d with error := some t }) fun _ => readText]
  finish d := match d.stage, d.target, d.error with
    | none, _, _ => .error "stage"
    | _, none, _ => .error "target"
    | _, _, none => .error "error"
    | some stage, some target, some error => .ok ⟨stage, target, error⟩

end Failure

namespace Report

/-- A report of which not everything has been read. -/
structure Draft where
  /-- The number of items. -/
  count : Option Nat := none
  /-- The packages. -/
  packages : Option (List Package) := none
  /-- The failures. -/
  failures : Option (List Failure) := none

/-- How a report is read. -/
def shape : RecordShape Draft Report where
  name := "struct SearchReport"
  empty := {}
  fields := [
    .of "count" (·.count) (fun d n => { d with count := some n }) fun _ => readNatural,
    .of "packages" (·.packages) (fun d ps => { d with packages := some ps })
      (readListWith Package.shape.read),
    .of "failures" (·.failures) (fun d fs => { d with failures := some fs })
      (readListWith Failure.shape.read) true]
  finish d := match d.count, d.packages with
    | none, _ => .error "count"
    | _, none => .error "packages"
    | some count, some packages => .ok ⟨count, packages, d.failures.getD []⟩

/-- Reads the text of a report. -/
def parse (text : String) : Except Complaint Report := readWhole shape.read text

end Report

end PackageFinder
