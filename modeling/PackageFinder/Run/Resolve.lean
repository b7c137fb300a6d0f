import PackageFinder.Link.Mode
import PackageFinder.Run.Fetch
import PackageFinder.Search.Item
import PackageFinder.Report.Basic

/-!
# Resolving search items

The detail page of an item is asked for, and its link is taken out of it.  Every item gives a
package; one without link also gives a failure.
-/

namespace PackageFinder
open PackageFinder.Http

/-- What became of an item. -/
structure Resolution where
  /-- The package. -/
  package : Package
  /-- Why it has no link. -/
  failure : Option Failure
  deriving DecidableEq, Repr

/-- The link that was found at an address, or why there is none and in which stage. -/
abbrev Finding := Except (Stage × FetchError) String

/-- The link in a detail page. -/
def Finding.ofBody (mode : Link.MatchMode) : Except FetchError String → Finding
  | .error e => .error (.detail, e)
  | .ok body => match Link.extract mode body with
    | some link => .ok link
    | none => .error (.extraction, .linkNotFound)

namespace Resolution

/-- The resolution of an item without address. -/
def withoutUrl (title : String) : Resolution :=
  ⟨⟨title, none⟩, some (.of .detail title .missingUrl)⟩

/-- The resolution of an item with an address. -/
def ofFinding (title url : String) : Finding → Resolution
  | .ok link => ⟨⟨title, some link⟩, none⟩
  | .error (stage, e) => ⟨⟨title, none⟩, some (.of stage url e)⟩

end Resolution

/-- What is noted about a detail page. -/
def Finding.entry (url : String) : Finding → Log.Entry
  | .ok link => .resolved url link
  | .error (.extraction, e) => .linkMissing url e
  | .error (_, e) => .detailFailed url e

/-- Resolves one item. -/
def resolve (mode : Link.MatchMode) (item : Item) : Session Resolution :=
  match item.url with
  | none => do
    Session.log (.urlMissing item.displayTitle)
    return .withoutUrl item.displayTitle
  | some url => do
    let body ← fetchBody (.detail url)
    let finding := Finding.ofBody mode body
    Session.log (finding.entry url)
    return .ofFinding item.displayTitle url finding

/-- Resolves items one after the other. -/
def resolveAll (mode : Link.MatchMode) : List Item → Session (List Resolution)
  | [] => pure []
  | item :: items => do
    let r ← resolve mode item
    let rs ← resolveAll mode items
    return r :: rs

end PackageFinder
