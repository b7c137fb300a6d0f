import PackageFinder.Text.Affix
import PackageFinder.Text.Blank

/-!
# Embedded links

A detail page carries its download link as a member `"metaUrl" : "<address>"`, with any blanks
around the colon.  `linkAt?` reads one such member off the start of a text.
-/

namespace PackageFinder.Link
open PackageFinder.Text

/-- The quoted key that announces a link. -/
def key : List Char := "\"metaUrl\"".toList

/-- What the address of a link starts with. -/
def schemes : List (List Char) := ["http://".toList, "https://".toList]

/-- May stand in an address: anything but a quote or a blank. -/
def isAddressChar (c : Char) : Bool := c != '"' && !isBlank c

/-- The address that stands at the start of `s` after the scheme, up to its closing quote. -/
def addressAfter? (scheme s : List Char) : Option (List Char) :=
  match after? scheme s with
  | none => none
  | some r => match r.takeWhile isAddressChar, r.dropWhile isAddressChar with
    | c :: body, '"' :: _ => some (scheme ++ c :: body)
    | _, _ => none

/-- The address of the link member that `s` starts with. -/
def linkAt? (s : List Char) : Option (List Char) :=
  match after? key s with
  | none => none
  | some r => match r.dropWhile isBlank with
    | ':' :: r => match r.dropWhile isBlank with
      | '"' :: r => schemes.findSome? (addressAfter? · r)
      | _ => none
    | _ => none

end PackageFinder.Link
