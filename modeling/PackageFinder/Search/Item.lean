import PackageFinder.Json.Reader

/-!
# Search items

The entries of an index page.  Every element of the page's `downloads` is one item, whatever it
is; a title or an address that is no text counts as missing.
-/

namespace PackageFinder

/-- An entry of an index page. -/
structure Item where
  /-- What it is called. -/
  title : Option String
  /-- The address of its detail page. -/
  url : Option String
  deriving DecidableEq, Repr

namespace Item

/-- The item that a JSON value stands for. -/
def ofValue (v : Json.Value) : Item :=
  ⟨(v.member? "title").bind (·.text?), (v.member? "url").bind (·.text?)⟩

/-- What is shown for an item without title. -/
def noTitle : String := "<none>"

/-- The title, or what is shown without one. -/
def displayTitle (item : Item) : String := item.title.getD noTitle

/-- The items of an index page; none if it has no list of downloads. -/
def ofPage (v : Json.Value) : List Item :=
  match (v.member? "downloads").bind (·.items?) with
  | some vs => vs.map ofValue
  | none => []

/-- The items in the text of an index page. -/
def parsePage (text : String) : Except Json.Complaint (List Item) :=
  (Json.parse text).map ofPage

end Item

end PackageFinder
