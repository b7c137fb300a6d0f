/-!
# Names in messages
-/

namespace PackageFinder.Text

/-- A name between back quotes. -/
def ticked (s : String) : String := "\x60" ++ s ++ "\x60"

end PackageFinder.Text
