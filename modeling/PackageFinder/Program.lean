/-!
# The program's name

What the program calls itself, to its user and in its requests.
-/

namespace PackageFinder.Program

/-- The name. -/
def name : String := "dmgmonkey"

/-- The version. -/
def version : String := "0.1.0"

end PackageFinder.Program
