import PackageFinder.Text.Ticked

/-!
# Values that do not fit

How a value, a name or a member of a record can fail to be what is wanted in its place.
-/

namespace PackageFinder
open Text (ticked)

/-- Why a value does not fit where it stands. -/
inductive Mismatch where
  | wrongKind (found wanted : String)
  | wrongValue (found wanted : String)
  | wrongLength (found : Nat) (wanted : String)
  | unknownName (found : String) (known : List String)
  | missingMember (name : String)
  | repeatedMember (name : String)
  deriving DecidableEq, Repr

/-- Some names of which one is wanted. -/
def choice : List String → String
  | [] => "nothing"
  | [a] => ticked a
  | [a, b] => ticked a ++ " or " ++ ticked b
  | names => "one of " ++ ", ".intercalate (names.map ticked)

def Mismatch.message : Mismatch → String
  | wrongKind found wanted => "invalid type: " ++ found ++ ", expected " ++ wanted
  | wrongValue found wanted => "invalid value: " ++ found ++ ", expected " ++ wanted
  | wrongLength found wanted => "invalid length " ++ toString found ++ ", expected " ++ wanted
  | unknownName found known => "unknown variant " ++ ticked found ++ ", expected " ++ choice known
  | missingMember name => "missing field " ++ ticked name
  | repeatedMember name => "duplicate field " ++ ticked name

end PackageFinder
