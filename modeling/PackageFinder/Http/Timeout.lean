import PackageFinder.Decimal.Binary64

/-!
# Timeouts

A timeout is set in seconds, as a double, and waited for in whole nanoseconds.  A time that is not
negative and below `2 ^ 64` seconds can be waited for.
-/

namespace PackageFinder.Http

/-- How long a timeout is, in nanoseconds, a half going to the even neighbour; `none` for a time
that cannot be waited for. -/
def nanoseconds? (seconds : Binary64) : Option Nat :=
  match seconds.view with
  | .finite negative m e =>
    let (n, d) := Binary64.scale m 1 e
    if negative ∧ m ≠ 0 then none
    else if UInt64.size * d ≤ n then none
    else some (roundHalfEven (n * 1000000000) d)
  | _ => none

end PackageFinder.Http
