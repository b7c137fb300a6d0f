/-!
# Blanks

The characters with the Unicode property `White_Space`, the ones that may stand around the
colon of an embedded link and that may not stand inside its address.
-/

namespace PackageFinder.Text

/-- The 25 characters with the Unicode property `White_Space`. -/
def isBlank (c : Char) : Bool :=
  let n := c.toNat
  (0x09 ≤ n && n ≤ 0x0D) || n == 0x20 || n == 0x85 || n == 0xA0 || n == 0x1680
    || (0x2000 ≤ n && n ≤ 0x200A) || n == 0x2028 || n == 0x2029 || n == 0x202F
    || n == 0x205F || n == 0x3000

/-- A quote is not blank. -/
@[simp] theorem isBlank_quote : isBlank '"' = false := by decide

/-- A colon is not blank. -/
@[simp] theorem isBlank_colon : isBlank ':' = false := by decide

/-- A line feed is blank. -/
@[simp] theorem isBlank_newline : isBlank '\n' = true := by decide

end PackageFinder.Text
