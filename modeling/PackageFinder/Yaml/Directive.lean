import PackageFinder.Yaml.Property

/-!
# Directives

Lines before a document that begin with a percent sign: the version that it follows, and handles
for tags.
-/

namespace PackageFinder.Yaml

/-- How many digits a number in a version may have. -/
def versionDigits : Nat := 9

/-- Reads digits onto `n`, of which at most `room` may follow. -/
def readVersionDigits (start : Mark) (n : Nat) : Nat → Cursor → Except Fault (Nat × Cursor)
  | 0, c =>
    if c.holds Char.isDigit then c.fail .versionTooLong .versionDirective start
    else .ok (n, c)
  | room + 1, c => match c.head? with
    | some x =>
      if x.isDigit then readVersionDigits start (n * 10 + (x.toNat - 48)) room c.advance
      else .ok (n, c)
    | none => .ok (n, c)

/-- Reads one number of a version. -/
def readVersionNumber (start : Mark) (c : Cursor) : Except Fault (Nat × Cursor) :=
  if c.holds Char.isDigit then readVersionDigits start 0 versionDigits c
  else c.fail .versionMissing .versionDirective start

/-- Reads a version. -/
def readVersion (start : Mark) (c : Cursor) : Except Fault (TokenKind × Cursor) := do
  let (major, c) ← readVersionNumber start c.skipBlanks
  if !c.startsWith '.' then c.fail .versionPointMissing .versionDirective start
  else
    let (minor, c) ← readVersionNumber start c.advance
    .ok (.version major minor, c)

/-- Reads a handle and what it stands for. -/
def readHandleDeclaration (start : Mark) (c : Cursor) : Except Fault (TokenKind × Cursor) := do
  let (handle, c) ← readHandle .declaredHandle start c.skipBlanks
  if handle.getLast? ≠ some '!' then
    c.fail .exclamationMissing .declaredHandleEnd start
  else if !c.holds isBlank then c.fail .blankMissing .handleDirective start
  else
    let (stem, c) ← readTagName true false .declaredName start c.skipBlanks
    if c.isGap then .ok (.handle (String.ofList handle) stem, c)
    else c.fail .gapMissing .handleDirective start

/-- Reads the name of a directive. -/
def readDirectiveName (start : Mark) (c : Cursor) : Except Fault (String × Cursor) :=
  let (name, c) := c.takeWhile isNameChar
  if name.isEmpty then c.fail .directiveNameMissing .directive start
  else if !c.isGap then c.fail .directiveNameBroken .directive start
  else .ok (String.ofList name, c)

/-- Goes over the rest of a line, on which only a comment may stand. -/
def skipLineEnd (activity : Activity) (start : Mark) (c : Cursor) : Except Fault Cursor :=
  let c := c.skipBlanks.skipComment
  if c.isLineEnd then .ok c.advance else c.fail .lineEndMissing activity start

/-- Reads a directive with its line. -/
def readDirective (c : Cursor) : Except Fault (Token × Cursor) := do
  let start := c.mark
  let (name, c) ← readDirectiveName start c.advance
  let (kind, c) ←
    if name = "YAML" then readVersion start c
    else if name = "TAG" then readHandleDeclaration start c
    else c.fail .directiveUnknown .directive start
  let after ← skipLineEnd .directive start c
  .ok (⟨kind, start, c.mark⟩, after)

end PackageFinder.Yaml
