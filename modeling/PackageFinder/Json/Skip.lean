import PackageFinder.Json.Reader

/-!
# Passing over a value

A member that nobody asks for is passed over without being built.  This is laxer than reading it:
nesting is not limited, numbers may have any size, and escapes need not form characters.
-/

namespace PackageFinder.Json

/-- Passes over what follows the backslash of an escape. -/
def skipEscape : List Char → Except Stop (Unit × List Char)
  | [] => stopAt .endInString []
  | c :: s =>
    if c = 'u' then do
      let (_, r) ← readHex s
      .ok ((), r)
    else if (letterEscape? c).isSome then .ok ((), s)
    else stopOn .badEscape (c :: s)

/-- An escape is passed over. -/
theorem length_of_skipEscape {s r : List Char} {u : Unit} (h : skipEscape s = .ok (u, r)) :
    r.length < s.length := by
  cases s with
  | nil => simp [skipEscape, stopAt] at h
  | cons c s =>
    simp only [skipEscape] at h
    split at h
    · cases h₁ : readHex s with
      | error e => simp [h₁, bind, Except.bind] at h
      | ok p =>
        have := length_of_readHex h₁
        simp only [h₁, bind, Except.bind, Except.ok.injEq, Prod.mk.injEq] at h
        rw [← h.2]
        simp only [List.length_cons]
        omega
    · split at h
      · simp only [Except.ok.injEq, Prod.mk.injEq] at h
        simp [← h.2]
      · simp [stopOn] at h

/-- Passes over a string after its opening quote. -/
def skipString : List Char → Except Stop (Unit × List Char)
  | [] => stopAt .endInString []
  | c :: s =>
    if c = '"' then .ok ((), s)
    else if c = '\\' then
      match _h : skipEscape s with
      | .error stop => .error stop
      | .ok (_, r) => skipString r
    else if isControl c then stopAt .controlCharacter (c :: s)
    else skipString s
termination_by s => s.length
decreasing_by
  · have := length_of_skipEscape _h
    simp only [List.length_cons]
    omega
  · simp

/-- Passes over an exponent after its letter. -/
def skipExponent (s : List Char) : Except Stop (Unit × List Char) :=
  let s := match s with
    | '+' :: r => r
    | '-' :: r => r
    | r => r
  match s with
  | [] => stopAt .badNumber []
  | c :: r => if c.isDigit then .ok ((), (dropDigits r).2) else stopOn .badNumber (c :: r)

/-- Passes over the exponent of a number, if it has one. -/
def skipPower (s : List Char) : Except Stop (Unit × List Char) :=
  match s with
  | 'e' :: r => skipExponent r
  | 'E' :: r => skipExponent r
  | r => .ok ((), r)

/-- Passes over a number after its sign. -/
def skipNumber (s : List Char) : Except Stop (Unit × List Char) :=
  match s with
  | [] => stopAt .badNumber []
  | c :: r =>
    if !c.isDigit then stopOn .badNumber (c :: r)
    else if c = '0' ∧ startsWithDigit r then stopOn .badNumber r
    else match (dropDigits (c :: r)).2 with
      | '.' :: r => match dropDigits r with
        | (0, r) => stopOn .badNumber r
        | (_, r) => skipPower r
      | r => skipPower r

/-- What a passed value stands in. -/
inductive Frame where
  /-- A list. -/
  | list
  /-- An object. -/
  | object
  deriving DecidableEq

/-- Passes over a key after its opening quote, and over its colon. -/
def skipKey (s : List Char) : Except Stop (Unit × List Char) := do
  let (_, r) ← skipString s
  readColon r

/-- Passes over what opens a list or object, up to the first item, if there is one. -/
def skipOpening (frame : Frame) (s : List Char) : Except Stop (Next × List Char) :=
  match frame, skipBlanks s with
  | .list, [] => stopAt .endInList []
  | .object, [] => stopAt .endInObject []
  | .list, ']' :: r => .ok (.done, r)
  | .object, '}' :: r => .ok (.done, r)
  | .list, r => .ok (.more, r)
  | .object, '"' :: r => do
    let (_, r) ← skipKey r
    .ok (.more, r)
  | .object, r => stopOn .keyNotString r

/-- Passes over what follows an item, up to the next item, if there is one. -/
def skipItemEnd (frame : Frame) (s : List Char) : Except Stop (Next × List Char) :=
  match frame, skipBlanks s with
  | .list, [] => stopAt .endInList []
  | .object, [] => stopAt .endInObject []
  | .list, ']' :: r => .ok (.done, r)
  | .object, '}' :: r => .ok (.done, r)
  | .list, ',' :: r => .ok (.more, r)
  | .object, ',' :: r => match skipBlanks r with
    | [] => stopAt .endInObject []
    | '"' :: r => do
      let (_, r) ← skipKey r
      .ok (.more, r)
    | r => stopOn .keyNotString r
  | .list, r => stopOn .itemEndMissing r
  | .object, r => stopOn .memberEndMissing r

mutual

/-- Passes over a value. -/
def skipValue : Nat → List Char → Except Stop (Unit × List Char)
  | 0, s => stopAt .endInValue s
  | fuel + 1, s =>
    match skipBlanks s with
    | [] => stopAt .endInValue []
    | c :: r =>
      if c = 'n' then readWord "ull".toList r
      else if c = 't' then readWord "rue".toList r
      else if c = 'f' then readWord "alse".toList r
      else if c = '"' then skipString r
      else if c = '-' then skipNumber r
      else if c.isDigit then skipNumber (c :: r)
      else if c = '[' then do
        match ← skipOpening .list r with
        | (.done, r) => .ok ((), r)
        | (.more, r) => skipItems fuel .list r
      else if c = '{' then do
        match ← skipOpening .object r with
        | (.done, r) => .ok ((), r)
        | (.more, r) => skipItems fuel .object r
      else stopOn .valueMissing (c :: r)

/-- Passes over the items of a list, or the members of an object after the first key, up to the
closing bracket or brace. -/
def skipItems : Nat → Frame → List Char → Except Stop (Unit × List Char)
  | 0, _, s => stopAt .endInList s
  | fuel + 1, frame, s => do
    let (_, r) ← skipValue fuel s
    match ← skipItemEnd frame r with
    | (.done, r) => .ok ((), r)
    | (.more, r) => skipItems fuel frame r

end

end PackageFinder.Json
