import PackageFinder.Link.Mode

/-!
# Patterns of links

What a link looks like, written as a pattern, and how a pattern is searched for: from the left, and
where it matches in several ways, in the way that is preferred. `MatchMode.pattern` gives the patterns
of both modes: that of a link, and for the last link of a line the same one after any number of
characters other than line feeds, rather more than fewer.
-/

namespace PackageFinder.Link
open PackageFinder.Text

/-- A pattern of texts. -/
inductive Pattern where
  /-- This text. -/
  | text (s : List Char)
  /-- A character of a class. -/
  | one (p : Char → Bool)
  /-- Characters of a class, rather more than fewer. -/
  | many (p : Char → Bool)
  /-- A text of a pattern, rather than nothing. -/
  | optional (a : Pattern)
  /-- A text of one pattern and then one of another. -/
  | seq (a b : Pattern)
  /-- A text of a pattern, which is kept. -/
  | kept (a : Pattern)

/-- A way in which a pattern matches the start of a text. -/
structure Way where
  /-- What it matches. -/
  taken : List Char
  /-- What is kept of that. -/
  kept : List Char
  /-- What is left of the text. -/
  rest : List Char
  deriving DecidableEq, Repr

namespace Way

/-- Matches nothing. -/
def nothing (s : List Char) : Way := ⟨[], [], s⟩

/-- One more character before what is matched. -/
def cons (c : Char) (w : Way) : Way := { w with taken := c :: w.taken }

/-- One way after the other. -/
def append (w v : Way) : Way := ⟨w.taken ++ v.taken, w.kept ++ v.kept, v.rest⟩

/-- Keeps what is matched. -/
def keep (w : Way) : Way := { w with kept := w.taken }

end Way

namespace Pattern

/-- The runs of a class at the start of a text, the longest first. -/
def runs (p : Char → Bool) : List Char → List Way
  | [] => [.nothing []]
  | c :: s => if p c then (runs p s).map (.cons c) ++ [.nothing (c :: s)] else [.nothing (c :: s)]

/-- The ways in which a pattern matches the start of a text, the preferred ones first. -/
def ways : Pattern → List Char → List Way
  | text t, s => match after? t s with
    | some r => [⟨t, [], r⟩]
    | none => []
  | one p, c :: s => if p c then [⟨[c], [], s⟩] else []
  | one _, [] => []
  | many p, s => runs p s
  | optional a, s => a.ways s ++ [.nothing s]
  | seq a b, s => (a.ways s).flatMap fun w => (b.ways w.rest).map w.append
  | kept a, s => (a.ways s).map .keep

/-- What the preferred way keeps. -/
def keeps? (a : Pattern) (s : List Char) : Option (List Char) := (a.ways s).head?.map (·.kept)

/-- The first place where a pattern matches, and what is kept there. -/
def search (a : Pattern) : List Char → Option (Nat × List Char)
  | [] => (a.keeps? []).map (0, ·)
  | c :: s => match a.keeps? (c :: s) with
    | some u => some (0, u)
    | none => (a.search s).map fun m => (m.1 + 1, m.2)

/-- One or more characters of a class. -/
def several (p : Char → Bool) : Pattern := seq (one p) (many p)

/-- The pattern of an address: `http`, perhaps `s`, `://`, and one or more characters that are neither
quotes nor blanks. -/
def address : Pattern :=
  seq (text "http".toList) <| seq (optional (text "s".toList)) <| seq (text "://".toList) <|
    several isAddressChar

/-- The pattern of a link, of which the address is kept. -/
def link : Pattern :=
  seq (text "\"metaUrl\"".toList) <| seq (many isBlank) <| seq (text ":".toList) <|
    seq (many isBlank) <| seq (text "\"".toList) <| seq (kept address) (text "\"".toList)

end Pattern

/-- The pattern of a mode. -/
def MatchMode.pattern : MatchMode → Pattern
  | greedy => .seq (.many (· ≠ '\n')) .link
  | first => .link

end PackageFinder.Link
