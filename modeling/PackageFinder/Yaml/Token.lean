import PackageFinder.Yaml.Fault

/-!
# Tokens

What a YAML text is made of, with the places where each part starts and stops.  Blocks that are
marked by indentation alone have tokens at their start and end as well.
-/

namespace PackageFinder.Yaml

/-- How a text is written. -/
inductive Style where
  | plain
  | singleQuoted
  | doubleQuoted
  | literal
  | folded
  deriving DecidableEq, Repr

/-- The name of a kind of values, in bytes, because it may be written byte by byte. -/
abbrev Tag := List UInt8

/-- What a token is. -/
inductive TokenKind where
  | streamStart
  | streamEnd
  | version (major minor : Nat)
  | handle (name : String) (stem : Tag)
  | documentStart
  | documentEnd
  | blockListStart
  | blockMappingStart
  | blockEnd
  | flowListStart
  | flowListEnd
  | flowMappingStart
  | flowMappingEnd
  | item
  | comma
  | key
  | value
  | reference (name : String)
  | anchor (name : String)
  | tag (handle : String) (suffix : Tag)
  | scalar (style : Style) (text : String)
  deriving DecidableEq, Repr

/-- A part of a text. -/
structure Token where
  /-- What it is. -/
  kind : TokenKind
  /-- Where it starts. -/
  start : Mark
  /-- Where it stops. -/
  stop : Mark
  deriving DecidableEq, Repr

end PackageFinder.Yaml
