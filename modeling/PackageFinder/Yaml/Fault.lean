import PackageFinder.Yaml.Cursor

/-!
# What can be wrong with a YAML text

The faults of YAML texts, what was being read when they were met, and their wording.
-/

namespace PackageFinder.Yaml

/-- What is wrong. -/
inductive Problem where
  | colonMissing
  | nothingStarts
  | itemNotAllowed
  | keyNotAllowed
  | valueNotAllowed
  | directiveNameMissing
  | directiveNameBroken
  | directiveUnknown
  | lineEndMissing
  | versionPointMissing
  | versionTooLong
  | versionMissing
  | blankMissing
  | gapMissing
  | nameMissing
  | exclamationMissing
  | angleMissing
  | tagNameMissing
  | octetMissing
  | badFirstOctet
  | badNextOctet
  | zeroIndentation
  | tabIndentation
  | boundInQuotes
  | endInQuotes
  | unknownEscape
  | digitMissing
  | badCharacterCode
  | colonInPlain
  | tabInPlain
  | documentStartMissing
  | repeatedVersion
  | otherVersion
  | repeatedHandle
  | undeclaredHandle
  | contentMissing
  | dashMissing
  | keyMissing
  | itemEndMissing
  | memberEndMissing
  deriving DecidableEq, Repr

def Problem.message : Problem → String
  | colonMissing => "could not find expected ':'"
  | nothingStarts => "found character that cannot start any token"
  | itemNotAllowed => "block sequence entries are not allowed in this context"
  | keyNotAllowed => "mapping keys are not allowed in this context"
  | valueNotAllowed => "mapping values are not allowed in this context"
  | directiveNameMissing => "could not find expected directive name"
  | directiveNameBroken => "found unexpected non-alphabetical character"
  | directiveUnknown => "found unknown directive name"
  | lineEndMissing => "did not find expected comment or line break"
  | versionPointMissing => "did not find expected digit or '.' character"
  | versionTooLong => "found extremely long version number"
  | versionMissing => "did not find expected version number"
  | blankMissing => "did not find expected whitespace"
  | gapMissing => "did not find expected whitespace or line break"
  | nameMissing => "did not find expected alphabetic or numeric character"
  | exclamationMissing => "did not find expected '!'"
  | angleMissing => "did not find the expected '>'"
  | tagNameMissing => "did not find expected tag URI"
  | octetMissing => "did not find URI escaped octet"
  | badFirstOctet => "found an incorrect leading UTF-8 octet"
  | badNextOctet => "found an incorrect trailing UTF-8 octet"
  | zeroIndentation => "found an indentation indicator equal to 0"
  | tabIndentation => "found a tab character where an indentation space is expected"
  | boundInQuotes => "found unexpected document indicator"
  | endInQuotes => "found unexpected end of stream"
  | unknownEscape => "found unknown escape character"
  | digitMissing => "did not find expected hexdecimal number"
  | badCharacterCode => "found invalid Unicode character escape code"
  | colonInPlain => "found unexpected ':'"
  | tabInPlain => "found a tab character that violates indentation"
  | documentStartMissing => "did not find expected <document start>"
  | repeatedVersion => "found duplicate %YAML directive"
  | otherVersion => "found incompatible YAML document"
  | repeatedHandle => "found duplicate %TAG directive"
  | undeclaredHandle => "found undefined tag handle"
  | contentMissing => "did not find expected node content"
  | dashMissing => "did not find expected '-' indicator"
  | keyMissing => "did not find expected key"
  | itemEndMissing => "did not find expected ',' or ']'"
  | memberEndMissing => "did not find expected ',' or '\x7d'"

/-- What was being read. -/
inductive Activity where
  | token
  | key
  | directive
  | versionDirective
  | handleDirective
  | declaredHandle
  | declaredHandleEnd
  | declaredName
  | anchor
  | reference
  | tag
  | tagName
  | blockText
  | quotedText
  | quotedEscape
  | plainText
  | node
  | blockNode
  | flowNode
  | blockList
  | blockMapping
  | flowList
  | flowMapping
  deriving DecidableEq, Repr

def Activity.message : Activity → String
  | token => "while scanning for the next token"
  | key => "while scanning a simple key"
  | directive => "while scanning a directive"
  | versionDirective => "while scanning a %YAML directive"
  | handleDirective => "while scanning a %TAG directive"
  | declaredHandle => "while scanning a tag directive"
  | declaredHandleEnd => "while parsing a tag directive"
  | declaredName => "while parsing a %TAG directive"
  | anchor => "while scanning an anchor"
  | reference => "while scanning an alias"
  | tag => "while scanning a tag"
  | tagName => "while parsing a tag"
  | blockText => "while scanning a block scalar"
  | quotedText => "while scanning a quoted scalar"
  | quotedEscape => "while parsing a quoted scalar"
  | plainText => "while scanning a plain scalar"
  | node => "while parsing a node"
  | blockNode => "while parsing a block node"
  | flowNode => "while parsing a flow node"
  | blockList => "while parsing a block collection"
  | blockMapping => "while parsing a block mapping"
  | flowList => "while parsing a flow sequence"
  | flowMapping => "while parsing a flow mapping"

/-- A fault of a text. -/
inductive Fault where
  | control (offset : Nat)
  | met (problem : Problem) (place : Mark) (context : Option (Activity × Mark))
  | unknownAnchor (place : Mark)
  deriving DecidableEq, Repr

def contextMessage (place : Mark) : Option (Activity × Mark) → String
  | none => ""
  | some (activity, start) =>
    ", " ++ activity.message
      ++ if start.line = place.line ∧ start.column = place.column then "" else start.suffix

def Fault.message : Fault → String
  | control offset =>
    "control characters are not allowed"
      ++ if offset = 0 then "" else " at position " ++ toString offset
  | met problem place context =>
    problem.message ++ place.suffix ++ contextMessage place context
  | unknownAnchor place => "unknown anchor" ++ place.suffix

/-- A fault at a cursor, while reading something that began at `start`. -/
def Cursor.fail {α : Type} (c : Cursor) (problem : Problem) (activity : Activity) (start : Mark) :
    Except Fault α :=
  .error (.met problem c.mark (some (activity, start)))

/-- A fault at a cursor, while reading nothing in particular. -/
def Cursor.failPlainly {α : Type} (c : Cursor) (problem : Problem) : Except Fault α :=
  .error (.met problem c.mark none)

end PackageFinder.Yaml
