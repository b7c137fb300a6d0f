import PackageFinder.Url.Percent

/-!
# Queries of names and values

A query carries pairs of a name and a value, with `=` inside a pair and `&` between pairs.  Letters,
digits and `*-._` stand as they are, a space is written `+`, and any other byte is encoded.
-/

namespace PackageFinder.Url.Form

/-- May stand in a query as it is. -/
def isPlain (c : Char) : Bool := c.isAlphanum || isAmong "*-._" c

/-- One character of a name or a value. -/
def encodeChar (c : Char) : List Char :=
  if c = ' ' then ['+']
  else if isPlain c then [c]
  else (String.utf8EncodeChar c).flatMap percentByte

/-- A name or a value. -/
def encode (s : String) : List Char := s.toList.flatMap encodeChar

/-- A name and its value. -/
def encodePair (p : String × String) : List Char := encode p.1 ++ '=' :: encode p.2

/-- A query with one more pair. -/
def addPair (query : List Char) (p : String × String) : List Char :=
  if query.isEmpty then encodePair p else query ++ '&' :: encodePair p

/-- A query with more pairs. -/
def addPairs (query : List Char) (ps : List (String × String)) : List Char := ps.foldl addPair query

/-- A plus sign stands for a space. -/
def unplus (c : Char) : Char := if c = '+' then ' ' else c

/-- The bytes that a name or a value stands for. -/
def decodeBytes (s : List Char) : List UInt8 := percentDecode (s.map unplus)

/-- The two sides of the first `=`; without one, all is the name. -/
def splitPair : List Char → List Char × List Char
  | [] => ([], [])
  | c :: s =>
    if c = '=' then ([], s)
    else
      let (name, value) := splitPair s
      (c :: name, value)

/-- The names and values of a query, as bytes; empty pairs are left out. -/
def decode (query : List Char) : List (List UInt8 × List UInt8) :=
  ((Text.splitAll '&' query).filter (!·.isEmpty)).map fun piece =>
    let (name, value) := splitPair piece
    (decodeBytes name, decodeBytes value)

/-- The text of some bytes, with replacements where they are none. -/
def ofBytes (bytes : List UInt8) : String := String.ofList (Text.ofUtf8Lossy bytes)

/-- The names and values of a query. -/
def pairs (query : List Char) : List (String × String) :=
  (decode query).map fun p => (ofBytes p.1, ofBytes p.2)

end PackageFinder.Url.Form
