import PackageFinder.Url.Percent

/-!
# Paths

The segments of a path.  A segment of one dot says nothing, and one of two dots takes the segment
before it away, unless that is a drive letter.
-/

namespace PackageFinder.Url.Path

/-- A letter of ASCII. -/
def isLetter (c : Char) : Bool := c.isAlpha

/-- A drive letter: a letter and a colon or a bar. -/
def isDrive : List Char → Bool
  | [a, b] => isLetter a && (b = ':' || b = '|')
  | _ => false

/-- The spellings of a dot. -/
def isDot (s : List Char) : Bool :=
  decide (s = ".".toList) || decide (s.map Char.toLower = "%2e".toList)

/-- The spellings of two dots. -/
def isDoubleDot (s : List Char) : Bool :=
  [2, 4, 6].any fun n => s.length == n
    && [1, 3].any fun k => isDot (s.take k) && isDot (s.drop k)

/-- The segments without the last one, unless that is a drive letter. -/
def shorten (segments : List (List Char)) : List (List Char) :=
  match segments.getLast? with
  | some s => if isDrive s then segments else segments.dropLast
  | none => []

/-- Adds a segment; `last` says that none follows. -/
def addSegment (segments : List (List Char)) (segment : List Char) (last : Bool) :
    List (List Char) :=
  if isDoubleDot segment then
    if last then shorten segments ++ [[]] else shorten segments
  else if isDot segment then
    if last then segments ++ [[]] else segments
  else segments ++ [segment]

/-- Adds segments to others. -/
def addSegments (done : List (List Char)) : List (List Char) → List (List Char)
  | [] => done
  | [s] => addSegment done s true
  | s :: rest => addSegments (addSegment done s false) rest

/-- The text of a path of segments. -/
def write (segments : List (List Char)) : List Char := segments.flatMap ('/' :: ·)

/-- The path of some segments as they were read. -/
def ofSegments (segments : List (List Char)) : List Char :=
  write (addSegments [] (segments.map (percentEncode pathBad)))

/-- A drive letter at the start of a path has a colon, and what follows it is another segment. -/
def splitDrive : List (List Char) → List (List Char)
  | (a :: ':' :: c :: r) :: rest =>
    if isLetter a then [a, ':'] :: (c :: r) :: rest else (a :: ':' :: c :: r) :: rest
  | [a, '|'] :: rest => if isLetter a then [a, ':'] :: rest else [a, '|'] :: rest
  | segments => segments

/-- The path of a file. -/
def ofFileSegments (segments : List (List Char)) : List Char :=
  let path := ofSegments (splitDrive segments)
  '/' :: path.dropWhile (· = '/')

end PackageFinder.Url.Path
