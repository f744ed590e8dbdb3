/-!
# Paths of files

A path is a text that is cut at its slashes.  Its components are the steps that it takes: up from a
directory, or down to a name.  An empty segment is no step, and a single dot is one only where a
path begins with it.
-/

namespace AuthGateway

/-- A step of a path. -/
inductive PathStep where
  /-- To the top, with the slash in front of a path. -/
  | top
  /-- To where the path begins, with the dot in front of it. -/
  | here
  /-- Up, with two dots. -/
  | up
  /-- Down to a name. -/
  | down (name : List Char)
  deriving DecidableEq, Repr

namespace PathStep

/-- The step that a segment stands for. -/
def ofSegment? (s : List Char) : Option PathStep :=
  if s = [] ∨ s = ['.'] then none
  else if s = ['.', '.'] then some .up
  else some (.down s)

/-- Whether a step leads down to a name. -/
def isDown : PathStep → Bool
  | .down _ => true
  | _ => false

end PathStep

namespace FilePath

/-- The step that stands in front of a path. -/
def front (path : List Char) : List PathStep :=
  if path.head? = some '/' then [.top]
  else if (path.splitOn '/').head? = some ['.'] then [.here]
  else []

/-- The steps of a path. -/
def steps (path : List Char) : List PathStep :=
  front path ++ (path.splitOn '/').filterMap PathStep.ofSegment?

/-- The path of something in a directory.  A path from the top is what it is in every directory. -/
def join (directory path : String) : String :=
  if path.toList.head? = some '/' then path
  else if directory = "" ∨ directory.toList.getLast? = some '/' then directory ++ path
  else directory ++ "/" ++ path

/-- The most bytes of a path that a file system takes. -/
def maxBytes : Nat := 4095

/-- Whether a file system takes a path, as far as its text goes. -/
def isTaken (path : String) : Bool :=
  path ≠ "" && path.utf8ByteSize ≤ maxBytes && !path.toList.contains '\x00'

end FilePath

end AuthGateway
