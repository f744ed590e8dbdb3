import AuthGateway.Encoding.Base64
import AuthGateway.Text.Basic

/-!
# PEM

A document stands between a line that begins and a line that ends it, both with the same label:
`-----BEGIN LABEL-----` and `-----END LABEL-----`.  Text before and after it is ignored, and so are
blanks within the base64 text of the content.  Header lines may come first, up to an empty line;
every one of them has a colon.

Marks are searched in one pass that never goes back: a character that breaks off the match of a mark
is spent, so `------BEGIN` with six dashes holds no mark.
-/

namespace AuthGateway.Pem

/-- A document: its label and its content. -/
structure Document where
  label : List Char
  content : Bytes
  deriving DecidableEq, Repr

/-- Search for a mark, given what is missing of it after the part matched so far; what stands before
the mark and the matched part together, and what follows. -/
def cutAfter? (mark : List Char) : List Char → List Char → Option (List Char × List Char)
  | [], s => some ([], s)
  | _ :: _, [] => none
  | c :: missing, d :: s =>
    (cutAfter? mark (if d = c then missing else mark) s).map fun (a, b) => (d :: a, b)

/-- Cut a text at a mark, which neither part keeps. -/
def cutAtMark? (mark s : List Char) : Option (List Char × List Char) :=
  (cutAfter? mark mark s).map fun (a, b) => (a.take (a.length - mark.length), b)

/-- Begins a document. -/
def beginMark : List Char := "-----BEGIN ".toList

/-- Ends a document. -/
def endMark : List Char := "-----END ".toList

/-- Follows a label. -/
def dashes : List Char := "-----".toList

/-- Spaces, tabs and line ends. -/
def isSpace (c : Char) : Bool :=
  c = ' ' || c = '\t' || c = '\n' || c = '\r'

/-- Header lines and the base64 text, cut at an empty line. -/
def headersAndText (body : List Char) : List Char × List Char :=
  match cutAtMark? ['\n', '\n'] body with
  | some r => r
  | none => (cutAtMark? ['\r', '\n', '\r', '\n'] body).getD ([], body)

/-- The lines of a text; a line end at its end begins no further line. -/
def lines (s : List Char) : List (List Char) :=
  let l := s.splitOn '\n'
  if l.getLast? = some [] then l.dropLast else l

/-- Whether header lines all have a colon. -/
def areHeaders (s : List Char) : Bool :=
  (lines s).all (·.contains ':')

/-- The first document of a text. -/
def read (s : List Char) : Option Document := do
  let (_, s) ← cutAtMark? beginMark s
  let (label, s) ← cutAtMark? dashes s
  let (body, s) ← cutAtMark? endMark (s.dropWhile isSpace)
  let (closing, _) ← cutAtMark? dashes s
  guard (label ≠ [] ∧ closing = label)
  let (headers, text) := headersAndText body
  let content ← Base64.decodePadded Base64.standard (text.filter fun c => !Text.isBlank c)
  guard (areHeaders headers)
  return ⟨label, content⟩

end AuthGateway.Pem
