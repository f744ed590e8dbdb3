import AuthGateway.Text.Basic

/-!
# Patterns of paths

A pattern is a path whose segments may be captures.  A capture `:name` matches any segment; it may
have a text before it, which a segment then begins with.  At the end of a path it has to match at
least one character.  A capture `*name` at the end matches everything that is left, when something
is left.
-/

namespace AuthGateway

/-- A segment of a pattern. -/
inductive PatternSegment where
  | literal (s : List Char)
  /-- Any text, after a given one. -/
  | capture (lead : List Char)
  /-- All that is left, after a given text. -/
  | rest (lead : List Char)
  deriving DecidableEq, Repr

/-- The segments of a path. -/
abbrev Pattern := List PatternSegment

namespace PatternSegment

/-- Read a segment. -/
def ofChars (s : List Char) : PatternSegment :=
  let lead := s.takeWhile fun c => c ≠ ':' && c ≠ '*'
  match (s.drop lead.length).head? with
  | some ':' => .capture lead
  | some _ => .rest lead
  | none => .literal s

/-- How much a segment leaves open. -/
def openness : PatternSegment → Nat
  | .literal _ => 0
  | .capture _ => 1
  | .rest _ => 2

/-- Whether a text begins with another one and goes on. -/
def goesOn (lead s : List Char) : Bool :=
  (Text.after? lead s).any (· ≠ [])

/-- Whether a capture matches a segment, given whether the path ends with it. -/
def captures (lead s : List Char) (atEnd : Bool) : Bool :=
  if atEnd then goesOn lead s else Text.beginsWith lead s

end PatternSegment

namespace Pattern

/-- Read a pattern. -/
def ofText (s : String) : Pattern :=
  ((s.toList.drop 1).splitOn '/').map PatternSegment.ofChars

/-- The segments of a path, which has to begin with a slash. -/
def segments? (path : List Char) : Option (List (List Char)) :=
  match path with
  | '/' :: rest => some (rest.splitOn '/')
  | _ => none

/-- Whether a pattern matches the segments of a path. -/
def matchesSegments : Pattern → List (List Char) → Bool
  | [], [] => true
  | .rest lead :: _, s => PatternSegment.goesOn lead (['/'].intercalate s)
  | .literal t :: pattern, s :: rest => t == s && matchesSegments pattern rest
  | .capture lead :: pattern, s :: rest =>
    PatternSegment.captures lead s (rest == []) && matchesSegments pattern rest
  | _, _ => false

/-- Whether a pattern matches a path. -/
def admits (p : Pattern) (path : String) : Bool :=
  (segments? path.toList).any p.matchesSegments

/-- Which of two patterns for a path goes first: at the first segment where they differ in kind, the
one that leaves less open. -/
def precedes (p q : Pattern) : Bool :=
  p.map PatternSegment.openness < q.map PatternSegment.openness

end Pattern

end AuthGateway
