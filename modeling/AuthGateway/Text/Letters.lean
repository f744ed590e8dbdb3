/-!
# Letter case

Lowering, raising and comparing are about the basic Latin alphabet: the letters `A` to `Z` and `a`
to `z` have a case there, and every other character, whatever its alphabet, is left alone.

Some letters outside that alphabet differ from letters of it in nothing but case or in being written
as one: the long s, the Kelvin sign, the sharp s and the Latin ligatures.  Folding makes basic Latin
letters of them.  All other characters fold to something that is no basic Latin text, and are left
as they are here.
-/

namespace AuthGateway.Text

/-! ### The basic Latin alphabet -/

/-- Lower the letters `A` to `Z`. -/
def lower (s : List Char) : List Char :=
  s.map Char.toLower

/-- Raise the letters `a` to `z`. -/
def upper (s : List Char) : List Char :=
  s.map Char.toUpper

/-- Whether two texts differ at most in the case of basic Latin letters. -/
def eqIgnoringCase (s t : List Char) : Bool :=
  lower s == lower t

/-! ### All alphabets -/

/-- The letters that fold to basic Latin letters, and what they fold to. -/
def latinFoldings : List (Char × String) :=
  [('ß', "ss"), ('ſ', "s"), ('ẞ', "ss"), ('\u212A', "k"), ('ﬀ', "ff"), ('ﬁ', "fi"), ('ﬂ', "fl"),
    ('ﬃ', "ffi"), ('ﬄ', "ffl"), ('ﬅ', "st"), ('ﬆ', "st")]

/-- Fold a character. -/
def foldChar (c : Char) : List Char :=
  match latinFoldings.lookup c with
  | some folded => folded.toList
  | none => [c.toLower]

/-- Fold a text.  A text equals a basic Latin one up to case when the two fold to the same text. -/
def fold (s : List Char) : List Char :=
  s.flatMap foldChar

end AuthGateway.Text
