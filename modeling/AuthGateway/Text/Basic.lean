/-!
# Characters and pieces of texts

Blanks are the characters with the Unicode property `White_Space`.  Headers, cookies and
environment values are trimmed of them (`trim`) and cut at them (`words`).  `isControl` is the
Unicode category `Cc`.  `isHeaderText` is the alphabet in which a header value can be read as text:
the printable part of ASCII and the tab.

`after? lead s` takes `lead` off the front of `s`, when `s` begins with it.
-/

namespace AuthGateway.Text

/-! ### Kinds of characters -/

/-- The code points of category `Cc`. -/
def isControl (c : Char) : Bool :=
  c.toNat < 0x20 || (0x7F ≤ c.toNat && c.toNat ≤ 0x9F)

/-- A tab or a character from the space to the tilde. -/
def isHeaderText (c : Char) : Bool :=
  c == '\t' || (0x20 ≤ c.toNat && c.toNat ≤ 0x7E)

/-- The code points with the property `White_Space`. -/
def isBlank (c : Char) : Bool :=
  let n := c.toNat
  (0x09 ≤ n && n ≤ 0x0D) || n == 0x20 || n == 0x85 || n == 0xA0 || n == 0x1680
    || (0x2000 ≤ n && n ≤ 0x200A) || n == 0x2028 || n == 0x2029 || n == 0x202F
    || n == 0x205F || n == 0x3000

/-! ### Trimming -/

/-- Remove the longest prefix and the longest suffix whose characters all satisfy `p`. -/
def trimWhere (p : Char → Bool) (s : List Char) : List Char :=
  ((s.dropWhile p).reverse.dropWhile p).reverse

/-- Remove the blanks at both ends. -/
def trim (s : List Char) : List Char :=
  trimWhere isBlank s

/-! ### Words -/

/-- The maximal blank-free pieces of a text, in order. -/
def words (s : List Char) : List (List Char) :=
  (s.splitOnP isBlank).filter (· ≠ [])

/-! ### Leading pieces -/

/-- What follows `lead` in a text that begins with it. -/
def after? : List Char → List Char → Option (List Char)
  | [], s => some s
  | _ :: _, [] => none
  | c :: lead, d :: s => if c = d then after? lead s else none

/-- Whether a text begins with `lead`. -/
def beginsWith (lead s : List Char) : Bool :=
  (after? lead s).isSome

/-- Cut a text at the first occurrence of a character, which neither part keeps. -/
def cutAt? (c : Char) : List Char → Option (List Char × List Char)
  | [] => none
  | d :: s => if d = c then some ([], s) else (cutAt? c s).map fun (a, b) => (d :: a, b)

end AuthGateway.Text
