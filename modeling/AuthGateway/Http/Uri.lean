import AuthGateway.Text.Basic
import AuthGateway.Text.Letters

/-!
# Request targets

The target of a request comes as a path and a query, as an absolute URI with a scheme and an
authority before them, as an authority alone, or as the single star.  All parts are kept as they
came, percent signs included, except that the two schemes of the web are kept in lower case.  A
fragment is dropped.
-/

namespace AuthGateway

/-- What stands before a path. -/
inductive Origin where
  /-- Nothing. -/
  | absent
  /-- An authority, and no path behind it. -/
  | authority (authority : String)
  /-- A scheme and an authority. -/
  | absolute (scheme authority : String)
  deriving DecidableEq, Repr, Inhabited

/-- The origin as it is written. -/
def Origin.text : Origin → String
  | .absent => ""
  | .authority a => a
  | .absolute scheme a => scheme ++ "://" ++ a

/-- The target of a request. -/
structure Uri where
  origin : Origin
  path : String
  query : Option String
  deriving DecidableEq, Repr, Inhabited

namespace Uri

/-- A path and a query with no origin. -/
def relative (path : String) (query : Option String) : Uri :=
  ⟨.absent, path, query⟩

/-- The path and the query as one text. -/
def pathAndQuery (u : Uri) : String :=
  match u.query with
  | none => u.path
  | some q => u.path ++ "?" ++ q

/-- The target as one text. -/
def text (u : Uri) : String :=
  u.origin.text ++ u.pathAndQuery

/-- The most bytes of a target. -/
def maxBytes : Nat := UInt16.size - 2

/-- Whether the path and the query are short enough to be a target. -/
def fits (u : Uri) : Bool :=
  u.pathAndQuery.utf8ByteSize ≤ maxBytes

/-! ### Paths and queries -/

/-- Whether a character needs no percent encoding in a path.  The delete character does. -/
def isPathChar (c : Char) : Bool :=
  let n := c.toNat
  n = 0x21 || n = 0x22 || (0x24 ≤ n && n ≤ 0x3B) || n = 0x3D || (0x40 ≤ n && n ≤ 0x5F)
    || (0x61 ≤ n && n ≤ 0x7E) || 0x80 ≤ n

/-- Whether a character needs no percent encoding in a query. -/
def isQueryChar (c : Char) : Bool :=
  let n := c.toNat
  n = 0x21 || (0x24 ≤ n && n ≤ 0x3B) || n = 0x3D || (0x3F ≤ n && n ≤ 0x7E) || 0x80 ≤ n

/-- A text up to its fragment. -/
def withoutFragment (s : List Char) : List Char :=
  s.takeWhile (· ≠ '#')

/-- A path and a query behind an origin; an empty path stands for the root. -/
def ofParts? (origin : Origin) (path : List Char) (query : Option (List Char)) : Option Uri :=
  if path.all isPathChar ∧ (query.all fun q => q.all isQueryChar) then
    some ⟨origin, if path = [] then "/" else String.ofList path, query.map String.ofList⟩
  else none

/-- Read a path and a query, cut at the first question mark. -/
def ofPathAndQuery? (origin : Origin) (s : List Char) : Option Uri :=
  match Text.cutAt? '?' (withoutFragment s) with
  | none => ofParts? origin (withoutFragment s) none
  | some (path, query) => ofParts? origin path (some query)

/-! ### Authorities -/

/-- Whether a character may stand in an authority.  The percent sign may as well, in a user name and
in the zone of an address. -/
def isAuthorityChar (c : Char) : Bool :=
  c.isAlphanum || "!$&()*+,-.:;=@[]_~".toList.contains c || c.toNat = 0x27

/-- What has been seen of an authority. -/
structure AuthorityScan where
  colons : Nat
  opened : Bool
  closed : Bool
  percent : Bool
  /-- Whether the last character was an at sign. -/
  atEnd : Bool

namespace AuthorityScan

/-- Nothing. -/
def start : AuthorityScan :=
  ⟨0, false, false, false, false⟩

/-- The most colons of a part: those of an address of eight groups, and of its port. -/
def maxColons : Nat := 8

/-- Look at one more character.  Colons and percent signs before an at sign belong to the user, and
those before a closing bracket to an address. -/
def step (a : AuthorityScan) (c : Char) : Option AuthorityScan :=
  let a := { a with atEnd := false }
  if c = ':' then
    if maxColons ≤ a.colons then none else some { a with colons := a.colons + 1 }
  else if c = '[' then
    if a.percent ∨ a.opened then none else some { a with opened := true }
  else if c = ']' then
    if ¬a.opened ∨ a.closed then none
    else some { a with closed := true, colons := 0, percent := false }
  else if c = '@' then some { a with colons := 0, percent := false, atEnd := true }
  else if c = '%' then some { a with percent := true }
  else if isAuthorityChar c then some a
  else none

/-- Whether an authority may end here. -/
def mayEnd (a : AuthorityScan) : Bool :=
  a.opened == a.closed && a.colons ≤ 1 && !a.atEnd && !a.percent

end AuthorityScan

/-- Whether a text is an authority: brackets in pairs, at most one port, and a host after a user. -/
def isAuthority (s : List Char) : Bool :=
  (s.foldlM AuthorityScan.step AuthorityScan.start).any AuthorityScan.mayEnd

/-- Cut a text where an authority ends. -/
def cutAuthority (s : List Char) : List Char × List Char :=
  s.span fun c => c ≠ '/' && c ≠ '?' && c ≠ '#'

/-! ### Schemes -/

/-- Whether a character may stand in a scheme. -/
def isSchemeChar (c : Char) : Bool :=
  c.isAlphanum || c = '+' || c = '-' || c = '.' || c = '~'

/-- The most characters of a scheme. -/
def maxScheme : Nat := 64

/-- A scheme as it is kept. -/
def keptScheme (scheme : List Char) : List Char :=
  let lower := Text.lower scheme
  if lower = "http".toList ∨ lower = "https".toList then lower else scheme

/-- Cut an absolute URI behind its scheme: `some none` when there is no scheme, and `none` when the
scheme is too long.  The scheme may be empty. -/
def cutScheme? (s : List Char) : Option (Option (List Char × List Char)) :=
  let scheme := s.takeWhile isSchemeChar
  match Text.after? "://".toList (s.dropWhile isSchemeChar) with
  | none => some none
  | some rest => if scheme.length ≤ maxScheme then some (some (keptScheme scheme, rest)) else none

/-! ### Targets -/

/-- Read an absolute URI, or an authority alone. -/
def ofAbsolute? (s : List Char) : Option Uri :=
  match cutScheme? s with
  | none => none
  | some none => if isAuthority s then some ⟨.authority (String.ofList s), "", none⟩ else none
  | some (some (scheme, rest)) =>
    let (authority, target) := cutAuthority rest
    if authority ≠ [] ∧ isAuthority authority then
      ofPathAndQuery? (.absolute (String.ofList scheme) (String.ofList authority)) target
    else none

/-- Read the target of a request. -/
def ofText? (s : String) : Option Uri :=
  if maxBytes < s.utf8ByteSize then none
  else
    match s.toList with
    | [] => none
    | ['*'] => some (relative "*" none)
    | '/' :: rest => ofPathAndQuery? .absent ('/' :: rest)
    | cs => ofAbsolute? cs

end Uri

end AuthGateway
