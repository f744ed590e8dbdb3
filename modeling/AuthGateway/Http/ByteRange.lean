import AuthGateway.Text.Basic

/-!
# Byte ranges

A `Range` field asks for parts of a file, by the numbers of their first and last bytes or as the
last bytes of the file.  Parts must lie within the file and must not overlap.
-/

namespace AuthGateway

/-- A part as it is asked for. -/
inductive RangeSpec where
  /-- From a byte on, to another one or to the end. -/
  | starting (first : Nat) (last : Option Nat)
  /-- So many bytes at the end. -/
  | final (count : Nat)
  deriving DecidableEq, Repr

/-- The bytes from the first to the last, both included. -/
structure ByteRange where
  first : Nat
  last : Nat
  deriving DecidableEq, Repr

namespace ByteRange

/-! ### Reading -/

/-- A number below 2⁶⁴ without sign and without leading zeros. -/
def number? (s : List Char) : Option Nat :=
  let n := s.foldl (fun n c => 10 * n + (c.toNat - '0'.toNat)) 0
  if s ≠ [] ∧ s.all Char.isDigit ∧ (s.length = 1 ∨ s.head? ≠ some '0') ∧ n < UInt64.size then
    some n
  else none

/-- Read one part. -/
def spec? (s : List Char) : Option RangeSpec := do
  let (first, last) ← Text.cutAt? '-' s
  if first = [] then
    let count ← number? last
    if count = 0 then none else some (.final count)
  else if last = [] then return .starting (← number? first) none
  else return .starting (← number? first) (some (← number? last))

/-- One part of several; a single blank may stand before it. -/
def padded? (s : List Char) : Option (List Char) :=
  match s with
  | [] => some s
  | c :: rest =>
    if !Text.isBlank c then some s
    else if rest.any Text.isBlank then none
    else some rest

/-- Read the value of a `Range` field. -/
def specs? (value : List Char) : Option (List RangeSpec) := do
  let parts ← Text.after? "bytes=".toList value
  match parts.splitOn ',' with
  | [] => none
  | first :: rest => return (← spec? first) :: (← rest.mapM fun p => padded? p >>= spec?)

/-! ### Within a file -/

/-- The bytes of a file of some size that a part asks for. -/
def ofSpec? (size : Nat) : RangeSpec → Option ByteRange
  | .starting first last =>
    let last := (last.map fun n => min n (size - 1)).getD (size - 1)
    if first ≤ last then some ⟨first, last⟩ else none
  | .final count => if count ≤ size then some ⟨size - count, size - 1⟩ else none

/-- Whether two parts share a byte. -/
def overlaps (a b : ByteRange) : Bool :=
  a.first ≤ b.last && b.first ≤ a.last

/-- Whether no two parts share a byte. -/
def areDisjoint : List ByteRange → Bool
  | [] => true
  | a :: rest => !rest.any a.overlaps && areDisjoint rest

/-- The parts of a file that the value of a `Range` field asks for. -/
def read (size : Nat) (value : List Char) : Option (List ByteRange) := do
  let ranges ← (← specs? value).mapM (ofSpec? size)
  if areDisjoint ranges then some ranges else none

/-- A part of some bytes. -/
def cut {α : Type} (r : ByteRange) (content : List α) : List α :=
  (content.drop r.first).take (r.last + 1 - r.first)

end ByteRange

end AuthGateway
