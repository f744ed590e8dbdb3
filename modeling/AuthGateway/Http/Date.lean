import AuthGateway.Text.Basic

/-!
# Dates in header fields

Three forms are read: `Sun, 06 Nov 1994 08:49:37 GMT`, the older `Sunday, 06-Nov-94 08:49:37 GMT`,
whose two digits of the year stand for 1970 to 2069, and `Sun Nov  6 08:49:37 1994`.  The day has to
be one that the month has, and the day of the week has to be the right one.
-/

namespace AuthGateway.DateField

/-- The days of the week. -/
def dayNames : List String :=
  ["Monday", "Tuesday", "Wednesday", "Thursday", "Friday", "Saturday", "Sunday"]

/-- The months, as dates name them. -/
def monthNames : List String :=
  ["Jan", "Feb", "Mar", "Apr", "May", "Jun", "Jul", "Aug", "Sep", "Oct", "Nov", "Dec"]

/-- The abbreviated days of the week. -/
def shortDayNames : List (List Char) :=
  dayNames.map fun d => d.toList.take 3

/-- A day of the week and a time of that day; the days of the week count from Monday, the months
from January, both from zero. -/
structure Fields where
  weekday : Nat
  year : Nat
  month : Nat
  day : Nat
  hour : Nat
  minute : Nat
  second : Nat

/-- Whether February has 29 days. -/
def isLeap (year : Nat) : Bool :=
  year % 4 = 0 && (year % 100 ≠ 0 || year % 400 = 0)

/-- The days of each month of a year. -/
def monthLengths (year : Nat) : List Nat :=
  [31, if isLeap year then 29 else 28, 31, 30, 31, 30, 31, 31, 30, 31, 30, 31]

/-- How many leap years lie before a year. -/
def leapYearsBefore (year : Nat) : Nat :=
  (year - 1) / 4 - (year - 1) / 100 + (year - 1) / 400

/-- The days from the epoch to the first of January. -/
def daysBeforeYear (year : Nat) : Nat :=
  (year - 1970) * 365 + (leapYearsBefore year - leapYearsBefore 1970)

/-- The days from the epoch to the day of a date. -/
def Fields.days (f : Fields) : Nat :=
  daysBeforeYear f.year + ((monthLengths f.year).take f.month).foldl (· + ·) 0 + (f.day - 1)

/-- The day of the week on which the epoch began, a Thursday. -/
def weekdayOfEpoch : Nat := 3

/-- Whether a date from 1970 to 9999 is one of the calendar, and a time is one of a day. -/
def Fields.isValid (f : Fields) : Bool :=
  1970 ≤ f.year && f.year ≤ 9999 && 1 ≤ f.day && (monthLengths f.year)[f.month]?.any (f.day ≤ ·)
    && f.hour < 24 && f.minute < 60 && f.second < 60
    && (f.days + weekdayOfEpoch) % 7 == f.weekday

/-- The seconds since the epoch. -/
def Fields.seconds? (f : Fields) : Option Nat :=
  if f.isValid then some (((f.days * 24 + f.hour) * 60 + f.minute) * 60 + f.second) else none

/-! ### The three forms -/

/-- A number of exactly so many digits. -/
def digits? (width : Nat) (s : List Char) : Option Nat :=
  if s.length = width ∧ s.all Char.isDigit then
    some (s.foldl (fun n c => 10 * n + (c.toNat - '0'.toNat)) 0)
  else none

/-- A time: hours, minutes and seconds with colons between them. -/
def time? : List Char → Option (Nat × Nat × Nat)
  | [h, i, ':', m, n, ':', s, t] => do
    return (← digits? 2 [h, i], ← digits? 2 [m, n], ← digits? 2 [s, t])
  | _ => none

/-- The characters of a text from one position to another. -/
def slice (s : List Char) (start stop : Nat) : List Char :=
  (s.drop start).take (stop - start)

/-- The place of a month among the months. -/
def month? (s : List Char) : Option Nat :=
  monthNames.idxOf? (String.ofList s)

/-- The place of an abbreviated day among the days of the week. -/
def shortWeekday? (s : List Char) : Option Nat :=
  shortDayNames.idxOf? s

/-- Read the form of today. -/
def ofFixed? (s : List Char) : Option Fields := do
  if s.length ≠ 29 ∨ slice s 25 29 ≠ " GMT".toList ∨ slice s 3 5 ≠ ", ".toList
      ∨ slice s 7 8 ≠ [' '] ∨ slice s 11 12 ≠ [' '] ∨ slice s 16 17 ≠ [' '] then none
  else
    let (hour, minute, second) ← time? (slice s 17 25)
    return ⟨← shortWeekday? (s.take 3), ← digits? 4 (slice s 12 16), ← month? (slice s 8 11),
      ← digits? 2 (slice s 5 7), hour, minute, second⟩

/-- The day of the week that a text begins with, and what follows it. -/
def longWeekday? (s : List Char) : Option (Nat × List Char) :=
  dayNames.zipIdx.findSome? fun (d, i) => (Text.after? (d ++ ", ").toList s).map (i, ·)

/-- Read the older form with dashes. -/
def ofDashed? (s : List Char) : Option Fields := do
  let (weekday, rest) ← longWeekday? s
  if rest.length ≠ 22 ∨ slice rest 18 22 ≠ " GMT".toList ∨ slice rest 2 3 ≠ ['-']
      ∨ slice rest 6 7 ≠ ['-'] then none
  else
    let (hour, minute, second) ← time? (slice rest 10 18)
    let year ← digits? 2 (slice rest 7 9)
    return ⟨weekday, if year < 70 then 2000 + year else 1900 + year, ← month? (slice rest 3 6),
      ← digits? 2 (slice rest 0 2), hour, minute, second⟩

/-- A day of the month that may stand behind a space. -/
def paddedDay? : List Char → Option Nat
  | [' ', d] => digits? 1 [d]
  | s => digits? 2 s

/-- Read the form that ends with the year. -/
def ofYearLast? (s : List Char) : Option Fields := do
  if s.length ≠ 24 ∨ slice s 3 4 ≠ [' '] ∨ slice s 7 8 ≠ [' '] ∨ slice s 10 11 ≠ [' ']
      ∨ slice s 19 20 ≠ [' '] then none
  else
    let (hour, minute, second) ← time? (slice s 11 19)
    return ⟨← shortWeekday? (s.take 3), ← digits? 4 (slice s 20 24), ← month? (slice s 4 7),
      ← paddedDay? (slice s 8 10), hour, minute, second⟩

/-- Read a date, in seconds since the epoch. -/
def read (s : String) : Option Nat := do
  let cs := Text.trim s.toList
  if s.toList.all (·.toNat < 0x80) then
    (((ofFixed? cs).or (ofDashed? cs)).or (ofYearLast? cs)).bind Fields.seconds?
  else none

end AuthGateway.DateField
