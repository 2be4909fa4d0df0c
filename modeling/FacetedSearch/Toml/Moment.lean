import FacetedSearch.Toml.Number

/-!
# FacetedSearch.Toml.Moment — dates and times of TOML

A moment is a date, a time of day, or a date with a time and perhaps the offset of that time.  The
readers check that each part is one of the calendar or the clock, and give what stands behind.
-/

namespace FacetedSearch.Toml

/-- A number of a fixed count of digits. -/
def fixed? (count : Nat) (s : List Char) : Option (Nat × List Char) :=
  let digits := s.take count
  if digits.length = count && digits.all Char.isDigit then
    some (baseValue 10 digits, s.drop count)
  else none

/-- A number of two digits between two bounds. -/
def within? (low high : Nat) (s : List Char) : Option (Nat × List Char) :=
  (fixed? 2 s).filter fun (n, _) => decide (low ≤ n) && decide (n ≤ high)

/-- A number of two digits between two bounds, behind a mark. -/
def part? (mark : Char) (low high : Nat) : Scan Nat
  | c :: rest => if c == mark then within? low high rest else none
  | [] => none

/-- How many days a month has. -/
def daysIn (year month : Nat) : Nat :=
  match month with
  | 2 => if year % 4 = 0 && (year % 100 != 0 || year % 400 == 0) then 29 else 28
  | 4 | 6 | 9 | 11 => 30
  | _ => 31

/-- What stands behind a date. -/
def date? (s : List Char) : Option (List Char) := do
  let (year, s) ← fixed? 4 s
  let (month, s) ← part? '-' 1 12 s
  let (_, s) ← part? '-' 1 (daysIn year month) s
  return s

/-- What stands behind a fraction of a second, if there is one. -/
def skipFraction (s : List Char) : List Char :=
  match s with
  | '.' :: c :: rest => if c.isDigit then rest.dropWhile Char.isDigit else s
  | _ => s

/-- What stands behind a time of day.  A minute may have a leap second. -/
def time? (s : List Char) : Option (List Char) := do
  let (_, s) ← within? 0 23 s
  let (_, s) ← part? ':' 0 59 s
  let (_, s) ← part? ':' 0 60 s
  return skipFraction s

/-- What stands behind the hours and minutes of an offset. -/
def hours? (s : List Char) : Option (List Char) := do
  let (_, s) ← within? 0 23 s
  let (_, s) ← part? ':' 0 59 s
  return s

/-- What stands behind an offset, if there is one. -/
def skipOffset (s : List Char) : List Char :=
  match s with
  | c :: rest =>
    if c == 'Z' || c == 'z' then rest
    else if c == '+' || c == '-' then (hours? rest).getD s
    else s
  | [] => s

/-- What stands behind the time of a date and its offset, if there is one. -/
def skipTime (s : List Char) : List Char :=
  match s with
  | c :: rest =>
    if c == 'T' || c == 't' || c == ' ' then ((time? rest).map skipOffset).getD s else s
  | [] => s

/-- What stands behind a moment. -/
def moment? (s : List Char) : Option (List Char) :=
  match date? s with
  | some rest => some (skipTime rest)
  | none => time? s

end FacetedSearch.Toml
