import FacetedSearch.Range
import FacetedSearch.Error
import FacetedSearch.Number.Literal
import FacetedSearch.Number.Sortable

/-!
# FacetedSearch.Range.Parser — ranges as they are written

A range is written as two sides around ` TO `, such as `[10 TO 20}`.  A bracket stands at the
outer end of each side: a square one leaves the bound out and a curly one takes it in.  `NULL` and
`*` stand for no bound.  A bound that looks like a number is encoded as the declared type of the
field encodes its numbers, so that it compares with the field's terms.
-/

namespace FacetedSearch.TermRange

/-- What stands between the two sides. -/
def separator : List Char := [' ', 'T', 'O', ' ']

/-- What stands before and behind the first occurrence of `sep`. -/
def splitFirst (sep : List Char) : List Char → Option (List Char × List Char)
  | [] => if sep.isEmpty then some ([], []) else none
  | c :: cs =>
    if sep.isPrefixOf (c :: cs) then some ([], (c :: cs).drop sep.length)
    else (splitFirst sep cs).map fun (before, behind) => (c :: before, behind)

/-- Whether a bracket takes its bound in. -/
def inclusive? (c : Char) : Option Bool :=
  match c with
  | '[' | ']' => some false
  | '\x7b' | '\x7d' => some true
  | _ => none

/-- The whole number that a number is, if it is one of 64 bits. -/
def integral? : Number → Option Int
  | .int v => some v.toInt
  | .long v => some v.toInt
  | n => n.toDouble.toInt?.filter Literal.fitsLong

/-- The term of a number in a field of a sort type: whole-number types hold whole numbers within
their width, floating-point types the nearest number, and other types the number as written. -/
def encodeAs? (type : SortType) (n : Number) : Option String :=
  match type with
  | .int => ((integral? n).filter Literal.fitsInt).map fun i => (Number.int (Int32.ofInt i)).encode
  | .long => (integral? n).map fun i => (Number.long (Int64.ofInt i)).encode
  | .float => some (Number.float (n.toDouble.convert .single)).encode
  | .double => some (Number.double n.toDouble).encode
  | _ => some n.encode

/-- The bound that a side spells behind its bracket. -/
def bound (field text : String) (type : SortType) (raw : List Char) :
    Except Error (Option String) :=
  let raw := String.ofList raw
  if raw = "NULL" ∨ raw = "*" then .ok none
  else match parseNumber? raw with
    | none => .ok (some raw)
    | some n => match encodeAs? type n with
      | some term => .ok (some term)
      | none => .error (.rangeBound raw type field text)

/-- Whether the bracket of a side takes the bound in. -/
def inclusive (field text : String) (bracket : Char) : Except Error Bool :=
  match inclusive? bracket with
  | some b => .ok b
  | none => .error (.rangeBracket bracket field text)

/-- Whether `part` occurs in a text. -/
def occurs (part : List Char) (s : List Char) : Bool := (splitFirst part s).isSome

/-- Each side's bracket and what it stands next to, in the order opening bracket, low bound, high
bound, closing bracket. -/
def sides? (s : List Char) : Option (Char × List Char × List Char × Char) := do
  let (low, high) ← splitFirst separator s
  let high := Text.trim high
  if occurs separator high then none else
  match Text.trim low, high.getLast? with
  | opening :: low, some closing => some (opening, low, high.dropLast, closing)
  | _, _ => none

/-- The range of a field that a text spells, with numeric bounds encoded for a sort type. -/
def parseTyped (field text : String) (type : SortType) : Except Error TermRange :=
  match sides? text.toList with
  | none => .error (.rangeShape field text)
  | some (opening, low, high, closing) => do
    let lowInclusive ← inclusive field text opening
    let highInclusive ← inclusive field text closing
    let low ← bound field text type low
    let high ← bound field text type high
    return { field, text, low, high, lowInclusive, highInclusive }

/-- The range that a text spells, with numeric bounds encoded for the types they are written
with. -/
def parse (field text : String) : Except Error TermRange := parseTyped field text .none

end FacetedSearch.TermRange
