import FacetedSearch.Order

/-!
# FacetedSearch.Range — ranges of terms

A range has up to two bounds, each of which may itself belong to it, and holds the terms between
them in ordinal order.
-/

namespace FacetedSearch

/-- A range of the terms of a field, with the text it was written as. -/
structure TermRange where
  field : String
  text : String
  /-- The least bound; `none` lets the range start with the first term. -/
  low : Option String
  /-- The greatest bound; `none` lets the range end with the last term. -/
  high : Option String
  lowInclusive : Bool
  highInclusive : Bool
deriving DecidableEq

namespace TermRange

/-- Whether a term is not below the range. -/
def aboveLow (r : TermRange) (term : String) : Bool :=
  match r.low with
  | none => true
  | some low => match SortKey.cmp term low with
    | .lt => false
    | .eq => r.lowInclusive
    | .gt => true

/-- Whether a term is not above the range. -/
def belowHigh (r : TermRange) (term : String) : Bool :=
  match r.high with
  | none => true
  | some high => match SortKey.cmp term high with
    | .lt => true
    | .eq => r.highInclusive
    | .gt => false

/-- Whether the range holds a term. -/
def contains (r : TermRange) (term : String) : Bool := r.aboveLow term && r.belowHigh term

/-- The field and the text of a range. -/
def display (r : TermRange) : String := s!"{r.field}:{r.text}"

end TermRange

end FacetedSearch
