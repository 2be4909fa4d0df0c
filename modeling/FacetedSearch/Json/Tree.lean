/-!
# FacetedSearch.Json.Tree — what a JSON text says

A tree keeps what a reader of requests can tell apart: whole numbers without a sign are kept with
their value and all other numbers are one, members stand in the order they were written, and a key
stands as often as it was written.
-/

namespace FacetedSearch.Json

/-- A value of a JSON text. -/
inductive Tree
  | null
  | boolean (b : Bool)
  /-- A number without sign, fraction and exponent. -/
  | natural (n : Nat)
  /-- Any other number. -/
  | otherNumber
  /-- A text; `none` is one with half of a surrogate pair, which no string holds. -/
  | text (s : Option String)
  | list (items : List Tree)
  | object (members : List (Option String × Tree))

end FacetedSearch.Json
