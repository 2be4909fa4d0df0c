import FacetedSearch.Number.Literal
import FacetedSearch.Toml.Moment
import FacetedSearch.Toml.Text

/-!
# FacetedSearch.Toml.Value — values of TOML

Of a value only what a setting may be is kept: a whole number.  Of every other value its kind is.
-/

namespace FacetedSearch.Toml

/-- A value. -/
inductive Value
  | integer (i : Int)
  | float
  | boolean
  | moment
  | text
  | list
  | table
deriving DecidableEq

/-- A moment or a number.  A whole number has 64 bits. -/
def measure? (s : List Char) : Option (Value × List Char) :=
  match moment? s, special? s, float? s, integer? s with
  | some rest, _, _, _ => some (.moment, rest)
  | _, some (_, rest), _, _ => some (.float, rest)
  | _, _, some (_, rest), _ => some (.float, rest)
  | _, _, _, some (i, rest) => if Literal.fitsLong i then some (.integer i, rest) else none
  | _, _, _, _ => none

/-- A value that holds no others. -/
def scalar? (s : List Char) : Option (Value × List Char) :=
  match s with
  | '"' :: _ => (text? s).map fun (_, rest) => (.text, rest)
  | '\'' :: _ => (text? s).map fun (_, rest) => (.text, rest)
  | 't' :: 'r' :: 'u' :: 'e' :: rest => some (.boolean, rest)
  | 'f' :: 'a' :: 'l' :: 's' :: 'e' :: rest => some (.boolean, rest)
  | _ => measure? s

end FacetedSearch.Toml
