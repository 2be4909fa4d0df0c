import FacetedSearch.Order

/-!
# FacetedSearch.SortType — declared types of fields

A field may be declared with a sort type, which decides how range bounds over it are encoded and
how its encoded terms decode.  Five of the ten types decode to numbers; an undeclared field counts
as `none`, whose terms are 32-bit whole numbers.
-/

namespace FacetedSearch

/-- How the values of a field are declared for sorting. -/
inductive SortType
  | none
  | string
  | stringVal
  | int
  | long
  | float
  | double
  | byte
  | short
  | custom
deriving DecidableEq

namespace SortType

/-- Every sort type. -/
def all : List SortType :=
  [.none, .string, .stringVal, .int, .long, .float, .double, .byte, .short, .custom]

/-- The name of a sort type. -/
def name : SortType → String
  | .none => "None"
  | .string => "String"
  | .stringVal => "StringVal"
  | .int => "Int"
  | .long => "Long"
  | .float => "Float"
  | .double => "Double"
  | .byte => "Byte"
  | .short => "Short"
  | .custom => "Custom"

/-- The sort type of a name. -/
def ofName? (s : String) : Option SortType := all.find? fun t => t.name == s

/-- Whether terms of this type decode to numbers. -/
def isNumeric : SortType → Bool
  | .none | .int | .long | .float | .double => true
  | _ => false

theorem ofName?_name (t : SortType) : ofName? t.name = some t := by cases t <;> rfl

/-- The place of a sort type in the list of all. -/
def place : SortType → Nat
  | .none => 0
  | .string => 1
  | .stringVal => 2
  | .int => 3
  | .long => 4
  | .float => 5
  | .double => 6
  | .byte => 7
  | .short => 8
  | .custom => 9

instance sortKey : SortKey SortType :=
  SortKey.ofRank place fun {a b} h => by cases a <;> cases b <;> first | rfl | cases h

end SortType

end FacetedSearch
