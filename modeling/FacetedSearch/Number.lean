import FacetedSearch.Number.Shortest

/-!
# FacetedSearch.Number — the four types of number a field can hold

A number is a 32-bit or 64-bit whole number or a 32-bit or 64-bit floating-point number, and keeps
its type: equal values of two types are different numbers.
-/

namespace FacetedSearch

/-- The four number types. -/
inductive NumberType
  | int
  | long
  | float
  | double
deriving DecidableEq

/-- A number with its type. -/
inductive Number
  | int (value : Int32)
  | long (value : Int64)
  | float (value : Single)
  | double (value : Double)
deriving DecidableEq

namespace Number

/-- The type of a number. -/
def type : Number → NumberType
  | .int _ => .int
  | .long _ => .long
  | .float _ => .float
  | .double _ => .double

/-- The nearest 64-bit floating-point number. -/
def toDouble : Number → Double
  | .int v => Binary.ofInt v.toInt
  | .long v => Binary.ofInt v.toInt
  | .float v => v.convert .double
  | .double v => v

/-- The number as a document stores it and a term spells it. -/
def toText : Number → String
  | .int v => toString v.toInt
  | .long v => toString v.toInt
  | .float v => v.toText
  | .double v => v.toText

end Number

end FacetedSearch
