import FacetedSearch.Number

/-!
# FacetedSearch.Document — documents and the values of their fields

A document has a number and, for each of its fields, a list of values.  Every value has one text,
which is both what the index stores for it and the term it is found by.
-/

namespace FacetedSearch

/-- The number of a document within one generation of an index. -/
abbrev DocId := UInt32

/-- One value of a field. -/
inductive Value
  | text (s : String)
  | number (n : Number)
  | boolean (b : Bool)
deriving DecidableEq

namespace Value

/-- The text that a value is stored as and found by. -/
def toText : Value → String
  | .text s => s
  | .number n => n.toText
  | .boolean b => if b then "true" else "false"

/-- The number of a numeric value. -/
def number? : Value → Option Number
  | .number n => some n
  | _ => none

/-- Whether a value is a number. -/
def isNumeric (v : Value) : Bool := v.number?.isSome

end Value

/-- A document: its number, and the values of its fields in the order they were added. -/
structure Document where
  id : DocId
  fields : List (String × List Value) := []
deriving DecidableEq

namespace Document

/-- Append a value to the list of a field. -/
def addValue (name : String) (v : Value) : List (String × List Value) → List (String × List Value)
  | [] => [(name, [v])]
  | (x, vs) :: rest => if x = name then (x, vs ++ [v]) :: rest else (x, vs) :: addValue name v rest

/-- The document with one more value. -/
def add (d : Document) (name : String) (v : Value) : Document :=
  { d with fields := addValue name v d.fields }

/-- The values of a field, if the document has it. -/
def field? (d : Document) (name : String) : Option (List Value) := d.fields.lookup name

/-- Every value with the name of its field. -/
def values (d : Document) : List (String × Value) :=
  d.fields.flatMap fun (name, vs) => vs.map fun v => (name, v)

end Document

end FacetedSearch
