import FacetedSearch.SortType
import FacetedSearch.SortedMap

/-!
# FacetedSearch.Schema — field definitions and range fields

Each numeric field has a *range field* beside it, named by a suffix, which holds its numbers as
sortable terms.  A schema declares sort types of fields; a range field without a declaration of its
own has the type of the field it belongs to.
-/

namespace FacetedSearch

/-- The end of a range field's name. -/
def rangeSuffix : List Char := ['_', 'R', 'a', 'n', 'g', 'e']

/-- The name of a field's range field; a range field is its own. -/
def rangeField (field : String) : String :=
  if rangeSuffix.isSuffixOf field.toList then field
  else String.ofList (field.toList ++ rangeSuffix)

/-- The field that a range field belongs to. -/
def baseField? (field : String) : Option String :=
  if rangeSuffix.isSuffixOf field.toList then
    some (String.ofList (field.toList.take (field.toList.length - rangeSuffix.length)))
  else none

/-- Where declared sort types are looked up. -/
abbrev Declarations := String → Option SortType

/-- The sort type of a field: its own declaration, else that of the field a range field belongs
to, else `none`. -/
def Declarations.resolve (declared : Declarations) (field : String) : SortType :=
  match declared field with
  | some t => t
  | none => ((baseField? field).bind declared).getD .none

/-- The field definitions of one index. -/
structure Schema where
  sortTypes : SortedMap String SortType := ∅

/-- The declarations of a schema. -/
def Schema.declared (s : Schema) : Declarations := s.sortTypes.get?

theorem rangeField_rangeField (field : String) : rangeField (rangeField field) = rangeField field := by
  by_cases h : rangeSuffix.isSuffixOf field.toList = true
  · simp [rangeField, h]
  · simp [rangeField, h]

end FacetedSearch
