import FacetedSearch.Facet
import FacetedSearch.Schema

/-!
# FacetedSearch.Facet.Prepare — facets checked against the declared fields

Before anything is searched every facet is checked: it needs a name, an aggregation other than
counting needs a field that decodes to numbers, and ranges have to fit the declared type of the
facet's field.  The first facet that fails fails the request.
-/

namespace FacetedSearch

/-- A facet that has been checked. -/
structure PreparedFacet where
  definition : FacetDefinition
  /-- The range field whose numbers are aggregated and how its terms decode; `none` when counting. -/
  numbers : Option (String × SortType)
  /-- The parsed ranges; none in term mode. -/
  ranges : List TermRange
deriving DecidableEq

namespace FacetDefinition

/-- The aggregation field, if one is given that is not blank. -/
def givenField? (d : FacetDefinition) : Option String :=
  d.aggregationField.filter fun field => !field.toList.all Text.isBlank

/-- Where the numbers to aggregate come from. -/
def numbers (declared : Declarations) (d : FacetDefinition) :
    Except Error (Option (String × SortType)) :=
  if d.aggregation = .count then .ok none
  else match d.givenField? with
    | none => .error (.facetWithoutField d.name d.aggregation)
    | some given =>
      let field := rangeField given
      let type := declared.resolve field
      if type.isNumeric then .ok (some (field, type))
      else .error (.facetNotNumeric d.name d.aggregation field type)

/-- The ranges to group by, with bounds encoded as the facet's field is indexed. -/
def parsedRanges (declared : Declarations) (d : FacetDefinition) :
    Except Error (List TermRange) :=
  match d.mode with
  | .terms => .ok []
  | .ranges => d.ranges.mapM fun text => TermRange.parseTyped d.name text (declared.resolve d.name)

/-- Check one facet. -/
def prepare (declared : Declarations) (d : FacetDefinition) : Except Error PreparedFacet :=
  if d.name = "" then .error .facetUnnamed
  else do
    let numbers ← d.numbers declared
    let ranges ← d.parsedRanges declared
    return { definition := d, numbers, ranges }

end FacetDefinition

end FacetedSearch
