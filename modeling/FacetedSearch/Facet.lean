import FacetedSearch.Query
import FacetedSearch.SortedMap

/-!
# FacetedSearch.Facet — facet requests and their results

A facet groups the documents that a search matches.  Its name is the field whose terms it reads,
and the key of its result.  A request gives a search, its facets, and a page of each facet's term
groups.
-/

namespace FacetedSearch

/-- One facet of a request. -/
structure FacetDefinition where
  name : String := ""
  mode : FacetMode := .terms
  aggregation : Aggregation := .count
  /-- The field whose numbers are aggregated. -/
  aggregationField : Option String := none
  /-- The texts of the ranges to group by. -/
  ranges : List String := []
  order : TermOrder := .termAscending
  /-- The greatest number of term groups, where the request gives no page size. -/
  maxResults : Option Nat := none
  /-- Whether the terms behind the page are listed too. -/
  includeRemaining : Bool := false
deriving DecidableEq

/-- A search and the facets of what it matches. -/
structure FacetRequest where
  search : SearchRequest
  facets : List FacetDefinition
  /-- How many term groups stand before the page. -/
  start : Nat := 0
  pageSize : Option Nat := none

/-- One group: a term or the text of a range, with its hits and its value. -/
structure FacetValue where
  label : String
  hits : Nat
  value : Double
deriving DecidableEq

/-- The result of one facet. -/
structure FacetResult where
  values : List FacetValue := []
  /-- How many term groups stand behind the page. -/
  remainingCount : Nat := 0
  /-- The hits of the term groups behind the page. -/
  remainingHits : Nat := 0
  /-- The terms behind the page, if they were asked for. -/
  remainingTerms : Option (List String) := none
deriving DecidableEq

/-- The first group with a label. -/
def FacetResult.value? (r : FacetResult) (label : String) : Option FacetValue :=
  r.values.find? fun v => v.label == label

/-- The results of a request, by facet name. -/
structure FacetResults where
  results : SortedMap String FacetResult
  /-- How many documents the search matched. -/
  matched : Nat
deriving DecidableEq

namespace FacetResults

/-- The group of a facet with a label. -/
def value? (r : FacetResults) (facet label : String) : Option FacetValue :=
  (r.results.get? facet).bind fun result => result.value? label

end FacetResults

end FacetedSearch
