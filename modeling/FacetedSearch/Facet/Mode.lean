/-!
# FacetedSearch.Facet.Mode — how a facet groups, aggregates and orders

A facet groups the matched documents by term or by range, computes one value for each group, and
lists term groups in one of four orders.  Each choice has a name, by which requests give it.
-/

namespace FacetedSearch

/-- What a facet makes a group of. -/
inductive FacetMode
  /-- Each term of the facet's field. -/
  | terms
  /-- Each range of the facet's definition. -/
  | ranges
deriving DecidableEq

/-- The value computed for each group. -/
inductive Aggregation
  | count
  | sum
  | average
  | min
  | max
deriving DecidableEq

/-- The order of term groups.  Equal hits stand in ascending order of their terms. -/
inductive TermOrder
  | termAscending
  | termDescending
  | hitsAscending
  | hitsDescending
deriving DecidableEq

namespace FacetMode

/-- The name of a mode. -/
def name : FacetMode → String
  | .terms => "Default"
  | .ranges => "Ranges"

/-- The mode of a name. -/
def ofName? (s : String) : Option FacetMode :=
  [FacetMode.terms, .ranges].find? fun m => m.name == s

theorem ofName?_name (m : FacetMode) : ofName? m.name = some m := by cases m <;> rfl

end FacetMode

namespace Aggregation

/-- The name of an aggregation. -/
def name : Aggregation → String
  | .count => "Count"
  | .sum => "Sum"
  | .average => "Average"
  | .min => "Min"
  | .max => "Max"

/-- The aggregation of a name. -/
def ofName? (s : String) : Option Aggregation :=
  [Aggregation.count, .sum, .average, .min, .max].find? fun a => a.name == s

theorem ofName?_name (a : Aggregation) : ofName? a.name = some a := by cases a <;> rfl

end Aggregation

namespace TermOrder

/-- The name of an order. -/
def name : TermOrder → String
  | .termAscending => "ValueAsc"
  | .termDescending => "ValueDesc"
  | .hitsAscending => "HitsAsc"
  | .hitsDescending => "HitsDesc"

/-- The order of a name. -/
def ofName? (s : String) : Option TermOrder :=
  [TermOrder.termAscending, .termDescending, .hitsAscending, .hitsDescending].find? fun o =>
    o.name == s

theorem ofName?_name (o : TermOrder) : ofName? o.name = some o := by cases o <;> rfl

end TermOrder

end FacetedSearch
