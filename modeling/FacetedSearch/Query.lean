import FacetedSearch.Range.Parser
import FacetedSearch.Duration

/-!
# FacetedSearch.Query — what documents a search asks for

A query asks for all documents, for those with a term, with a term that starts in some way or with
a term in a range, or combines other queries.  A search hands the index a query and the time it may
take; the time is the index's to keep.
-/

namespace FacetedSearch

/-- A question about documents. -/
inductive Query
  /-- Every document. -/
  | all
  /-- Documents with the term in the field. -/
  | term (field value : String)
  /-- Documents with a term in the field that starts like this. -/
  | startsWith (field start : String)
  /-- Documents with a term in the field that the range holds. -/
  | range (field : String) (range : TermRange)
  /-- Documents that meet every `must` and no `mustNot`, and some `should` where no `must` is
  given. -/
  | bool (must should mustNot : List Query)

/-- The query for a field's terms in the range that a text spells. -/
def Query.rangeOf (field text : String) : Except Error Query :=
  (TermRange.parse field text).map (.range field)

/-- A query and the time it may take. -/
structure SearchRequest where
  query : Query
  timeout : Option Duration := none

end FacetedSearch
