import FacetedSearch.Facet.Prepare
import FacetedSearch.TermTable
import FacetedSearch.Index

/-!
# FacetedSearch.Facet.Bucket — grouping matched documents

The terms of the matched documents are visited document by document.  Each visit is a hit of the
bucket of its term, or of every range that holds the term.  A bucket that is to be aggregated also
keeps its documents, each once.
-/

namespace FacetedSearch

/-- The hits of one group, and its documents where they are kept. -/
structure Bucket where
  hits : Nat := 0
  docs : DocSet := ∅
deriving DecidableEq

namespace Bucket

/-- Count one visit of a document. -/
def add (b : Bucket) (keep : Bool) (d : DocId) : Bucket :=
  { hits := b.hits + 1, docs := if keep then b.docs.insert d else b.docs }

end Bucket

/-- The terms of some documents with their documents, in ascending order of documents. -/
def TermTable.visits (t : TermTable) (docs : DocSet) : List (String × DocId) :=
  docs.toList.flatMap fun d => (t.terms d).map fun term => (term, d)

/-- One bucket for each visited term. -/
def termBuckets (keep : Bool) (visits : List (String × DocId)) : SortedMap String Bucket :=
  visits.foldl (fun m v => m.alter v.1 fun b => (b.getD {}).add keep v.2) ∅

/-- The bucket of one range. -/
def rangeBucket (keep : Bool) (visits : List (String × DocId)) (r : TermRange) : Bucket :=
  visits.foldl (fun b v => if r.contains v.1 then b.add keep v.2 else b) {}

namespace PreparedFacet

/-- Whether buckets keep their documents. -/
def keepsDocuments (p : PreparedFacet) : Bool := decide (p.definition.aggregation ≠ .count)

end PreparedFacet

end FacetedSearch
