import FacetedSearch.Index
import FacetedSearch.Query

/-!
# FacetedSearch.Index.Search — the documents that answer a query

A query is answered from the term lists alone.  Required clauses intersect; without one the
optional clauses unite, and without either every document remains; excluded clauses subtract.
-/

namespace FacetedSearch.Index

/-- The documents of some terms together. -/
def docsOfTerms (terms : List (String × DocSet)) : DocSet :=
  terms.foldl (fun docs e => docs.union e.2) ∅

/-- The documents with a term of the field that starts in the given way.  Such terms stand side by
side, and none of them before the start itself. -/
def docsStarting (idx : Index) (field start : String) : DocSet :=
  match idx.terms? field with
  | none => ∅
  | some terms =>
    let fromStart := terms.entries.dropWhile fun e => decide (SortKey.Before e.1 start)
    docsOfTerms (fromStart.takeWhile fun e => start.toList.isPrefixOf e.1.toList)

/-- The documents with a term of the field in the range. -/
def docsInRange (idx : Index) (field : String) (r : TermRange) : DocSet :=
  match idx.terms? field with
  | none => ∅
  | some terms => docsOfTerms (terms.entries.filter fun e => r.contains e.1)

/-- The documents that the clauses of a combined query leave, from those of each clause. -/
def combine (all : DocSet) (must should mustNot : List DocSet) : DocSet :=
  let base := match must with
    | first :: rest => rest.foldl SortedSet.inter first
    | [] => if should.isEmpty then all else should.foldl SortedSet.union ∅
  mustNot.foldl SortedSet.sdiff base

mutual

/-- The documents that answer a query. -/
def search (idx : Index) : Query → DocSet
  | .all => idx.allDocs
  | .term field value => (idx.docs? field value).getD ∅
  | .startsWith field start => idx.docsStarting field start
  | .range field r => idx.docsInRange field r
  | .bool must should mustNot =>
    combine idx.allDocs (idx.searchEach must) (idx.searchEach should) (idx.searchEach mustNot)

/-- The documents that answer each of some queries. -/
def searchEach (idx : Index) : List Query → List DocSet
  | [] => []
  | q :: qs => idx.search q :: idx.searchEach qs

end

theorem searchEach_eq_map (idx : Index) (qs : List Query) :
    idx.searchEach qs = qs.map idx.search := by
  induction qs with
  | nil => rfl
  | cons q qs ih => rw [searchEach, ih, List.map_cons]

end FacetedSearch.Index
