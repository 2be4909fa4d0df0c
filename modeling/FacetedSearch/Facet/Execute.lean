import FacetedSearch.Facet.Page
import FacetedSearch.Generation.Session

/-!
# FacetedSearch.Facet.Execute — running the facets of a request

All facets are checked first.  Then the search runs, each facet field's term table is fetched once,
in ascending order of fields, and the groups are counted.  Values are aggregated for the groups
that the result shows and for no others.
-/

namespace FacetedSearch

/-- What facets are run with. -/
structure FacetExecutor where
  /-- The greatest number of term groups on a page. -/
  maxPageSize : Nat
  declared : Declarations

namespace Aggregation

/-- The value of a group from its hits and the numbers of its documents.  The average divides the
sum by the hits; least and greatest are zero where there is no number. -/
def value (a : Aggregation) (hits : Nat) (numbers : List Double) : Double :=
  let sum := numbers.foldl Binary.add (Binary.zero false)
  match a with
  | .count => Binary.ofInt hits
  | .sum => sum
  | .average => if hits = 0 then Binary.nan else sum.div (Binary.ofInt hits)
  | .min =>
    if numbers.isEmpty then Binary.zero false
    else numbers.foldl Binary.lesser (Binary.largest false)
  | .max =>
    if numbers.isEmpty then Binary.zero false
    else numbers.foldl Binary.greater (Binary.largest true)

end Aggregation

namespace PreparedFacet

/-- The failure to decode a term, told as a failure of the facet. -/
def unreadable (p : PreparedFacet) (field : String) (e : Error) : Error :=
  if e.kind = .parse then .facetUnreadable p.definition.name field e.message else e

/-- The value of a bucket. -/
def aggregate (p : PreparedFacet) (b : Bucket) : Session Double :=
  match p.numbers with
  | none => return Binary.ofInt b.hits
  | some (field, type) => do
    let table ← tryCatch (Session.numberTable field type) fun e => throw (p.unreadable field e)
    return p.definition.aggregation.value b.hits (b.docs.toList.flatMap table.values)

/-- A group of the result. -/
def group (p : PreparedFacet) (label : String) (b : Bucket) : Session FacetValue := do
  let value ← p.aggregate b
  return { label, hits := b.hits, value }

/-- The result of term groups.  Without any, nothing remains and nothing is listed. -/
def termResult (p : PreparedFacet) (executor : FacetExecutor) (start : Nat) (pageSize : Option Nat)
    (buckets : List (String × Bucket)) : Session FacetResult :=
  if buckets.isEmpty then return {}
  else do
    let limit := pageLimit executor.maxPageSize pageSize p.definition.maxResults
    let page := TermPage.ofSorted (p.definition.order.sort buckets) start limit
    let values ← page.groups.mapM fun (term, bucket) => p.group term bucket
    return {
      values, remainingCount := page.rest.length, remainingHits := page.remainingHits
      remainingTerms :=
        if p.definition.includeRemaining then some (page.rest.map Prod.fst) else none }

/-- The result of range groups, one for each range in the order they are given. -/
def rangeResult (p : PreparedFacet) (buckets : List (TermRange × Bucket)) : Session FacetResult := do
  let values ← buckets.mapM fun (r, bucket) => p.group r.text bucket
  return { values }

/-- The result of a facet from the visited terms of its field. -/
def result (p : PreparedFacet) (executor : FacetExecutor) (start : Nat) (pageSize : Option Nat)
    (visits : List (String × DocId)) : Session FacetResult :=
  match p.definition.mode with
  | .terms =>
    p.termResult executor start pageSize (termBuckets p.keepsDocuments visits).entries
  | .ranges =>
    p.rangeResult (p.ranges.map fun r => (r, rangeBucket p.keepsDocuments visits r))

end PreparedFacet

namespace FacetExecutor

/-- The facet fields of a request, in ascending order. -/
def fields (prepared : List PreparedFacet) : List String :=
  (SortedSet.ofList (prepared.map fun p => p.definition.name)).toList

/-- Note the use of a facet field and fetch its term table. -/
def fetch (now : Nat) (field : String) : Session (String × TermTable) := do
  Session.recordUse field now
  let table ← Session.termTable field
  return (field, table)

/-- Run the facets of a request on a generation. -/
def execute (executor : FacetExecutor) (request : FacetRequest) (now : Nat) :
    Session FacetResults := do
  let prepared ← request.facets.mapM fun d => d.prepare executor.declared
  let docs ← Session.search request.search
  let tables ← (fields prepared).mapM (fetch now)
  let results ← prepared.mapM fun p => do
    let visits := match tables.lookup p.definition.name with
      | some table => table.visits docs
      | none => []
    let result ← p.result executor request.start request.pageSize visits
    return (p.definition.name, result)
  return { results := SortedMap.ofList results, matched := docs.size }

end FacetExecutor

end FacetedSearch
