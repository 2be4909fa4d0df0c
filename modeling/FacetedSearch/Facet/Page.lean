import FacetedSearch.Facet.Bucket

/-!
# FacetedSearch.Facet.Page — the order and the page of term groups

Term groups are put into the order of the facet; distinct terms never compare equal, so the order
does not depend on how the groups came.  A page is a slice of that order, no longer than the limit
of the request or the facet and never longer than the executor's own limit.
-/

namespace FacetedSearch

namespace TermOrder

/-- How the group of one term stands to that of another. -/
def cmp (order : TermOrder) (a b : String × Bucket) : Ordering :=
  match order with
  | .termAscending => (SortKey.cmp a.1 b.1).then (SortKey.cmpNat a.2.hits b.2.hits)
  | .termDescending => (SortKey.cmp b.1 a.1).then (SortKey.cmpNat a.2.hits b.2.hits)
  | .hitsAscending => (SortKey.cmpNat a.2.hits b.2.hits).then (SortKey.cmp a.1 b.1)
  | .hitsDescending => (SortKey.cmpNat b.2.hits a.2.hits).then (SortKey.cmp a.1 b.1)

/-- Place a group into an ordered list, behind those it does not stand ahead of. -/
def place (order : TermOrder) (a : String × Bucket) :
    List (String × Bucket) → List (String × Bucket)
  | [] => [a]
  | b :: rest => if order.cmp b a = .gt then a :: b :: rest else b :: order.place a rest

/-- The groups in order. -/
def sort (order : TermOrder) (groups : List (String × Bucket)) : List (String × Bucket) :=
  groups.foldl (fun sorted a => order.place a sorted) []

end TermOrder

/-- The hits of some groups together. -/
def totalHits : List (String × Bucket) → Nat
  | [] => 0
  | g :: rest => g.2.hits + totalHits rest

/-- A page of term groups, and what stands behind it. -/
structure TermPage where
  groups : List (String × Bucket)
  rest : List (String × Bucket)
  /-- The hits behind the page: those of all groups less those before the page and on it. -/
  remainingHits : Nat

/-- The page of ordered groups from `start` on, of at most `limit` groups. -/
def TermPage.ofSorted (sorted : List (String × Bucket)) (start limit : Nat) : TermPage :=
  let first := min start sorted.length
  let last := min (first + limit) sorted.length
  let groups := (sorted.take last).drop first
  { groups, rest := sorted.drop last
    remainingHits := totalHits sorted - totalHits (sorted.take first) - totalHits groups }

/-- The greatest number of groups on a page: the page size of the request, else that of the facet,
else the executor's own limit, which bounds the others. -/
def pageLimit (maxPageSize : Nat) (pageSize maxResults : Option Nat) : Nat :=
  min ((pageSize.or maxResults).getD maxPageSize) maxPageSize

end FacetedSearch
