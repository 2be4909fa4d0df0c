import FacetedSearch.Proofs.Generation.Session

/-!
# FacetedSearch.Proofs.Facet.Session — facet requests as compositions

`execute_eq` writes a facet request as a chain of named steps.  A property that composition keeps
holds of each step and so of the request (`Closed.execute`).
-/

namespace FacetedSearch

namespace PreparedFacet

/-- What a facet visits: the terms of the matched documents in the table of its field. -/
def visits (p : PreparedFacet) (tables : List (String × TermTable)) (docs : DocSet) :
    List (String × DocId) :=
  match tables.lookup p.definition.name with
  | some table => table.visits docs
  | none => []

/-- The result of a facet under its name. -/
def named (p : PreparedFacet) (executor : FacetExecutor) (request : FacetRequest)
    (tables : List (String × TermTable)) (docs : DocSet) : Session (String × FacetResult) := do
  let result ← p.result executor request.start request.pageSize (p.visits tables docs)
  return (p.definition.name, result)

end PreparedFacet

namespace FacetExecutor

/-- The facets of a request on given documents, the tables of their fields at hand. -/
def named (executor : FacetExecutor) (request : FacetRequest) (prepared : List PreparedFacet)
    (docs : DocSet) (tables : List (String × TermTable)) : Session FacetResults := do
  let results ← prepared.mapM fun p => p.named executor request tables docs
  return { results := SortedMap.ofList results, matched := docs.size }

theorem execute_eq (executor : FacetExecutor) (request : FacetRequest) (now : Nat) :
    executor.execute request now =
      (request.facets.mapM fun d => (liftM (d.prepare executor.declared) : Session PreparedFacet))
        >>= fun prepared => Session.search request.search
        >>= fun docs => (fields prepared).mapM (fetch now)
        >>= fun tables => executor.named request prepared docs tables := rfl

end FacetExecutor

namespace Session.Derived

variable {P : ∀ ⦃α : Type⦄, Session α → Prop}

theorem aggregate (h : Derived P) (p : PreparedFacet) (b : Bucket) : P (p.aggregate b) := by
  rw [PreparedFacet.aggregate]
  split
  · exact h.pure _
  · exact h.bind (h.rethrow _ (h.numberTable _ _)) fun _ => h.pure _

theorem group (h : Derived P) (p : PreparedFacet) (label : String) (b : Bucket) :
    P (p.group label b) :=
  h.bind (h.aggregate p b) fun _ => h.pure _

theorem termResult (h : Derived P) (p : PreparedFacet) (executor : FacetExecutor) (start : Nat)
    (pageSize : Option Nat) (buckets : List (String × Bucket)) :
    P (p.termResult executor start pageSize buckets) := by
  have hgroup (b : String × Bucket) : P (p.group b.1 b.2) := h.group p b.1 b.2
  rw [PreparedFacet.termResult]
  split
  · exact h.pure _
  · exact h.bind (h.mapM hgroup _) fun _ => h.pure _

theorem rangeResult (h : Derived P) (p : PreparedFacet) (buckets : List (TermRange × Bucket)) :
    P (p.rangeResult buckets) := by
  have hgroup (b : TermRange × Bucket) : P (p.group b.1.text b.2) := h.group p b.1.text b.2
  exact h.bind (h.mapM hgroup _) fun _ => h.pure _

theorem result (h : Derived P) (p : PreparedFacet) (executor : FacetExecutor) (start : Nat)
    (pageSize : Option Nat) (visits : List (String × DocId)) :
    P (p.result executor start pageSize visits) := by
  rw [PreparedFacet.result]
  split
  · exact h.termResult p executor start pageSize _
  · exact h.rangeResult p _

theorem namedFacet (h : Derived P) (p : PreparedFacet) (executor : FacetExecutor)
    (request : FacetRequest) (tables : List (String × TermTable)) (docs : DocSet) :
    P (p.named executor request tables docs) :=
  h.bind (h.result p executor _ _ _) fun _ => h.pure _

theorem named (h : Derived P) (executor : FacetExecutor) (request : FacetRequest)
    (prepared : List PreparedFacet) (docs : DocSet) (tables : List (String × TermTable)) :
    P (executor.named request prepared docs tables) :=
  h.bind (h.mapM (fun p => h.namedFacet p executor request tables docs) _) fun _ => h.pure _

end Session.Derived

namespace Session.Closed

variable {P : ∀ ⦃α : Type⦄, Session α → Prop}

theorem fetch (h : Closed P) (now : Nat) (field : String) : P (FacetExecutor.fetch now field) :=
  h.bind (h.recordUse field now) fun _ => h.bind (h.termTable field) fun _ => h.pure _

theorem execute (h : Closed P) (executor : FacetExecutor) (request : FacetRequest) (now : Nat) :
    P (executor.execute request now) := by
  rw [FacetExecutor.execute_eq]
  exact h.bind (h.mapM (fun _ => h.lift _) _) fun prepared => h.bind (h.search _) fun docs =>
    h.bind (h.mapM (h.fetch now) _) fun tables =>
      h.derived.named executor request prepared docs tables

end Session.Closed

end FacetedSearch
