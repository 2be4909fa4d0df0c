import FacetedSearch.Proofs.Generation.Coherence
import FacetedSearch.Proofs.Facet.Session

/-!
# FacetedSearch.Proofs.Facet.Answer — facet requests without caches

The `answer` lemmas open a facet request as a computation over the view alone: what has been cached,
and the time at which a facet field is used, do not occur in them.
-/

namespace FacetedSearch

open Session (Transparent)
open Session.Transparent (closed)

namespace View

theorem answer_aggregate (v : View) (p : PreparedFacet) (b : Bucket) :
    v.answer (p.aggregate b) = match p.numbers with
      | none => .ok (Binary.ofInt b.hits)
      | some (field, type) => do
        let table ← tryCatch (v.answer (Session.numberTable field type)) fun e =>
          throw (p.unreadable field e)
        return p.definition.aggregation.value b.hits (b.docs.toList.flatMap table.values) := by
  rw [PreparedFacet.aggregate]
  rcases p.numbers with _ | ⟨field, type⟩
  · rfl
  · dsimp only
    have hn : Transparent v (Session.numberTable field type) := .numberTable field type
    rw [answer_bind (hn.tryCatch fun _ => .throw _) fun _ => .pure _,
      answer_tryCatch hn fun _ => .throw _]
    rfl

theorem answer_group (v : View) (p : PreparedFacet) (label : String) (b : Bucket) :
    v.answer (p.group label b) = do
      return { label, hits := b.hits, value := ← v.answer (p.aggregate b) } :=
  answer_bind (closed.derived.aggregate p b) fun _ => .pure _

theorem answer_termResult (v : View) (p : PreparedFacet) (executor : FacetExecutor) (start : Nat)
    (pageSize : Option Nat) (buckets : List (String × Bucket)) :
    v.answer (p.termResult executor start pageSize buckets) =
      if buckets.isEmpty then .ok {}
      else do
        let limit := pageLimit executor.maxPageSize pageSize p.definition.maxResults
        let page := TermPage.ofSorted (p.definition.order.sort buckets) start limit
        let values ← page.groups.mapM fun b => v.answer (p.group b.1 b.2)
        return {
          values, remainingCount := page.rest.length, remainingHits := page.remainingHits
          remainingTerms :=
            if p.definition.includeRemaining then some (page.rest.map Prod.fst) else none } := by
  have hgroup (b : String × Bucket) : Transparent v (p.group b.1 b.2) := closed.derived.group p b.1 b.2
  rw [PreparedFacet.termResult]
  split
  · rfl
  · refine (answer_bind (closed.mapM hgroup _) fun _ => .pure _).trans ?_
    rw [answer_mapM hgroup]
    rfl

theorem answer_rangeResult (v : View) (p : PreparedFacet) (buckets : List (TermRange × Bucket)) :
    v.answer (p.rangeResult buckets) = do
      return { values := ← buckets.mapM fun b => v.answer (p.group b.1.text b.2) } := by
  have hgroup (b : TermRange × Bucket) : Transparent v (p.group b.1.text b.2) :=
    closed.derived.group p b.1.text b.2
  refine (answer_bind (closed.mapM hgroup _) fun _ => .pure _).trans ?_
  rw [answer_mapM hgroup]
  rfl

theorem answer_fetch (v : View) (now : Nat) (field : String) :
    v.answer (FacetExecutor.fetch now field) = do
      return (field, ← v.answer (Session.termTable field)) :=
  (answer_bind (.recordUse field now) fun _ => .bind (.termTable field) fun _ => .pure _).trans
    (answer_bind (.termTable field) fun _ => .pure _)

theorem answer_named (v : View) (executor : FacetExecutor) (request : FacetRequest)
    (prepared : List PreparedFacet) (docs : DocSet) (tables : List (String × TermTable)) :
    v.answer (executor.named request prepared docs tables) = do
      let results ← prepared.mapM fun p => do
        let result ← v.answer
          (p.result executor request.start request.pageSize (p.visits tables docs))
        return (p.definition.name, result)
      return { results := SortedMap.ofList results, matched := docs.size } := by
  have hfacet (p : PreparedFacet) : Transparent v (p.named executor request tables docs) :=
    closed.derived.namedFacet p executor request tables docs
  refine (answer_bind (closed.mapM hfacet _) fun _ => .pure _).trans ?_
  rw [answer_mapM hfacet]
  refine congrArg (fun f => List.mapM f prepared >>= _) (funext fun p => ?_)
  exact answer_bind (closed.derived.result p executor _ _ _) fun _ => .pure _

theorem answer_execute (v : View) (executor : FacetExecutor) (request : FacetRequest) (now : Nat) :
    v.answer (executor.execute request now) = (do
      let prepared ← request.facets.mapM fun d => d.prepare executor.declared
      let docs ← v.search request.search
      let tables ← (FacetExecutor.fields prepared).mapM fun field => do
        return (field, ← v.answer (Session.termTable field))
      v.answer (executor.named request prepared docs tables)) := by
  have hprepared (d : FacetDefinition) :
      Transparent v (liftM (d.prepare executor.declared) : Session PreparedFacet) := .lift _
  have hfetch (field : String) : Transparent v (FacetExecutor.fetch now field) :=
    closed.fetch now field
  have hnamed (prepared : List PreparedFacet) (docs : DocSet) (tables : List (String × TermTable)) :
      Transparent v (executor.named request prepared docs tables) :=
    closed.derived.named executor request prepared docs tables
  have htables (prepared : List PreparedFacet) (docs : DocSet) :
      Transparent v ((FacetExecutor.fields prepared).mapM (FacetExecutor.fetch now) >>=
        executor.named request prepared docs) := .bind (closed.mapM hfetch _) (hnamed prepared docs)
  rw [FacetExecutor.execute_eq, answer_bind (closed.mapM hprepared _) fun prepared =>
    .bind (.search _) (htables prepared), answer_mapM hprepared]
  simp only [answer_lift]
  refine congrArg _ (funext fun prepared => ?_)
  rw [answer_bind (.search _) (htables prepared), answer_search]
  refine congrArg _ (funext fun docs => ?_)
  rw [answer_bind (closed.mapM hfetch _) (hnamed prepared docs), answer_mapM hfetch]
  simp only [answer_fetch]

end View

end FacetedSearch
