import FacetedSearch.Proofs.Facet.History
import FacetedSearch.Proofs.Facet.Page
import FacetedSearch.Proofs.Facet.Single
import Mathlib.Algebra.Ring.Nat

/-!
# FacetedSearch.Proofs.Facet.Remaining — the labels behind a page

A term facet that is asked for them lists the terms behind its page.  They are as many as it counts
and have the hits that it counts (`remaining_of_terms`).  Where no term has been matched it lists
nothing at all, not even the empty list that it gives for a page behind the last term
(`remaining_of_none`).
-/

namespace FacetedSearch

variable {v : View} {declared : Declarations} {executor : FacetExecutor} {request : FacetRequest}
  {d : FacetDefinition} {pairs : List (String × DocId)}

/-! ## Terms and their hits -/

/-- How many of some pairs are of a term. -/
def hitsOf (pairs : List (String × DocId)) (term : String) : Nat :=
  pairs.countP fun x => decide (x.1 = term)

theorem hits_of_mem_termGroups {keep : Bool} {b : String × Bucket}
    (h : b ∈ termGroups keep pairs) : b.2.hits = hitsOf pairs b.1 := by
  obtain ⟨t, -, rfl⟩ := List.mem_map.mp h
  rfl

theorem termGroups_eq_nil_iff {keep : Bool} : termGroups keep pairs = [] ↔ pairs = [] := by
  constructor
  · intro hgroups
    have hterms : (SortedSet.ofList (pairs.map Prod.fst)).toList = [] :=
      List.map_eq_nil_iff.mp hgroups
    refine List.eq_nil_iff_forall_not_mem.mpr fun x hx => ?_
    have hmem : x.1 ∈ SortedSet.ofList (pairs.map Prod.fst) :=
      SortedSet.mem_ofList.mpr (List.mem_map_of_mem hx)
    rw [SortedSet.mem_def, hterms] at hmem
    cases hmem
  · rintro rfl
    rfl

theorem map_fst_termGroups (keep : Bool) (pairs : List (String × DocId)) :
    (termGroups keep pairs).map Prod.fst = (SortedSet.ofList (pairs.map Prod.fst)).toList := by
  rw [termGroups, List.map_map]
  exact List.map_id' _

/-- There is one group for each term. -/
theorem nodup_termGroups (keep : Bool) (pairs : List (String × DocId)) :
    ((termGroups keep pairs).map Prod.fst).Nodup := by
  rw [map_fst_termGroups]
  exact (SortedSet.ofList _).ascending.imp SortKey.before_ne

/-- The hits of some groups are those of their terms. -/
theorem totalHits_eq_sum {groups : List (String × Bucket)}
    (h : ∀ b ∈ groups, b.2.hits = hitsOf pairs b.1) :
    totalHits groups = ((groups.map Prod.fst).map (hitsOf pairs)).sum := by
  induction groups with
  | nil => rfl
  | cons b rest ih =>
    obtain ⟨hb, hrest⟩ := List.forall_mem_cons.mp h
    rw [totalHits, ih hrest, hb, List.map_cons, List.map_cons, List.sum_cons]

/-! ## Results of terms -/

namespace View

/-- The result of a term facet shows the page of the ordered groups and tells what stands behind it.
The labels behind it are listed on request, where there are groups. -/
theorem resultAlone_terms {result : FacetResult} (hm : d.mode = .terms)
    (h : v.resultAlone executor request d pairs = .ok result) :
    let sorted := d.order.sort (termGroups (decide (d.aggregation ≠ .count)) pairs)
    let limit := pageLimit executor.maxPageSize request.pageSize d.maxResults
    let behind := sorted.drop (request.start + limit)
    (result.values.map fun x => (x.label, x.hits)) =
        ((sorted.drop request.start).take limit).map (fun b => (b.1, b.2.hits)) ∧
      result.remainingCount = behind.length ∧ result.remainingHits = totalHits behind ∧
      result.remainingTerms =
        if d.includeRemaining ∧ pairs ≠ [] then some (behind.map Prod.fst) else none := by
  intro sorted limit behind
  rw [resultAlone, hm] at h
  dsimp only at h
  by_cases hnil : pairs = []
  · subst hnil
    cases h
    have hsorted : sorted = [] := rfl
    have hbehind : behind = [] := by
      change sorted.drop _ = []
      rw [hsorted, List.drop_nil]
    simp [hsorted, hbehind, totalHits]
  · have hgroups : (termGroups (decide (d.aggregation ≠ .count)) pairs).isEmpty = false := by
      rw [List.isEmpty_eq_false_iff]
      exact fun hg => hnil (termGroups_eq_nil_iff.mp hg)
    rw [hgroups, if_neg Bool.false_ne_true, TermPage.ofSorted_eq] at h
    obtain ⟨values, hvalues, ⟨⟩⟩ := bind_eq_ok.mp h
    refine ⟨?_, List.length_drop ▸ rfl, rfl, ?_⟩
    · exact map_eq_of_mapM_eq_ok hvalues fun b _ group hgroup => shown_of_groupAlone hgroup
    · simp [hnil, behind, sorted, limit]

end View

/-! ## Remaining labels of requests -/

/-- The labels that remain, after any history of reading a generation.  A facet of terms lists them
exactly where it is asked to and some term has been matched.  They are the terms behind the page, in
the one order of the facet: with the terms of the page they make up all terms from the start on,
they are as many as the facet counts, and their hits add up to those that it counts. -/
theorem remaining_of_terms (v : View) (number : Nat) (acts : List (ReadAct v))
    (executor : FacetExecutor) (request : FacetRequest)
    (hdistinct : (request.facets.map FacetDefinition.name).Nodup) {facet : FacetDefinition}
    (hfacet : facet ∈ request.facets) (hm : facet.mode = .terms) (now : Nat)
    {results : FacetResults}
    (h : ((acts.foldl Generation.read (Generation.ofView number v)).run
      (executor.execute request now)).1 = .ok results) :
    ∃ docs pairs result, ∃ sorted : List (String × Bucket), v.search request.search = .ok docs ∧
      v.scan facet.name = .ok pairs ∧ results.results.get? facet.name = some result ∧
      let matched := matchedPairs pairs docs
      let limit := min ((request.pageSize.or facet.maxResults).getD executor.maxPageSize)
        executor.maxPageSize
      (∀ l, l.Perm (termGroups (decide (facet.aggregation ≠ .count)) matched) ∧
        l.Pairwise facet.order.Precedes ↔ l = sorted) ∧
      (result.remainingTerms.isSome ↔ facet.includeRemaining = true ∧ matched ≠ []) ∧
      ∀ labels, result.remainingTerms = some labels →
        labels = (sorted.drop (request.start + limit)).map Prod.fst ∧
        result.values.map FacetValue.label ++ labels =
          (sorted.drop request.start).map Prod.fst ∧
        labels.length = result.remainingCount ∧
        (labels.map (hitsOf matched)).sum = result.remainingHits := by
  have hrun := (Session.Transparent.closed.execute executor request now _
    (Generation.coherent_after _ number acts)).1
  rw [hrun] at h
  obtain ⟨before, after, hsplit⟩ := List.append_of_mem hfacet
  have hlast : ∀ e ∈ after, e.name ≠ facet.name := fun e he heq => by
    rw [hsplit, List.map_append, List.map_cons] at hdistinct
    have hafter := (List.nodup_cons.mp (List.nodup_append.mp hdistinct).2.1).1
    exact hafter (heq ▸ List.mem_map_of_mem he)
  obtain ⟨p, docs, pairs, visits, result, hp, hsearch, hscan, hperm, hresult, hnamed⟩ :=
    View.exists_result_of_answer h hsplit hlast
  obtain ⟨hvalues, hcount, hhits, hterms⟩ :=
    View.resultAlone_terms hm (View.resultAlone_eq hp hperm hresult)
  let groups := termGroups (decide (facet.aggregation ≠ .count)) (matchedPairs pairs docs)
  refine ⟨docs, pairs, result, facet.order.sort groups, hsearch, hscan, hnamed, fun l =>
    TermOrder.eq_sort_iff (nodup_termGroups _ _), ?_, fun labels hlabels => ?_⟩
  · rw [hterms]
    split
    · rename_i hasked
      exact ⟨fun _ => hasked, fun _ => rfl⟩
    · rename_i hasked
      exact ⟨nofun, fun h => absurd h hasked⟩
  · rw [hterms] at hlabels
    split at hlabels
    · cases hlabels
      have hshown : result.values.map FacetValue.label =
          (((facet.order.sort groups).drop request.start).take
            (pageLimit executor.maxPageSize request.pageSize facet.maxResults)).map Prod.fst := by
        have hlabel := congrArg (List.map Prod.fst) hvalues
        rw [List.map_map, List.map_map] at hlabel
        exact hlabel
      refine ⟨rfl, ?_, ?_, ?_⟩
      · rw [hshown, ← List.drop_drop, ← List.map_append, List.take_append_drop]
      · rw [List.length_map, hcount]
      · rw [hhits, totalHits_eq_sum]
        intro b hb
        exact hits_of_mem_termGroups
          ((facet.order.sort_perm groups).mem_iff.mp (List.mem_of_mem_drop hb))
    · cases hlabels

/-- Of the two colours of the shelf the one with more hits is shown and the other remains. -/
theorem remaining_of_terms_shelf :
    let executor : FacetExecutor := { maxPageSize := 10, declared := fun _ => none }
    let colors : FacetDefinition :=
      { name := "color", order := .hitsDescending, includeRemaining := true }
    let request : FacetRequest :=
      { search := { query := .all }, facets := [colors], pageSize := some 1 }
    ∃ results result, ((Generation.ofView 0 shelf).clearCaches.run
        (executor.execute request 0)).1 = .ok results ∧
      results.results.get? "color" = some result ∧ result.remainingTerms = some ["red"] ∧
      result.remainingCount = 1 ∧ result.remainingHits = 1 := by
  intro executor colors request
  let shown : FacetResult := {
    values := [⟨"blue", 2, Binary.ofInt 2⟩], remainingCount := 1, remainingHits := 1
    remainingTerms := some ["red"] }
  have hrun : ((Generation.ofView 0 shelf).clearCaches.run (executor.execute request 0)).1 =
      .ok { results := SortedMap.ofList [("color", shown)], matched := 2 } := by
    decide +kernel
  obtain ⟨docs, pairs, result, sorted, hsearch, hscan, hnamed, -, -, hlabels⟩ :=
    remaining_of_terms shelf 0 [.lowMemory] executor request (by decide)
      (show colors ∈ request.facets from List.mem_singleton_self colors) rfl 0 hrun
  cases hsearch
  cases hscan
  obtain rfl : result = shown :=
    Option.some.inj (hnamed.symm.trans (SortedMap.get?_ofList_last [] shown nofun))
  obtain ⟨-, -, hlength, hhits⟩ := hlabels ["red"] rfl
  exact ⟨_, shown, hrun, hnamed, rfl, hlength.symm, hhits.symm.trans (by decide)⟩

/-! ## No matched term -/

/-- The index of one red document. -/
def redIndex : Index :=
  (Index.ofDocuments [{ id := 0, fields := [("color", [.text "red"])] }]).toOption.getD {}

/-- Where no term has been matched, the labels are asked for and not listed; behind the last term
the empty list is. -/
theorem remaining_of_none :
    let executor : FacetExecutor := { maxPageSize := 10, declared := fun _ => none }
    let colors : FacetDefinition := { name := "color", includeRemaining := true }
    let g := Generation.ofView 0 (View.ofIndex redIndex)
    (g.run (executor.execute
        { search := { query := .term "color" "blue" }, facets := [colors] } 0)).1 =
      .ok { results := SortedMap.ofList [("color", { remainingTerms := none })], matched := 0 } ∧
    (g.run (executor.execute
        { search := { query := .all }, facets := [colors], start := 1 } 0)).1 =
      .ok { results := SortedMap.ofList [("color", { remainingTerms := some [] })], matched := 1 } := by
  decide +kernel

end FacetedSearch
