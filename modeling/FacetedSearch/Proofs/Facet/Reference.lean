import FacetedSearch.Proofs.Facet.Answer
import FacetedSearch.Proofs.Facet.Grouping

/-!
# FacetedSearch.Proofs.Facet.Reference — each facet evaluated alone

`View.facetsAlone` evaluates a request by counting: facet by facet, from the visited pairs of its
field, with no tables, no sharing between facets and no caches.  Where a request succeeds it gives
these results (`execute_eq_alone`).
-/

namespace FacetedSearch

variable {v : View} {declared : Declarations} {d : FacetDefinition} {p : PreparedFacet}
  {executor : FacetExecutor} {request : FacetRequest}

/-! ## The reference -/

namespace View

/-- The numbers that a document's terms of a field stand for, in the order of the visits. -/
def numbersOf (v : View) (field : String) (type : SortType) (d : DocId) :
    Except Error (List Double) := do
  (visitedTerms (← v.scan field) d).mapM type.decode

/-- The group of a bucket; its value comes from the numbers of its documents, in ascending order of
documents. -/
def groupAlone (v : View) (declared : Declarations) (d : FacetDefinition) (label : String)
    (b : Bucket) : Except Error FacetValue := do
  match ← d.numbers declared with
  | none => return { label, hits := b.hits, value := Binary.ofInt b.hits }
  | some (field, type) =>
    let numbers ← b.docs.toList.mapM (v.numbersOf field type)
    return { label, hits := b.hits, value := d.aggregation.value b.hits numbers.flatten }

/-- The result of one facet from the pairs of the matched documents. -/
def resultAlone (v : View) (executor : FacetExecutor) (request : FacetRequest)
    (d : FacetDefinition) (pairs : List (String × DocId)) : Except Error FacetResult := do
  let keep := decide (d.aggregation ≠ .count)
  match d.mode with
  | .terms =>
    if (termGroups keep pairs).isEmpty then return {}
    else
      let limit := pageLimit executor.maxPageSize request.pageSize d.maxResults
      let page := TermPage.ofSorted (d.order.sort (termGroups keep pairs)) request.start limit
      let values ← page.groups.mapM fun b => v.groupAlone executor.declared d b.1 b.2
      return {
        values, remainingCount := page.rest.length, remainingHits := page.remainingHits
        remainingTerms := if d.includeRemaining then some (page.rest.map Prod.fst) else none }
  | .ranges =>
    let ranges ← d.parsedRanges executor.declared
    let values ← ranges.mapM fun r =>
      v.groupAlone executor.declared d r.text (Bucket.ofPairs keep pairs r.contains)
    return { values }

/-- The facets of a request, each alone; of those with one name the last counts. -/
def facetsAlone (v : View) (executor : FacetExecutor) (request : FacetRequest) :
    Except Error FacetResults := do
  let docs ← v.search request.search
  let results ← request.facets.mapM fun d => do
    let pairs ← v.scan d.name
    return (d.name, ← v.resultAlone executor request d (matchedPairs pairs docs))
  return { results := SortedMap.ofList results, matched := docs.size }

end View

/-! ## Values -/

theorem prepare_eq_ok (h : d.prepare declared = .ok p) :
    p.definition = d ∧ d.numbers declared = .ok p.numbers ∧
      d.parsedRanges declared = .ok p.ranges := by
  rw [FacetDefinition.prepare] at h
  split at h
  · cases h
  · obtain ⟨numbers, hn, h⟩ := bind_eq_ok.mp h
    obtain ⟨ranges, hr, h⟩ := bind_eq_ok.mp h
    cases h
    exact ⟨rfl, hn, hr⟩

namespace View

theorem termTable_eq_ok {field : String} {table : TermTable}
    (h : v.answer (Session.termTable field) = .ok table) :
    ∃ pairs, v.scan field = .ok pairs ∧ TermTable.ofPairs field v.maxDoc pairs = .ok table := by
  rw [answer_termTable, answer_buildTerms] at h
  exact bind_eq_ok.mp h

/-- A number table holds for every document what its visited terms decode to. -/
theorem numbersOf_eq {field : String} {type : SortType} {table : NumberTable}
    (h : v.answer (Session.numberTable field type) = .ok table) (d : DocId) :
    v.numbersOf field type d = .ok (table.values d) := by
  rw [answer_numberTable] at h
  obtain ⟨terms, ht, hn⟩ := bind_eq_ok.mp h
  obtain ⟨pairs, hs, hp⟩ := termTable_eq_ok ht
  rw [numbersOf, hs]
  change (visitedTerms pairs d).mapM type.decode = _
  rw [← TermTable.terms_ofPairs hp]
  exact NumberTable.values_ofTerms hn d

theorem groupAlone_eq (hp : d.prepare declared = .ok p) {label : String} {b : Bucket}
    {value : FacetValue} (h : v.answer (p.group label b) = .ok value) :
    v.groupAlone declared d label b = .ok value := by
  obtain ⟨hd, hn, -⟩ := prepare_eq_ok hp
  rw [answer_group] at h
  obtain ⟨x, hx, h⟩ := bind_eq_ok.mp h
  cases h
  rw [answer_aggregate] at hx
  rw [groupAlone, hn]
  rcases hnumbers : p.numbers with _ | ⟨field, type⟩ <;> rw [hnumbers] at hx
  · cases hx
    rfl
  · obtain ⟨table, ht, hx⟩ := bind_eq_ok.mp hx
    cases hx
    have htable : v.answer (Session.numberTable field type) = .ok table := by
      cases ha : v.answer (Session.numberTable field type) with
      | error e =>
        rw [ha] at ht
        cases ht
      | ok found =>
        rw [ha] at ht
        exact ht
    have hvalues : b.docs.toList.mapM (v.numbersOf field type) =
        .ok (b.docs.toList.map table.values) := by
      refine mapM_eq_ok_iff.mpr (List.forall₂_map_right_iff.mpr (List.forall₂_same.mpr ?_))
      exact fun d _ => numbersOf_eq htable d
    change (b.docs.toList.mapM (v.numbersOf field type) >>= _) = _
    rw [hvalues, hd, List.flatMap_def]
    rfl

/-! ## Results -/

theorem resultAlone_eq (hp : d.prepare executor.declared = .ok p)
    {pairs visits : List (String × DocId)} (hv : List.Perm visits pairs) {result : FacetResult}
    (h : v.answer (p.result executor request.start request.pageSize visits) = .ok result) :
    v.resultAlone executor request d pairs = .ok result := by
  obtain ⟨hd, -, hr⟩ := prepare_eq_ok hp
  subst hd
  rw [PreparedFacet.result] at h
  rw [resultAlone]
  cases hm : p.definition.mode with
  | terms =>
    rw [hm] at h
    dsimp only at h
    rw [entries_termBuckets, termGroups_perm hv, answer_termResult] at h
    change (if (termGroups p.keepsDocuments pairs).isEmpty then _ else _) = _
    split at h
    · rename_i hempty
      rw [if_pos hempty]
      exact h
    · rename_i hempty
      rw [if_neg hempty]
      obtain ⟨values, hvalues, h⟩ := bind_eq_ok.mp h
      refine bind_eq_ok.mpr ⟨values, mapM_eq_ok_iff.mpr ?_, h⟩
      exact (mapM_eq_ok_iff.mp hvalues).imp fun b value => groupAlone_eq hp
  | ranges =>
    rw [hm] at h
    dsimp only at h
    rw [answer_rangeResult] at h
    obtain ⟨values, hvalues, h⟩ := bind_eq_ok.mp h
    refine bind_eq_ok.mpr ⟨p.ranges, hr, bind_eq_ok.mpr ⟨values, mapM_eq_ok_iff.mpr ?_, h⟩⟩
    rw [mapM_eq_ok_iff, List.forall₂_map_left_iff] at hvalues
    refine hvalues.imp fun r value hvalue => groupAlone_eq hp ?_
    rw [rangeBucket_eq, Bucket.ofPairs_perm hv] at hvalue
    exact hvalue

/-- Every facet finds the table of its field. -/
theorem lookup_eq {fields : List String} {tables : List (String × TermTable)}
    (h : List.Forall₂ (fun field entry => (do
      return (field, ← v.answer (Session.termTable field))) = Except.ok entry) fields tables)
    {name : String} (hn : name ∈ fields) :
    ∃ table, tables.lookup name = some table ∧ v.answer (Session.termTable name) = .ok table := by
  induction h with
  | nil => cases hn
  | @cons field entry rest _ he _ ih =>
    obtain ⟨table, ht, he⟩ := bind_eq_ok.mp he
    cases he
    by_cases hf : name = field
    · subst hf
      exact ⟨table, by simp, ht⟩
    · obtain ⟨found, hfound, hanswer⟩ := ih ((List.mem_cons.mp hn).resolve_left hf)
      exact ⟨found, by rw [List.lookup_cons, beq_false_of_ne hf]; exact hfound, hanswer⟩

end View

/-- Sharing loses and mixes up nothing.  Where a request succeeds on a fresh generation, the
result of each of its facets is that of evaluating the facet alone on the visited pairs. -/
theorem execute_eq_alone (v : View) (number : Nat) (executor : FacetExecutor)
    (request : FacetRequest) (now : Nat) {results : FacetResults}
    (h : ((Generation.ofView number v).run (executor.execute request now)).1 = .ok results) :
    v.facetsAlone executor request = .ok results := by
  rw [(Session.Transparent.closed.execute executor request now _ (.ofView number v)).1,
    View.answer_execute] at h
  obtain ⟨prepared, hprepared, h⟩ := bind_eq_ok.mp h
  obtain ⟨docs, hdocs, h⟩ := bind_eq_ok.mp h
  obtain ⟨tables, htables, h⟩ := bind_eq_ok.mp h
  rw [View.answer_named] at h
  obtain ⟨named, hnamed, h⟩ := bind_eq_ok.mp h
  rw [mapM_eq_ok_iff] at hprepared htables hnamed
  refine bind_eq_ok.mpr ⟨docs, hdocs, bind_eq_ok.mpr ⟨named, mapM_eq_ok_iff.mpr ?_, h⟩⟩
  refine forall₂_comp hprepared hnamed fun d p hm entry hp he => ?_
  obtain ⟨result, hresult, he⟩ := bind_eq_ok.mp he
  have hname : p.definition.name ∈ FacetExecutor.fields prepared :=
    SortedSet.mem_ofList.mpr (List.mem_map_of_mem hm)
  obtain ⟨table, hlookup, htable⟩ := View.lookup_eq htables hname
  obtain ⟨pairs, hpairs, hof⟩ := View.termTable_eq_ok htable
  rw [PreparedFacet.visits, hlookup] at hresult
  have halone := View.resultAlone_eq hp (TermTable.visits_perm hof docs) hresult
  rw [(prepare_eq_ok hp).1] at hpairs he
  exact bind_eq_ok.mpr ⟨pairs, hpairs, bind_eq_ok.mpr ⟨result, halone, he⟩⟩

/-! ## A shelf of three -/

/-- Three documents in two colours, each with a price; the search matches the first and the last. -/
def shelf : View where
  maxDoc := 3
  fields := ["color", "price_Range"]
  search _ := .ok (SortedSet.ofList [0, 2])
  scan field :=
    if field = "color" then .ok [("blue", 0), ("blue", 1), ("blue", 2), ("red", 0)]
    else .ok [("i80000003", 0), ("i80000028", 1), ("i80000028", 2)]
  read _ _ := .ok []
  close := .ok ()

/-- The prices summed up by colour, and the highest in two ranges, of which one is empty. -/
def shelfRequest : FacetRequest where
  search := { query := .all }
  facets := [
    { name := "color", aggregation := .sum, aggregationField := some "price" },
    { name := "price_Range", mode := .ranges, ranges := ["[5 TO 50]", "[90 TO 95]"]
      aggregation := .max, aggregationField := some "price" }]

/-- The prices of the matched documents are three and forty. -/
def shelfResults : FacetResults where
  results := SortedMap.ofList [
    ("color", { values := [⟨"blue", 2, Binary.ofInt 43⟩, ⟨"red", 1, Binary.ofInt 3⟩] }),
    ("price_Range", { values := [
      ⟨"[5 TO 50]", 1, Binary.ofInt 40⟩, ⟨"[90 TO 95]", 0, Binary.ofInt 0⟩] })]
  matched := 2

theorem execute_shelf :
    let executor : FacetExecutor := { maxPageSize := 10, declared := fun _ => some .int }
    ((Generation.ofView 0 shelf).run (executor.execute shelfRequest 0)).1 = .ok shelfResults ∧
      shelf.facetsAlone executor shelfRequest = .ok shelfResults := by
  intro executor
  have h : ((Generation.ofView 0 shelf).run (executor.execute shelfRequest 0)).1 =
      .ok shelfResults := by decide +kernel
  exact ⟨h, execute_eq_alone shelf 0 executor shelfRequest 0 h⟩

end FacetedSearch
