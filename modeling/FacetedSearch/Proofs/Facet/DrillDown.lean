import FacetedSearch.Proofs.Facet.History
import FacetedSearch.Proofs.Facet.Page
import FacetedSearch.Proofs.Facet.Single
import FacetedSearch.Proofs.Index.Search

/-!
# FacetedSearch.Proofs.Facet.DrillDown — a group's hits are what narrowing the search finds

A facet counts pairs of terms and documents; a search that also requires a term intersects document
sets.  An index visits each pair of a term and a document that it lists once (`nodup_pairs`), so the
visits of a term under a search are as many as the documents of the narrowed search
(`countP_matchedPairs`).  `drillDown` says so of whole requests over indexes of documents.
-/

namespace FacetedSearch

open List (Perm)

/-! ## Visits of an index -/

namespace Index

/-- Requiring a term as well narrows a search to the documents that the term lists. -/
theorem search_narrowed (idx : Index) (q : Query) (field term : String) :
    idx.search (.bool [q, .term field term] [] []) = (idx.search q).inter (idx.docsOf field term) :=
  rfl

/-- The visits of a term are as many as the matched documents that it lists. -/
theorem countP_matchedPairs (idx : Index) (field term : String) (docs : DocSet) :
    ((matchedPairs (idx.pairs field) docs).countP fun x => decide (x.1 = term)) =
      (docs.inter (idx.docsOf field term)).size := by
  have hmem (x : String × DocId) :
      x ∈ (matchedPairs (idx.pairs field) docs).filter (fun x => decide (x.1 = term)) ↔
        x.1 = term ∧ x.2 ∈ docs.inter (idx.docsOf field term) := by
    rw [List.mem_filter, decide_eq_true_iff, mem_matchedPairs, mem_pairs, SortedSet.mem_inter]
    constructor
    · rintro ⟨⟨hp, hd⟩, rfl⟩
      exact ⟨rfl, hd, hp⟩
    · rintro ⟨rfl, hd, hp⟩
      exact ⟨⟨hp, hd⟩, rfl⟩
  have hnodup : (((matchedPairs (idx.pairs field) docs).filter fun x =>
      decide (x.1 = term)).map Prod.snd).Nodup := by
    refine List.Nodup.map_on (fun x hx y hy hxy => ?_) (((nodup_pairs idx field).filter _).filter _)
    exact Prod.ext (((hmem x).mp hx).1.trans ((hmem y).mp hy).1.symm) hxy
  have hinter : (docs.inter (idx.docsOf field term)).toList.Nodup :=
    (docs.inter (idx.docsOf field term)).ascending.imp SortKey.before_ne
  have hperm := (List.perm_ext_iff_of_nodup hnodup hinter).mpr fun d => by
    rw [List.mem_map, ← SortedSet.mem_def]
    constructor
    · rintro ⟨x, hx, rfl⟩
      exact ((hmem x).mp hx).2
    · exact fun hd => ⟨(term, d), (hmem (term, d)).mpr ⟨rfl, hd⟩, rfl⟩
  rw [List.countP_eq_length_filter, ← List.length_map Prod.snd, hperm.length_eq, SortedSet.size]

/-- The terms of a field that some document of a set has. -/
def termsAmong (idx : Index) (field : String) (docs : DocSet) : SortedSet String :=
  SortedSet.ofList ((matchedPairs (idx.pairs field) docs).map Prod.fst)

theorem mem_termsAmong {idx : Index} {field term : String} {docs : DocSet} :
    term ∈ idx.termsAmong field docs ↔ docs.inter (idx.docsOf field term) ≠ ∅ := by
  have hmem : term ∈ idx.termsAmong field docs ↔ ∃ d, d ∈ docs.inter (idx.docsOf field term) := by
    rw [termsAmong, SortedSet.mem_ofList, List.mem_map]
    constructor
    · rintro ⟨⟨t, d⟩, hx, rfl⟩
      obtain ⟨hp, hd⟩ := mem_matchedPairs.mp hx
      exact ⟨d, SortedSet.mem_inter.mpr ⟨hd, mem_pairs.mp hp⟩⟩
    · rintro ⟨d, hd⟩
      obtain ⟨hd, hp⟩ := SortedSet.mem_inter.mp hd
      exact ⟨(term, d), mem_matchedPairs.mpr ⟨mem_pairs.mpr hp, hd⟩, rfl⟩
  rw [hmem, SortedSet.ne_empty_iff]

end Index

/-! ## Counting terms -/

/-- A facet that counts terms, checked. -/
def FacetDefinition.counting (d : FacetDefinition) : PreparedFacet where
  definition := d
  numbers := none
  ranges := []

/-- The group of a term and its hits, where hits are all that is counted. -/
def countOf (b : String × Bucket) : FacetValue where
  label := b.1
  hits := b.2.hits
  value := Binary.ofInt b.2.hits

theorem map_label_countOf (keep : Bool) (pairs : List (String × DocId)) :
    ((termGroups keep pairs).map countOf).map FacetValue.label =
      (SortedSet.ofList (pairs.map Prod.fst)).toList := by
  rw [termGroups, List.map_map, List.map_map]
  exact List.map_id _

theorem hits_of_mem_countOf {keep : Bool} {pairs : List (String × DocId)} {group : FacetValue}
    (h : group ∈ (termGroups keep pairs).map countOf) :
    group.hits = pairs.countP fun x => decide (x.1 = group.label) := by
  obtain ⟨b, hb, rfl⟩ := List.mem_map.mp h
  obtain ⟨term, -, rfl⟩ := List.mem_map.mp hb
  rfl

namespace View

variable {v : View} {d : FacetDefinition}

theorem prepare_count (declared : Declarations) (hn : d.name ≠ "") (hm : d.mode = .terms)
    (ha : d.aggregation = .count) : d.prepare declared = .ok d.counting := by
  have hnumbers : d.numbers declared = .ok none := by rw [FacetDefinition.numbers, if_pos ha]
  have hranges : d.parsedRanges declared = .ok [] := by rw [FacetDefinition.parsedRanges, hm]
  rw [FacetDefinition.prepare, if_neg hn, hnumbers, hranges]
  rfl

/-- With room for every group on the page, the result has the group of each visited term. -/
theorem answer_countResult (hm : d.mode = .terms) (ha : d.aggregation = .count)
    (executor : FacetExecutor) (pageSize : Option Nat) (visits : List (String × DocId))
    (hlimit : (termGroups false visits).length ≤
      pageLimit executor.maxPageSize pageSize d.maxResults) :
    ∃ result, v.answer (d.counting.result executor 0 pageSize visits) = .ok result ∧
      Perm result.values ((termGroups false visits).map countOf) := by
  have hgroup (b : String × Bucket) : v.answer (d.counting.group b.1 b.2) = .ok (countOf b) := by
    rw [answer_group, answer_aggregate]
    rfl
  have hkeep : d.counting.keepsDocuments = false := decide_eq_false (not_not_intro ha)
  have hsorted := d.order.sort_perm (termGroups false visits)
  rw [PreparedFacet.result, FacetDefinition.counting, hm]
  change ∃ result, v.answer (d.counting.termResult executor 0 pageSize
    (termBuckets d.counting.keepsDocuments visits).entries) = .ok result ∧ _
  rw [hkeep, entries_termBuckets, answer_termResult]
  by_cases hempty : (termGroups false visits).isEmpty = true
  · rw [if_pos hempty, List.isEmpty_iff.mp hempty]
    exact ⟨{}, rfl, Perm.refl _⟩
  · have hmap : (d.order.sort (termGroups false visits)).mapM
        (fun b => v.answer (d.counting.group b.1 b.2)) =
          .ok ((d.order.sort (termGroups false visits)).map countOf) := by
      refine mapM_eq_ok_iff.mpr (List.forall₂_map_right_iff.mpr (List.forall₂_same.mpr ?_))
      exact fun b _ => hgroup b
    rw [← hsorted.length_eq] at hlimit
    have hpage := TermPage.groups_ofSorted hlimit
    rw [if_neg hempty]
    dsimp only [FacetDefinition.counting] at hmap ⊢
    rw [hpage, hmap]
    exact ⟨_, rfl, hsorted.map _⟩

/-- A request for one facet that counts terms, answered by the view alone. -/
theorem answer_countTerms {request : SearchRequest} {docs : DocSet} {pairs : List (String × DocId)}
    (hn : d.name ≠ "") (hm : d.mode = .terms) (ha : d.aggregation = .count)
    (hsearch : v.search request = .ok docs) (hscan : v.scan d.name = .ok pairs)
    (hbelow : ∀ x ∈ pairs, x.2.toNat < v.maxDoc.toNat) (executor : FacetExecutor)
    {pageSize : Option Nat}
    (hlimit : (termGroups false (matchedPairs pairs docs)).length ≤
      pageLimit executor.maxPageSize pageSize d.maxResults) (now : Nat) :
    ∃ result, v.answer (executor.execute { search := request, facets := [d], pageSize } now) =
        .ok { results := SortedMap.ofList [(d.name, result)], matched := docs.size } ∧
      Perm result.values ((termGroups false (matchedPairs pairs docs)).map countOf) := by
  obtain ⟨visits, hperm, hanswer⟩ := answer_single
    (prepare_count executor.declared hn hm ha) hsearch hscan hbelow 0 pageSize now
  have hgroups := termGroups_perm hperm false
  rw [← hgroups] at hlimit ⊢
  obtain ⟨result, hresult, hvalues⟩ := answer_countResult (v := v) hm ha executor pageSize
    visits hlimit
  refine ⟨result, ?_, hvalues⟩
  rw [hanswer, hresult]
  rfl

end View

/-! ## Drilling down -/

/-- A facet that counts the terms of a field agrees with narrowing the search to each term, on an
index of any documents and after any history of reading it.  With room for all terms on the first
page it lists just the terms that narrow the search to some document, each once, and the hits of a
term are the documents that the narrowed search finds. -/
theorem drillDown {docs : List Document} {idx : Index} (h : Index.ofDocuments docs = .ok idx)
    (hid : ∀ d ∈ docs, d.id.toNat < 4294967295) (number : Nat)
    (acts : List (ReadAct (View.ofIndex idx))) (executor : FacetExecutor) (search : SearchRequest)
    (facet : FacetDefinition) (hn : facet.name ≠ "") (hm : facet.mode = .terms)
    (ha : facet.aggregation = .count) (pageSize : Option Nat)
    (hlimit : (idx.termsAmong facet.name (idx.search search.query)).size ≤
      pageLimit executor.maxPageSize pageSize facet.maxResults) (now : Nat) :
    ∃ result : FacetResult,
      ((acts.foldl Generation.read (Generation.ofView number (View.ofIndex idx))).run
          (executor.execute { search, facets := [facet], start := 0, pageSize } now)).1 =
        .ok { results := SortedMap.ofList [(facet.name, result)]
              matched := (idx.search search.query).size } ∧
      (result.values.map FacetValue.label).Nodup ∧
      (∀ term, term ∈ result.values.map FacetValue.label ↔
        idx.search (.bool [search.query, .term facet.name term] [] []) ≠ ∅) ∧
      ∀ group ∈ result.values, group.hits =
        (idx.search (.bool [search.query, .term facet.name group.label] [] [])).size := by
  have hlists := Index.lists_of_ofDocuments h
  have hbelow : ∀ x ∈ idx.pairs facet.name, x.2.toNat < (View.ofIndex idx).maxDoc.toNat := by
    rintro ⟨term, id⟩ hx
    obtain ⟨d, hd, rfl, -⟩ := (hlists.posted _ _ _).mp (Index.mem_pairs.mp hx)
    rw [View.ofIndex, hlists.toNat_maxDoc hid]
    exact hlists.below d hd
  have hgroups : (termGroups false
      (matchedPairs (idx.pairs facet.name) (idx.search search.query))).length ≤
        pageLimit executor.maxPageSize pageSize facet.maxResults := by
    rw [termGroups, List.length_map]
    exact hlimit
  have hsearch : (View.ofIndex idx).search search = .ok (idx.search search.query) := rfl
  obtain ⟨result, hresult, hvalues⟩ :=
    View.answer_countTerms hn hm ha hsearch rfl hbelow executor hgroups now
  have hlabels := hvalues.map FacetValue.label
  rw [map_label_countOf] at hlabels
  refine ⟨result, ?_, ?_, fun term => ?_, fun group hgroup => ?_⟩
  · have hrun := Session.Transparent.closed.execute executor
      { search, facets := [facet], pageSize } now _ (Generation.coherent_after _ number acts)
    exact hrun.1.trans hresult
  · refine hlabels.nodup_iff.mpr ?_
    exact (idx.termsAmong facet.name (idx.search search.query)).ascending.imp SortKey.before_ne
  · rw [Index.search_narrowed, ← Index.mem_termsAmong]
    exact hlabels.mem_iff
  · rw [Index.search_narrowed, ← Index.countP_matchedPairs]
    exact hits_of_mem_countOf (hvalues.mem_iff.mp hgroup)

/-! ## Two baskets -/

/-- Two baskets with what lies in them.  A pear is named twice in one, and the other has a number
of its own among the names. -/
def baskets : List Document := [
  { id := 4, fields := [("in_Range", [.text "pear", .text "apple", .text "pear"])] },
  { id := 1, fields := [("in", [.number (.int 3)]), ("in_Range", [.text "pear"])] }]

/-- The index of the two baskets. -/
def basketIndex : Index := (Index.ofDocuments baskets).toOption.getD {}

theorem drillDown_baskets :
    let executor : FacetExecutor := { maxPageSize := 3, declared := fun _ => none }
    let facet : FacetDefinition := { name := "in_Range" }
    Index.ofDocuments baskets = .ok basketIndex ∧
      ∃ result : FacetResult,
        ((Generation.ofView 0 (View.ofIndex basketIndex)).clearCaches.run
            (executor.execute { search := { query := .all }, facets := [facet] } 0)).1 =
          .ok { results := SortedMap.ofList [("in_Range", result)], matched := 2 } ∧
        (result.values.map FacetValue.label).Nodup ∧
        "i80000003" ∈ result.values.map FacetValue.label ∧
        ∀ group ∈ result.values, group.label = "pear" → group.hits = 2 := by
  intro executor facet
  have hindex : Index.ofDocuments baskets = .ok basketIndex := by decide +kernel
  obtain ⟨result, hrun, hnodup, hlisted, hhits⟩ := drillDown hindex (by decide +kernel) 0
    [.lowMemory] executor { query := .all } facet (by decide) rfl rfl none (by decide +kernel) 0
  have hmatched : (basketIndex.search .all).size = 2 := by decide +kernel
  rw [hmatched] at hrun
  refine ⟨hindex, result, hrun, hnodup, (hlisted "i80000003").mpr (by decide +kernel), ?_⟩
  intro group hgroup hpear
  rw [hhits group hgroup, hpear]
  decide +kernel

/-! ## A field without a name -/

/-- One document whose only field has the empty name. -/
def nameless : List Document := [{ id := 0, fields := [("", [.text "a"])] }]

/-- The index of the document whose field has no name. -/
def namelessIndex : Index := (Index.ofDocuments nameless).toOption.getD {}

/-- A term of a field without a name narrows a search, but no facet can be asked for the field. -/
theorem nameless_refused :
    let executor : FacetExecutor := { maxPageSize := 1, declared := fun _ => none }
    Index.ofDocuments nameless = .ok namelessIndex ∧
      (namelessIndex.termsAmong "" (namelessIndex.search .all)).size = 1 ∧
      namelessIndex.search (.bool [.all, .term "" "a"] [] []) = SortedSet.ofList [0] ∧
      ((Generation.ofView 0 (View.ofIndex namelessIndex)).run (executor.execute
          { search := { query := .all }, facets := [{ name := "" }] } 0)).1 =
        .error .facetUnnamed := by
  decide +kernel

end FacetedSearch
