import FacetedSearch.Proofs.Facet.Page
import FacetedSearch.Proofs.Facet.WholeNumbers

/-!
# FacetedSearch.Proofs.Facet.Sum — sums of 32-bit whole numbers over an index

A facet that sums a field up adds the numbers of each group's documents, in ascending order of
documents and, within a document, each different number once in ascending order.  The running sum is
exact within two to the 53rd, and so the value of a group is the sum of these numbers
(`sum_of_distinct`).  A number that a document stores twice counts once (`sum_of_repeated`).
-/

namespace FacetedSearch

variable {docs : List Document} {idx : Index} {field : String}

/-! ## What is read -/

/-- A named facet that sums a numeric field up passes the check. -/
theorem FacetDefinition.exists_prepare_of_numeric {declared : Declarations} {d : FacetDefinition}
    (hn : d.name ≠ "") (hm : d.mode = .terms) (hf : d.aggregationField = some field)
    (hfield : field.toList.all Text.isBlank = false)
    (htype : (declared.resolve (rangeField field)).isNumeric = true) :
    ∃ p, d.prepare declared = .ok p := by
  apply exists_prepare_iff.mpr
  rintro (hname | ⟨-, hblank⟩ | ⟨given, -, hgiven, -, hnumeric⟩ | ⟨hranges, -⟩)
  · exact hn hname
  · rw [hblank field hf] at hfield
    cases hfield
  · obtain rfl := Option.some.inj (hf.symm.trans hgiven)
    rw [htype] at hnumeric
    cases hnumeric
  · rw [hm] at hranges
    cases hranges

/-! ## Groups -/

/-- The documents of a group are the matched ones that its term lists. -/
theorem Index.docs_of_mem_termGroups {name : String} {among : DocSet} {b : String × Bucket}
    (h : b ∈ termGroups true (matchedPairs (idx.pairs name) among)) :
    b.2.docs = among.inter (idx.docsOf name b.1) := by
  obtain ⟨t, -, rfl⟩ := List.mem_map.mp h
  apply SortedSet.ext_mem
  intro id
  rw [Bucket.docs_matchedPairs, SortedSet.mem_filter, SortedSet.mem_inter, List.any_eq_true,
    ← mem_pairs, ← mem_visitedTerms]
  simp

namespace View

variable {v : View} {declared : Declarations} {executor : FacetExecutor} {request : FacetRequest}
  {f : FacetDefinition} {p : PreparedFacet} {group : FacetValue}

/-- The value of a group is the running sum of the different numbers of its documents. -/
theorem groupAlone_of_sum (h : StoresInts docs field) (hlists : idx.Lists docs)
    (ha : f.aggregation = .sum) (hf : f.aggregationField = some field) {label : String} {b : Bucket}
    (hgroup : (View.ofIndex idx).groupAlone declared f label b = .ok group) :
    group.label = label ∧ group.value =
      ((b.docs.toList.flatMap (distinctInts docs field)).map Binary.ofInt).foldl Binary.add
        (Binary.zero false) := by
  obtain ⟨numbers, hnumbers, hgroup⟩ := bind_eq_ok.mp hgroup
  obtain rfl := FacetDefinition.numbers_of_field (ha ▸ by decide) hf hnumbers
  obtain ⟨rows, hrows, ⟨⟩⟩ := bind_eq_ok.mp hgroup
  have hrows : rows = b.docs.toList.map fun id => (distinctInts docs field id).map Binary.ofInt :=
    eq_map_of_mapM_eq_ok hrows fun id _ row hrow => numbersOf_eq_ok h hlists hrow
  rw [ha, hrows, List.map_flatMap, List.flatMap_def]
  exact ⟨rfl, rfl⟩

theorem exists_termResult (hm : p.definition.mode = .terms)
    (hgroup : ∀ label b, ∃ group, v.answer (p.group label b) = .ok group)
    (executor : FacetExecutor) (start : Nat) (pageSize : Option Nat)
    (visits : List (String × DocId)) :
    ∃ result, v.answer (p.result executor start pageSize visits) = .ok result := by
  rw [PreparedFacet.result, hm]
  dsimp only
  rw [answer_termResult]
  split
  · exact ⟨_, rfl⟩
  · obtain ⟨values, hvalues⟩ :=
      exists_mapM_iff.mpr fun (b : String × Bucket) (_ : b ∈ _) => hgroup b.1 b.2
    exact ⟨_, bind_eq_ok.mpr ⟨values, hvalues, rfl⟩⟩

/-- A facet alone that sums whole numbers up succeeds. -/
theorem exists_answer_of_sum (h : StoresInts docs field) (hlists : idx.Lists docs)
    (hid : ∀ d ∈ docs, d.id.toNat < 4294967295) (hn : f.name ≠ "") (hm : f.mode = .terms)
    (ha : f.aggregation = .sum) (hf : f.aggregationField = some field)
    (hfield : field.toList.all Text.isBlank = false)
    (htype : executor.declared.resolve (rangeField field) = .none ∨
      executor.declared.resolve (rangeField field) = .int)
    (search : SearchRequest) (start : Nat) (pageSize : Option Nat) (now : Nat) :
    ∃ results, (View.ofIndex idx).answer
      (executor.execute { search, facets := [f], start, pageSize } now) = .ok results := by
  have hnumeric : (executor.declared.resolve (rangeField field)).isNumeric = true := by
    rcases htype with htype | htype <;> rw [htype] <;> rfl
  obtain ⟨p, hp⟩ := FacetDefinition.exists_prepare_of_numeric hn hm hf hfield hnumeric
  obtain ⟨hdefinition, hnumbers, -⟩ := prepare_eq_ok hp
  have hgroup (label : String) (b : Bucket) :
      ∃ group, (View.ofIndex idx).answer (p.group label b) = .ok group := by
    apply exists_group
    intro name type hread
    rw [FacetDefinition.numbers_of_field (ha ▸ by decide) hf hnumbers, Option.some.injEq, Prod.mk.injEq] at hread
    obtain ⟨rfl, rfl⟩ := hread
    exact h.exists_numberTable hlists hid htype
  have hsearch : (View.ofIndex idx).search search = .ok (idx.search search.query) := rfl
  obtain ⟨visits, -, hanswer⟩ :=
    answer_single hp hsearch rfl (hlists.lt_maxDoc hid f.name) start pageSize now
  obtain ⟨result, hresult⟩ :=
    exists_termResult (hdefinition ▸ hm) hgroup executor start pageSize visits
  rw [hanswer, hresult]
  exact ⟨_, rfl⟩

end View

/-! ## Sums of requests -/

/-- The sums of a facet over terms, on an index of any documents and after any history of reading
it.  The value of each group is the sum of the different numbers that each document of the group
stores, where a document is of the group if requiring its term as well finds it, and as long as the
running sums stay within two to the 53rd.  The facet alone succeeds if its field is not declared
otherwise. -/
theorem sum_of_distinct {docs : List Document} {idx : Index} (h : Index.ofDocuments docs = .ok idx)
    (hid : ∀ d ∈ docs, d.id.toNat < 4294967295) {field : String} (hints : StoresInts docs field)
    (number : Nat) (acts : List (ReadAct (View.ofIndex idx))) (executor : FacetExecutor)
    (request : FacetRequest) {facet : FacetDefinition} {before after : List FacetDefinition}
    (hfacets : request.facets = before ++ facet :: after) (hlast : ∀ e ∈ after, e.name ≠ facet.name)
    (hm : facet.mode = .terms) (ha : facet.aggregation = .sum)
    (hf : facet.aggregationField = some field) (now : Nat) :
    let type := executor.declared.resolve (rangeField field)
    let run (request : FacetRequest) := ((acts.foldl Generation.read
      (Generation.ofView number (View.ofIndex idx))).run (executor.execute request now)).1
    (facet.name ≠ "" → field.toList.all Text.isBlank = false → type = .none ∨ type = .int →
      ∃ results, run { request with facets := [facet] } = .ok results) ∧
    ∀ results, run request = .ok results → ∃ result : FacetResult,
      results.results.get? facet.name = some result ∧ ∀ group ∈ result.values,
        let found := idx.search (.bool [request.search.query, .term facet.name group.label] [] [])
        let numbers := found.toList.flatMap (distinctInts docs field)
        (∀ p, p <+: numbers → p.sum.natAbs ≤ Binary.exactBound) →
          group.value = Binary.ofInt numbers.sum ∧ group.value.toInt? = some numbers.sum := by
  intro type run
  have hlists := Index.lists_of_ofDocuments h
  have hrun (request : FacetRequest) :
      run request = (View.ofIndex idx).answer (executor.execute request now) :=
    (Session.Transparent.closed.execute executor _ now _ (Generation.coherent_after _ number acts)).1
  constructor
  · intro hn hfield htype
    rw [hrun]
    exact View.exists_answer_of_sum hints hlists hid hn hm ha hf hfield htype ..
  · intro results hresults
    rw [hrun] at hresults
    obtain ⟨p, among, pairs, visits, result, hp, hsearch, hscan, hperm, hresult, hnamed⟩ :=
      View.exists_result_of_answer hresults hfacets hlast
    cases hsearch
    cases hscan
    refine ⟨result, hnamed, ?_⟩
    intro group hgroup found numbers hbound
    have halone := View.resultAlone_eq hp hperm hresult
    obtain ⟨b, hb, hgroup⟩ := View.exists_termGroup hm halone hgroup
    rw [ha] at hb
    obtain ⟨hlabel, hvalue⟩ := View.groupAlone_of_sum hints hlists ha hf hgroup
    have hfound : b.2.docs = found := by
      rw [Index.docs_of_mem_termGroups hb, ← hlabel]
      rfl
    have hexact : ∀ i ∈ numbers, i.natAbs ≤ Binary.exactBound := fun i hi => by
      obtain ⟨id, -, hi⟩ := List.mem_flatMap.mp hi
      exact Binary.natAbs_le_of_fits (fits_of_mem_distinctInts hi)
    have hsum : group.value = Binary.ofInt numbers.sum := by
      rw [hvalue, hfound, ← Binary.ofInt_zero, Binary.foldl_add_ofInt numbers hexact, Int.zero_add]
      simpa using hbound
    rw [hsum]
    exact ⟨rfl, (Binary.exact_ofInt (hbound numbers List.prefix_rfl)).toInt?⟩

/-! ## Prices in two colours -/

/-- Two red documents with prices, of which one is named twice, and a blue one without a price. -/
def priced : List Document := [
  { id := 0, fields := [("color", [.text "red"]),
      ("price", [.number (.int 40), .number (.int 3), .number (.int 3)])] },
  { id := 1, fields := [("color", [.text "blue"])] },
  { id := 2, fields := [("color", [.text "red"]), ("price", [.number (.int (-5))])] }]

/-- The index of the documents in two colours. -/
def pricedIndex : Index := (Index.ofDocuments priced).toOption.getD {}

theorem storesInts_priced : StoresInts priced "price" where
  plain := by decide +kernel
  ints := by simp [priced, Document.values]
  ranged := by
    have hname : rangeField "price" = "price_Range" := by decide +kernel
    simp [priced, Document.values, hname]

theorem sum_of_distinct_priced :
    let executor : FacetExecutor := { maxPageSize := 10, declared := fun _ => none }
    let facet : FacetDefinition :=
      { name := "color", aggregation := .sum, aggregationField := some "price" }
    let request : FacetRequest :=
      { search := { query := .all }, facets := [{ name := "color" }, facet] }
    Index.ofDocuments priced = .ok pricedIndex ∧ ∃ results group,
      ((Generation.ofView 0 (View.ofIndex pricedIndex)).clearCaches.run
        (executor.execute request 0)).1 = .ok results ∧
      results.value? "color" "red" = some group ∧ group.value.toInt? = some 38 := by
  intro executor facet request
  let red : FacetValue := ⟨"red", 2, Binary.ofInt 38⟩
  let result : FacetResult := { values := [⟨"blue", 1, Binary.ofInt 0⟩, red] }
  have hindex : Index.ofDocuments priced = .ok pricedIndex := by decide +kernel
  have hrun : ((Generation.ofView 0 (View.ofIndex pricedIndex)).clearCaches.run
      (executor.execute request 0)).1 =
        .ok { results := SortedMap.ofList [("color", result)], matched := 3 } := by decide +kernel
  have hnumbers : (pricedIndex.search (.bool [.all, .term "color" "red"] [] [])).toList.flatMap
      (distinctInts priced "price") = [3, 40, -5] := by decide +kernel
  have hbound : ∀ p, p <+: [3, 40, -5] → p.sum.natAbs ≤ Binary.exactBound := by
    intro p hp
    have hall : ∀ p ∈ [(3 : Int), 40, -5].inits, p.sum.natAbs ≤ Binary.exactBound := by decide
    exact hall p ((List.mem_inits _ _).mpr hp)
  obtain ⟨-, hsums⟩ := sum_of_distinct hindex (by decide +kernel) storesInts_priced 0 [.lowMemory]
    executor request (show request.facets = [{ name := "color" }] ++ facet :: [] from rfl) nofun
    rfl rfl rfl 0
  obtain ⟨found, hfound, hgroups⟩ := hsums _ hrun
  have hresult : found = result :=
    Option.some.inj (hfound.symm.trans (SortedMap.get?_ofList_last [] result nofun))
  subst hresult
  obtain ⟨-, hred⟩ := hgroups red (by simp [result]) (by rw [hnumbers]; exact hbound)
  refine ⟨hindex, _, red, hrun, by decide +kernel, ?_⟩
  rw [hred, hnumbers]
  rfl

/-! ## A price named twice -/

/-- One document that stores its price twice. -/
def doubled : List Document := [
  { id := 0, fields := [("color", [.text "red"]),
      ("price", [.number (.int 3), .number (.int 3)])] }]

/-- The index of the document that stores its price twice. -/
def doubledIndex : Index := (Index.ofDocuments doubled).toOption.getD {}

/-- Of a number that a document stores twice the sum has one only. -/
theorem sum_of_repeated :
    let executor : FacetExecutor := { maxPageSize := 10, declared := fun _ => none }
    let facet : FacetDefinition :=
      { name := "color", aggregation := .sum, aggregationField := some "price" }
    let numbers := (doubledIndex.search (.bool [.all, .term "color" "red"] [] [])).toList.flatMap
      (storedInts doubled "price")
    Index.ofDocuments doubled = .ok doubledIndex ∧ StoresInts doubled "price" ∧
      numbers = [3, 3] ∧
      ((Generation.ofView 0 (View.ofIndex doubledIndex)).run
          (executor.execute { search := { query := .all }, facets := [facet] } 0)).1 =
        .ok { results := SortedMap.ofList [("color",
                { values := [⟨"red", 1, Binary.ofInt 3⟩] })], matched := 1 } ∧
      (Binary.ofInt 3 : Double) ≠ Binary.ofInt numbers.sum := by
  have hstores : StoresInts doubled "price" := by
    have hname : rangeField "price" = "price_Range" := by decide +kernel
    refine ⟨by decide +kernel, by simp [doubled, Document.values], ?_⟩
    simp [doubled, Document.values, hname]
  refine ⟨by decide +kernel, hstores, ?_⟩
  decide +kernel

end FacetedSearch
