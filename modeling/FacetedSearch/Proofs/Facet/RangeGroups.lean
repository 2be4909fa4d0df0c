import FacetedSearch.Proofs.Facet.Fault
import FacetedSearch.Proofs.Facet.History
import FacetedSearch.Proofs.Facet.Single
import FacetedSearch.Proofs.Index.Search
import FacetedSearch.Proofs.Range.Typing

/-!
# FacetedSearch.Proofs.Facet.RangeGroups — a range has hits where narrowing the search finds some

A facet encodes the bounds of its ranges for the declared type of its field, while a query encodes
them for the types they are written with.  On an index the group of a range has hits just where
requiring the same range narrows a search to some document; `rangeGroups` says so of whole requests,
and of the range of a query where the bounds are written with the type of the field.  Where they are
not, the two may differ (`counted_apart`).
-/

namespace FacetedSearch

/-! ## Narrowing a search to a range -/

namespace Index

/-- Requiring a range as well narrows a search to the documents with a term in it. -/
theorem search_narrowed_range (idx : Index) (q : Query) (field : String) (r : TermRange) :
    idx.search (.bool [q, .range field r] [] []) = (idx.search q).inter (idx.docsInRange field r) :=
  rfl

theorem countP_contains_ne_zero_iff {idx : Index} {field : String} {docs : DocSet} {r : TermRange} :
    ((matchedPairs (idx.pairs field) docs).countP fun x => r.contains x.1) ≠ 0 ↔
      docs.inter (idx.docsInRange field r) ≠ ∅ := by
  rw [← Nat.pos_iff_ne_zero, List.countP_pos_iff, SortedSet.ne_empty_iff]
  constructor
  · rintro ⟨⟨term, d⟩, hx, hr⟩
    obtain ⟨hp, hd⟩ := mem_matchedPairs.mp hx
    exact ⟨d, SortedSet.mem_inter.mpr ⟨hd, mem_docsInRange.mpr ⟨term, hr, mem_pairs.mp hp⟩⟩⟩
  · rintro ⟨d, hd⟩
    obtain ⟨hd, hin⟩ := SortedSet.mem_inter.mp hd
    obtain ⟨term, hr, hp⟩ := mem_docsInRange.mp hin
    exact ⟨(term, d), mem_matchedPairs.mpr ⟨mem_pairs.mpr hp, hd⟩, hr⟩

end Index

/-! ## The groups of a range facet -/

theorem TermRange.text_of_parseTyped {field text : String} {type : SortType} {r : TermRange}
    (h : parseTyped field text type = .ok r) : r.text = text := by
  rw [parseTyped] at h
  split at h
  · cases h
  · obtain ⟨_, -, h⟩ := bind_eq_ok.mp h
    obtain ⟨_, -, h⟩ := bind_eq_ok.mp h
    obtain ⟨_, -, h⟩ := bind_eq_ok.mp h
    obtain ⟨_, -, ⟨⟩⟩ := bind_eq_ok.mp h
    rfl

/-- A named facet that counts hits passes the check where every text spells a range. -/
theorem FacetDefinition.exists_prepare_of_reads {declared : Declarations} (d : FacetDefinition)
    (hn : d.name ≠ "") (ha : d.aggregation = .count)
    (hreads : ∀ text ∈ d.ranges, d.Reads declared text) :
    ∃ p, d.prepare declared = .ok p := by
  refine exists_prepare_iff.mpr ?_
  rintro (hname | hfield | ⟨_, htype⟩ | ⟨-, text, htext, hrange⟩)
  · exact hn hname
  · exact hfield.1 ha
  · exact htype.1 ha
  · exact hrange (hreads text htext)

namespace View

variable {v : View} {d : FacetDefinition} {p : PreparedFacet} {executor : FacetExecutor}

theorem group_eq_ok {label : String} {b : Bucket} {group : FacetValue}
    (h : v.answer (p.group label b) = .ok group) : group.label = label ∧ group.hits = b.hits := by
  rw [answer_group] at h
  obtain ⟨_, -, ⟨⟩⟩ := bind_eq_ok.mp h
  exact ⟨rfl, rfl⟩

/-- There is a group for each text, in the order of the texts, and it counts the visits of terms
that the range holds. -/
theorem rangeResult_eq_ok (hp : d.prepare executor.declared = .ok p) (hm : d.mode = .ranges)
    {start : Nat} {pageSize : Option Nat} {visits : List (String × DocId)} {result : FacetResult}
    (h : v.answer (p.result executor start pageSize visits) = .ok result) :
    List.Forall₂ (fun text group => ∃ r,
        TermRange.parseTyped d.name text (executor.declared.resolve d.name) = .ok r ∧
        group.label = text ∧ group.hits = visits.countP fun x => r.contains x.1)
      d.ranges result.values := by
  obtain ⟨rfl, -, hranges⟩ := prepare_eq_ok hp
  rw [FacetDefinition.parsedRanges, hm, mapM_eq_ok_iff] at hranges
  rw [PreparedFacet.result, hm] at h
  dsimp only at h
  rw [answer_rangeResult] at h
  obtain ⟨values, hvalues, ⟨⟩⟩ := bind_eq_ok.mp h
  rw [mapM_eq_ok_iff, List.forall₂_map_left_iff] at hvalues
  refine forall₂_comp hranges hvalues fun text r _ group hr hgroup => ⟨r, hr, ?_⟩
  obtain ⟨hlabel, hhits⟩ := group_eq_ok hgroup
  rw [rangeBucket_eq] at hhits
  exact ⟨hlabel.trans (TermRange.text_of_parseTyped hr), hhits⟩

/-- A group asks for no more than the table of its numbers. -/
theorem exists_group (htable : ∀ field type, p.numbers = some (field, type) →
      ∃ table, v.answer (Session.numberTable field type) = .ok table)
    (label : String) (b : Bucket) : ∃ group, v.answer (p.group label b) = .ok group := by
  rw [answer_group, answer_aggregate]
  cases hnumbers : p.numbers with
  | none => exact ⟨_, rfl⟩
  | some numbers =>
    obtain ⟨table, htable⟩ := htable numbers.1 numbers.2 hnumbers
    dsimp only
    rw [htable]
    exact ⟨_, rfl⟩

/-- Counting hits asks for nothing that could fail. -/
theorem exists_rangeResult (hp : d.prepare executor.declared = .ok p) (hm : d.mode = .ranges)
    (ha : d.aggregation = .count) (start : Nat) (pageSize : Option Nat)
    (visits : List (String × DocId)) :
    ∃ result, v.answer (p.result executor start pageSize visits) = .ok result := by
  obtain ⟨rfl, hnumbers, -⟩ := prepare_eq_ok hp
  rw [FacetDefinition.numbers, if_pos ha, Except.ok.injEq] at hnumbers
  rw [PreparedFacet.result, hm]
  dsimp only
  rw [answer_rangeResult]
  have hgroup (b : TermRange × Bucket) : ∃ group, v.answer (p.group b.1.text b.2) = .ok group := by
    apply exists_group
    intro field type hread
    rw [← hnumbers] at hread
    cases hread
  obtain ⟨values, hvalues⟩ := exists_mapM_iff.mpr fun (b : TermRange × Bucket) (_ : b ∈ _) => hgroup b
  exact ⟨{ values }, bind_eq_ok.mpr ⟨values, hvalues, rfl⟩⟩

end View

/-! ## Ranges of facets and of queries -/

/-- The groups of a facet over ranges agree with narrowing the search, on an index of any documents
and after any history of reading it.  There is a group for each text in order; it has hits just
where requiring the range of the facet narrows the search to some document, which is where
requiring the range of a query does if the bounds are written with the type of the field.  Counting
hits succeeds where every text spells a range. -/
theorem rangeGroups {docs : List Document} {idx : Index} (h : Index.ofDocuments docs = .ok idx)
    (hid : ∀ d ∈ docs, d.id.toNat < 4294967295) (number : Nat)
    (acts : List (ReadAct (View.ofIndex idx))) (executor : FacetExecutor) (search : SearchRequest)
    (facet : FacetDefinition) (hn : facet.name ≠ "") (hm : facet.mode = .ranges) (start : Nat)
    (pageSize : Option Nat) (now : Nat) :
    let type := executor.declared.resolve facet.name
    let run := ((acts.foldl Generation.read (Generation.ofView number (View.ofIndex idx))).run
      (executor.execute { search, facets := [facet], start, pageSize } now)).1
    (facet.aggregation = .count → (∀ text ∈ facet.ranges, facet.Reads executor.declared text) →
      ∃ results, run = .ok results) ∧
    ∀ results, run = .ok results → ∃ result : FacetResult,
      results = { results := SortedMap.ofList [(facet.name, result)]
                  matched := (idx.search search.query).size } ∧
      List.Forall₂ (fun text group => ∃ r, TermRange.parseTyped facet.name text type = .ok r ∧
          group.label = text ∧
          (group.hits ≠ 0 ↔ idx.search (.bool [search.query, .range facet.name r] [] []) ≠ ∅) ∧
          (TermRange.TypedAlike type text → ∀ asked, Query.rangeOf facet.name text = .ok asked →
            (group.hits ≠ 0 ↔ idx.search (.bool [search.query, asked] [] []) ≠ ∅)))
        facet.ranges result.values := by
  intro type run
  have hrun : run = (View.ofIndex idx).answer
      (executor.execute { search, facets := [facet], start, pageSize } now) :=
    (Session.Transparent.closed.execute executor _ now _ (Generation.coherent_after _ number acts)).1
  have hbelow := (Index.lists_of_ofDocuments h).lt_maxDoc hid facet.name
  have hsearch : (View.ofIndex idx).search search = .ok (idx.search search.query) := rfl
  have hsingle {p : PreparedFacet} (hp : facet.prepare executor.declared = .ok p) :=
    View.answer_single hp hsearch rfl hbelow start pageSize now
  constructor
  · intro ha hreads
    obtain ⟨p, hp⟩ := facet.exists_prepare_of_reads hn ha hreads
    obtain ⟨visits, -, hanswer⟩ := hsingle hp
    obtain ⟨result, hresult⟩ := View.exists_rangeResult (v := View.ofIndex idx) hp hm ha start
      pageSize visits
    rw [hrun, hanswer, hresult]
    exact ⟨_, rfl⟩
  · intro results hresults
    rw [hrun] at hresults
    obtain ⟨p, hp⟩ := View.exists_prepare_of_answer hresults
    obtain ⟨visits, hperm, hanswer⟩ := hsingle hp
    rw [hanswer] at hresults
    cases hresult : (View.ofIndex idx).answer (p.result executor start pageSize visits) with
    | error e =>
      rw [hresult] at hresults
      cases hresults
    | ok result =>
      rw [hresult] at hresults
      cases hresults
      refine ⟨result, rfl, (View.rangeResult_eq_ok hp hm hresult).imp ?_⟩
      rintro text group ⟨r, hr, hlabel, hhits⟩
      have hfound : group.hits ≠ 0 ↔
          idx.search (.bool [search.query, .range facet.name r] [] []) ≠ ∅ := by
        rw [hhits, hperm.countP_eq, Index.search_narrowed_range,
          Index.countP_contains_ne_zero_iff]
      refine ⟨r, hr, hlabel, hfound, fun halike asked hasked => ?_⟩
      rw [Query.rangeOf, ← TermRange.parseTyped_of_typedAlike halike, hr] at hasked
      cases hasked
      exact hfound

/-! ## A count of three -/

/-- One document with a count of 64 bits. -/
def counted : List Document := [{ id := 0, fields := [("count", [.number (.long 3)])] }]

/-- The index of the document with a count. -/
def countedIndex : Index := (Index.ofDocuments counted).toOption.getD {}

/-- Counts are declared as whole numbers of 64 bits. -/
def countExecutor : FacetExecutor where
  maxPageSize := 10
  declared field := if field = "count" then some .long else none

/-- The range of counts from one to five, without these two. -/
def countRange : TermRange where
  field := "count_Range"
  text := "[1L TO 5L]"
  low := some "l8000000000000001"
  high := some "l8000000000000005"
  lowInclusive := false
  highInclusive := false

theorem rangeGroups_counted :
    let facet : FacetDefinition := { name := "count_Range", mode := .ranges, ranges := ["[1L TO 5L]"] }
    Index.ofDocuments counted = .ok countedIndex ∧
      Query.rangeOf "count_Range" "[1L TO 5L]" = .ok (.range "count_Range" countRange) ∧
      ∃ result : FacetResult,
        ((Generation.ofView 0 (View.ofIndex countedIndex)).clearCaches.run
            (countExecutor.execute { search := { query := .all }, facets := [facet] } 0)).1 =
          .ok { results := SortedMap.ofList [("count_Range", result)], matched := 1 } ∧
        ∃ group, result.values = [group] ∧ group.hits ≠ 0 := by
  intro facet
  have hindex : Index.ofDocuments counted = .ok countedIndex := by decide +kernel
  have hparse : TermRange.parse "count_Range" "[1L TO 5L]" = .ok countRange := by decide +kernel
  have hasked : Query.rangeOf "count_Range" "[1L TO 5L]" =
      .ok (.range "count_Range" countRange) := by
    rw [Query.rangeOf, hparse]
    rfl
  have hmatched : (countedIndex.search .all).size = 1 := by decide +kernel
  obtain ⟨hcounts, hgroups⟩ := rangeGroups hindex (by decide +kernel) 0 [.lowMemory] countExecutor
    { query := .all } facet (by decide) rfl 0 none 0
  have hreads : ∀ text ∈ facet.ranges, facet.Reads countExecutor.declared text := by
    intro text htext
    obtain rfl := List.mem_singleton.mp htext
    exact ⟨countRange, by decide +kernel⟩
  obtain ⟨results, hrun⟩ := hcounts rfl hreads
  obtain ⟨result, rfl, hvalues⟩ := hgroups results hrun
  obtain ⟨group, rest, ⟨_, -, -, -, hagree⟩, hrest, hresult⟩ :=
    List.forall₂_cons_left_iff.mp hvalues
  rw [hmatched] at hrun
  refine ⟨hindex, hasked, result, hrun, group, ?_, ?_⟩
  · rw [hresult, List.forall₂_nil_left_iff.mp hrest]
  · exact (hagree (by decide +kernel) _ hasked).mpr (by decide +kernel)

/-- Bounds without a mark for 64 bits are of 32 bits in a query and of 64 bits in the facet, so a
document is counted that the narrowed search does not find. -/
theorem counted_apart :
    let facet : FacetDefinition := { name := "count_Range", mode := .ranges, ranges := ["[1 TO 5]"] }
    Index.ofDocuments counted = .ok countedIndex ∧
      (Query.rangeOf "count_Range" "[1 TO 5]").toOption.map (fun asked =>
        countedIndex.search (.bool [.all, asked] [] [])) = some ∅ ∧
      ((Generation.ofView 0 (View.ofIndex countedIndex)).run
          (countExecutor.execute { search := { query := .all }, facets := [facet] } 0)).1 =
        .ok { results := SortedMap.ofList [("count_Range",
                { values := [⟨"[1 TO 5]", 1, Binary.ofInt 1⟩] })], matched := 1 } := by
  decide +kernel

end FacetedSearch
