import FacetedSearch.Proofs.Facet.Page
import FacetedSearch.Proofs.Facet.Reference

/-!
# FacetedSearch.Proofs.Facet.Single — one facet of a request

Where the search and the scan of the facet's field are answered, a request for one facet gives what
the facet makes of the matched pairs (`View.answer_single`).  Of an answered request for several
facets, each is what it makes of them, unless a later one has its name
(`View.exists_result_of_answer`).  A page of terms shows groups of the visited terms and no others
(`View.exists_termGroup`).
-/

namespace FacetedSearch

open List (Perm)

/-! ## The last of several -/

/-- Of the values for one key the last stays. -/
theorem SortedMap.get?_ofList_last {κ υ : Type} [SortKey κ] [DecidableEq κ] (before : List (κ × υ))
    {after : List (κ × υ)} {k : κ} (x : υ) (h : ∀ e ∈ after, e.1 ≠ k) :
    (ofList (before ++ (k, x) :: after)).get? k = some x := by
  induction after using List.reverseRecOn with
  | nil => simp [ofList, get?_insert]
  | append_singleton after e ih =>
    have hrest := ih fun e he => h e (List.mem_append_left _ he)
    have he : k ≠ e.1 := (h e (by simp)).symm
    rw [← List.cons_append, ← List.append_assoc, ofList, List.foldl_append]
    simpa [ofList, get?_insert, he] using hrest

/-- One of some steps, and those behind it. -/
theorem exists_of_mapM_append {ε α β : Type} {f : α → Except ε β} {before after : List α} {a : α}
    {r : List β} (h : (before ++ a :: after).mapM f = .ok r) :
    ∃ r₁ b r₂, r = r₁ ++ b :: r₂ ∧ f a = .ok b ∧ after.mapM f = .ok r₂ := by
  induction before generalizing r with
  | nil =>
    obtain ⟨b, hb, h⟩ := bind_eq_ok.mp (List.mapM_cons.symm.trans h)
    obtain ⟨r₂, hr₂, ⟨⟩⟩ := bind_eq_ok.mp h
    exact ⟨[], b, r₂, rfl, hb, hr₂⟩
  | cons c before ih =>
    obtain ⟨b', -, h⟩ := bind_eq_ok.mp (List.mapM_cons.symm.trans h)
    obtain ⟨r', hr', ⟨⟩⟩ := bind_eq_ok.mp h
    obtain ⟨r₁, b, r₂, rfl, hb, hr₂⟩ := ih hr'
    exact ⟨b' :: r₁, b, r₂, rfl, hb, hr₂⟩

variable {v : View} {d : FacetDefinition} {p : PreparedFacet} {executor : FacetExecutor}

namespace View

/-- A request that is answered has a facet that passes the check. -/
theorem exists_prepare_of_answer {request : SearchRequest} {start : Nat} {pageSize : Option Nat}
    {now : Nat} {results : FacetResults}
    (h : v.answer (executor.execute { search := request, facets := [d], start, pageSize } now) =
      .ok results) :
    ∃ p, d.prepare executor.declared = .ok p := by
  rw [answer_execute] at h
  obtain ⟨prepared, hprepared, -⟩ := bind_eq_ok.mp h
  obtain ⟨p, -, hp, -⟩ := List.forall₂_cons_left_iff.mp (mapM_eq_ok_iff.mp hprepared)
  exact ⟨p, hp⟩

theorem answer_single {request : SearchRequest} {docs : DocSet} {pairs : List (String × DocId)}
    (hp : d.prepare executor.declared = .ok p)
    (hsearch : v.search request = .ok docs) (hscan : v.scan d.name = .ok pairs)
    (hbelow : ∀ x ∈ pairs, x.2.toNat < v.maxDoc.toNat) (start : Nat) (pageSize : Option Nat)
    (now : Nat) :
    ∃ visits, Perm visits (matchedPairs pairs docs) ∧
      v.answer (executor.execute { search := request, facets := [d], start, pageSize } now) =
        (v.answer (p.result executor start pageSize visits)).map fun result =>
          { results := SortedMap.ofList [(d.name, result)], matched := docs.size } := by
  obtain ⟨hdefinition, -⟩ := prepare_eq_ok hp
  obtain ⟨table, htable⟩ := TermTable.exists_ofPairs d.name hbelow
  have hprepared : [d].mapM (fun d => d.prepare executor.declared) = .ok [p] := by
    rw [List.mapM_cons, hp]
    rfl
  have hanswer : v.answer (Session.termTable d.name) = .ok table := by
    rw [answer_termTable, answer_buildTerms, hscan]
    exact htable
  have hfields : FacetExecutor.fields [p] = [d.name] := by
    rw [← hdefinition]
    rfl
  have htables : (FacetExecutor.fields [p]).mapM (fun field => do
      return (field, ← v.answer (Session.termTable field))) = .ok [(d.name, table)] := by
    rw [hfields, List.mapM_cons, hanswer]
    rfl
  have hvisits : p.visits [(d.name, table)] docs = table.visits docs := by
    rw [PreparedFacet.visits, hdefinition, List.lookup_cons, beq_self_eq_true]
  refine ⟨table.visits docs, TermTable.visits_perm htable docs, ?_⟩
  rw [answer_execute]
  dsimp only
  rw [hprepared]
  change (v.search request >>= _ : Except Error FacetResults) = _
  rw [hsearch]
  change ((FacetExecutor.fields [p]).mapM _ >>= _ : Except Error FacetResults) = _
  rw [htables]
  change v.answer (executor.named _ [p] docs [(d.name, table)]) = _
  rw [answer_named, List.mapM_cons, hvisits, hdefinition]
  cases v.answer (p.result executor start pageSize (table.visits docs)) <;> rfl

/-- In an answered request each facet has the result that it makes of the visits of its field, unless
a later facet has its name. -/
theorem exists_result_of_answer {request : FacetRequest} {now : Nat} {results : FacetResults}
    {before after : List FacetDefinition}
    (h : v.answer (executor.execute request now) = .ok results)
    (hd : request.facets = before ++ d :: after) (hlast : ∀ e ∈ after, e.name ≠ d.name) :
    ∃ p docs pairs visits result, d.prepare executor.declared = .ok p ∧
      v.search request.search = .ok docs ∧ v.scan d.name = .ok pairs ∧
      Perm visits (matchedPairs pairs docs) ∧
      v.answer (p.result executor request.start request.pageSize visits) = .ok result ∧
      results.results.get? d.name = some result := by
  rw [answer_execute] at h
  obtain ⟨prepared, hprepared, h⟩ := bind_eq_ok.mp h
  obtain ⟨docs, hdocs, h⟩ := bind_eq_ok.mp h
  obtain ⟨tables, htables, h⟩ := bind_eq_ok.mp h
  rw [answer_named] at h
  obtain ⟨named, hnamed, ⟨⟩⟩ := bind_eq_ok.mp h
  rw [hd] at hprepared
  obtain ⟨earlier, p, later, rfl, hp, hlater⟩ := exists_of_mapM_append hprepared
  obtain ⟨_, entry, laterNamed, rfl, hentry, hlaterNamed⟩ := exists_of_mapM_append hnamed
  obtain ⟨result, hresult, ⟨⟩⟩ := bind_eq_ok.mp hentry
  have hdefinition := (prepare_eq_ok hp).1
  have hname : p.definition.name ∈ FacetExecutor.fields (earlier ++ p :: later) :=
    SortedSet.mem_ofList.mpr (List.mem_map_of_mem (by simp))
  obtain ⟨table, hlookup, htable⟩ := lookup_eq (mapM_eq_ok_iff.mp htables) hname
  obtain ⟨pairs, hpairs, hof⟩ := termTable_eq_ok htable
  rw [PreparedFacet.visits, hlookup] at hresult
  rw [hdefinition] at hpairs
  refine ⟨p, docs, pairs, table.visits docs, result, hp, hdocs, hpairs,
    TermTable.visits_perm hof docs, hresult, ?_⟩
  rw [hdefinition]
  refine SortedMap.get?_ofList_last _ result fun e he => ?_
  obtain ⟨q, hq, he⟩ := exists_mem_of_mapM_eq_ok hlaterNamed he
  obtain ⟨d', hd', hq⟩ := exists_mem_of_mapM_eq_ok hlater hq
  obtain ⟨_, -, ⟨⟩⟩ := bind_eq_ok.mp he
  rw [(prepare_eq_ok hq).1]
  exact hlast d' hd'

/-! ## Groups -/

/-- A group has the label and the hits that it is made for. -/
theorem shown_of_groupAlone {declared : Declarations} {label : String} {b : Bucket}
    {group : FacetValue} (h : v.groupAlone declared d label b = .ok group) :
    (group.label, group.hits) = (label, b.hits) := by
  obtain ⟨numbers, -, h⟩ := bind_eq_ok.mp h
  cases numbers with
  | none =>
    cases h
    rfl
  | some numbers =>
    obtain ⟨rows, -, ⟨⟩⟩ := bind_eq_ok.mp h
    rfl

/-- The groups on a page of terms are groups of the visited terms. -/
theorem exists_termGroup {request : FacetRequest} {pairs : List (String × DocId)}
    {result : FacetResult} {group : FacetValue} (hm : d.mode = .terms) (h : v.resultAlone executor request d pairs = .ok result)
    (hgroup : group ∈ result.values) :
    ∃ b ∈ termGroups (decide (d.aggregation ≠ .count)) pairs,
      v.groupAlone executor.declared d b.1 b.2 = .ok group := by
  rw [resultAlone, hm] at h
  dsimp only at h
  split at h
  · cases h
    cases hgroup
  · obtain ⟨values, hvalues, ⟨⟩⟩ := bind_eq_ok.mp h
    obtain ⟨b, hb, hgroup⟩ := exists_mem_of_mapM_eq_ok hvalues hgroup
    rw [TermPage.ofSorted_eq] at hb
    have hsorted := List.mem_of_mem_drop (List.mem_of_mem_take hb)
    exact ⟨b, (d.order.sort_perm _).mem_iff.mp hsorted, hgroup⟩

end View

end FacetedSearch
