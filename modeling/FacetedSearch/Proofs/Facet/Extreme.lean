import FacetedSearch.Proofs.Facet.RangeGroups
import FacetedSearch.Proofs.Number.Extreme

/-!
# FacetedSearch.Proofs.Facet.Extreme — the least and the greatest number of a group

A facet that looks for the least or for the greatest number of a field finds, for each group it
shows, a number that lies as far out as all numbers of the group's documents.  It is one of them
unless all of them are the infinity at the far end (`extremes_of_groups`), and then it is the largest
finite number before that (`extreme_of_infinite`).  A group is a term or a range alike.
-/

namespace FacetedSearch

variable {declared : Declarations} {d : FacetDefinition} {v : View} {docs : DocSet}

/-! ## The numbers of a group -/

/-- Whether a term belongs to the group of a label: the label is the term itself, or spells a range
that holds it. -/
def FacetDefinition.selects (declared : Declarations) (d : FacetDefinition) (label term : String) :
    Bool :=
  match d.mode with
  | .terms => decide (term = label)
  | .ranges =>
    match TermRange.parseTyped d.name label (declared.resolve d.name) with
    | .ok r => r.contains term
    | .error _ => false

namespace View

/-- The numbers of a field in the documents of a group, which are those of some documents with a term
that belongs to it. -/
def groupNumbers (v : View) (declared : Declarations) (d : FacetDefinition) (docs : DocSet)
    (field label : String) : Except Error (List Double) := do
  let pairs ← v.scan d.name
  let members := docs.filter fun id => (visitedTerms pairs id).any (d.selects declared label)
  let numbers ← members.toList.mapM
    (v.numbersOf (rangeField field) (declared.resolve (rangeField field)))
  return numbers.flatten

/-! ## Groups of a result -/

theorem label_of_groupAlone {label : String} {b : Bucket} {group : FacetValue}
    (h : v.groupAlone declared d label b = .ok group) : group.label = label :=
  (Prod.mk.inj (shown_of_groupAlone h)).1

/-- Each group of a result is that of the pairs whose terms belong to its label. -/
theorem groupAlone_of_mem {executor : FacetExecutor} {request : FacetRequest}
    {pairs : List (String × DocId)} {result : FacetResult} {group : FacetValue}
    (h : v.resultAlone executor request d pairs = .ok result) (hgroup : group ∈ result.values) :
    v.groupAlone executor.declared d group.label
      (Bucket.ofPairs (decide (d.aggregation ≠ .count)) pairs
        (d.selects executor.declared group.label)) = .ok group := by
  cases hm : d.mode with
  | terms =>
    obtain ⟨b, hb, halone⟩ := exists_termGroup hm h hgroup
    obtain ⟨term, -, rfl⟩ := List.mem_map.mp hb
    obtain rfl : group.label = term := label_of_groupAlone halone
    have hselects : d.selects executor.declared group.label = fun s => decide (s = group.label) := by
      funext s
      rw [FacetDefinition.selects, hm]
    rw [hselects]
    exact halone
  | ranges =>
    rw [resultAlone, hm] at h
    obtain ⟨ranges, hranges, h⟩ := bind_eq_ok.mp h
    obtain ⟨values, hvalues, ⟨⟩⟩ := bind_eq_ok.mp h
    rw [FacetDefinition.parsedRanges, hm] at hranges
    obtain ⟨r, hr, halone⟩ := exists_mem_of_mapM_eq_ok hvalues hgroup
    obtain ⟨text, -, hparse⟩ := exists_mem_of_mapM_eq_ok hranges hr
    obtain rfl : group.label = text :=
      (label_of_groupAlone halone).trans (TermRange.text_of_parseTyped hparse)
    have hselects : d.selects executor.declared group.label = r.contains := by
      funext s
      rw [FacetDefinition.selects, hm]
      dsimp only
      rw [hparse]
    rw [hselects]
    rw [TermRange.text_of_parseTyped hparse] at halone
    exact halone

/-- The value of a group comes from the numbers of its documents. -/
theorem value_of_groupAlone (ha : d.aggregation ≠ .count) {field : String}
    (hf : d.aggregationField = some field) {pairs : List (String × DocId)}
    (hscan : v.scan d.name = .ok pairs) {group : FacetValue}
    (h : v.groupAlone declared d group.label
      (Bucket.ofPairs (decide (d.aggregation ≠ .count)) (matchedPairs pairs docs)
        (d.selects declared group.label)) = .ok group) :
    ∃ numbers, v.groupNumbers declared d docs field group.label = .ok numbers ∧
      group.value = d.aggregation.value group.hits numbers := by
  obtain ⟨read, hread, h⟩ := bind_eq_ok.mp h
  obtain rfl := FacetDefinition.numbers_of_field ha hf hread
  rw [decide_eq_true ha] at h
  obtain ⟨rows, hrows, h⟩ := bind_eq_ok.mp h
  rw [Bucket.docs_matchedPairs] at hrows
  refine ⟨rows.flatten, bind_eq_ok.mpr ⟨pairs, hscan, bind_eq_ok.mpr ⟨rows, hrows, rfl⟩⟩, ?_⟩
  have hvalue := congrArg FacetValue.value (Except.ok.inj h)
  have hhits := congrArg FacetValue.hits (Except.ok.inj h)
  dsimp only at hvalue hhits
  rw [← hvalue, hhits]

end View

/-! ## Extremes of requests -/

/-- The least or the greatest numbers that a facet finds, after any history of reading a generation.
The value of each group that is shown lies as far out as all numbers of the group's documents,
where there are any and all of them are numbers.  It is one of these unless each of them is the
infinity at the far end; then it is the largest finite number before that. -/
theorem extremes_of_groups (v : View) (number : Nat) (acts : List (ReadAct v))
    (executor : FacetExecutor) (request : FacetRequest) {facet : FacetDefinition}
    {before after : List FacetDefinition} (hfacets : request.facets = before ++ facet :: after)
    (hlast : ∀ e ∈ after, e.name ≠ facet.name) (e : Extreme)
    (ha : facet.aggregation = e.aggregation) (now : Nat) {results : FacetResults}
    (h : ((acts.foldl Generation.read (Generation.ofView number v)).run
      (executor.execute request now)).1 = .ok results) :
    ∃ docs field result, v.search request.search = .ok docs ∧
      facet.aggregationField = some field ∧
      results.results.get? facet.name = some result ∧ ∀ group ∈ result.values,
        ∃ numbers, v.groupNumbers executor.declared facet docs field group.label = .ok numbers ∧
          (numbers ≠ [] → (∀ x ∈ numbers, x.isNaN = false) →
            (∀ x ∈ numbers, e.Reaches group.value x) ∧
            (group.value ∈ numbers ↔ ∃ x ∈ numbers, x ≠ e.beyond) ∧
            ((∀ x ∈ numbers, x = e.beyond) → group.value = e.start)) := by
  have hrun := (Session.Transparent.closed.execute executor request now _
    (Generation.coherent_after _ number acts)).1
  rw [hrun] at h
  obtain ⟨p, docs, pairs, visits, result, hp, hsearch, hscan, hperm, hresult, hnamed⟩ :=
    View.exists_result_of_answer h hfacets hlast
  have hcount : facet.aggregation ≠ .count := by
    rw [ha]
    cases e <;> nofun
  obtain ⟨field, hfield, -⟩ := FacetDefinition.numbers_eq_ok hcount (prepare_eq_ok hp).2.1
  refine ⟨docs, field, result, hsearch, hfield, hnamed, ?_⟩
  intro group hgroup
  have halone := View.groupAlone_of_mem (View.resultAlone_eq hp hperm hresult) hgroup
  obtain ⟨numbers, hnumbers, hvalue⟩ := View.value_of_groupAlone hcount hfield hscan halone
  refine ⟨numbers, hnumbers, ?_⟩
  intro hne hnan
  rw [hvalue, ha]
  exact e.value_spec group.hits hne hnan

/-- The lowest price of the shelf from one to fifty. -/
def lowestPrice : FacetDefinition where
  name := "price_Range"
  mode := .ranges
  ranges := ["[1 TO 50]"]
  aggregation := .min
  aggregationField := some "price"

theorem extremes_of_groups_shelf :
    let executor : FacetExecutor := { maxPageSize := 10, declared := fun _ => some .int }
    ∃ results group, ((Generation.ofView 0 shelf).clearCaches.run
        (executor.execute { search := { query := .all }, facets := [lowestPrice] } 0)).1 =
          .ok results ∧
      results.value? "price_Range" "[1 TO 50]" = some group ∧
      group.value ∈ [Binary.ofInt 3, Binary.ofInt 40] ∧
      Extreme.least.Reaches group.value (Binary.ofInt 40) := by
  intro executor
  let lowest : FacetValue := ⟨"[1 TO 50]", 2, Binary.ofInt 3⟩
  let shown : FacetResult := { values := [lowest] }
  let request : FacetRequest := { search := { query := .all }, facets := [lowestPrice] }
  have hrun : ((Generation.ofView 0 shelf).clearCaches.run (executor.execute request 0)).1 =
      .ok { results := SortedMap.ofList [("price_Range", shown)], matched := 2 } := by
    decide +kernel
  obtain ⟨docs, field, result, hsearch, hfield, hnamed, hgroups⟩ :=
    extremes_of_groups shelf 0 [.lowMemory] executor request
      (show request.facets = [] ++ lowestPrice :: [] from rfl) nofun .least rfl 0 hrun
  cases hsearch
  cases hfield
  obtain rfl : result = shown :=
    Option.some.inj (hnamed.symm.trans (SortedMap.get?_ofList_last [] shown nofun))
  obtain ⟨numbers, hnumbers, hextreme⟩ := hgroups lowest List.mem_cons_self
  obtain rfl : numbers = [Binary.ofInt 3, Binary.ofInt 40] := by
    have hread : shelf.groupNumbers executor.declared lowestPrice (SortedSet.ofList [0, 2]) "price"
        "[1 TO 50]" = .ok [Binary.ofInt 3, Binary.ofInt 40] := by decide +kernel
    exact Except.ok.inj (hnumbers.symm.trans hread)
  obtain ⟨hreaches, hattained, -⟩ := hextreme nofun (by decide +kernel)
  refine ⟨_, lowest, hrun, by decide +kernel, hattained.mpr ?_, hreaches _ (by simp)⟩
  exact ⟨Binary.ofInt 3, List.mem_cons_self, by decide +kernel⟩

/-! ## An infinite price -/

/-- One document with an infinite price. -/
def priceless : List Document := [
  { id := 0, fields := [("color", [.text "red"]),
      ("price", [.number (.double (Binary.inf false))])] }]

/-- The index of the document with an infinite price. -/
def pricelessIndex : Index := (Index.ofDocuments priceless).toOption.getD {}

/-- The lowest of prices that are all infinite is told as the largest finite number. -/
theorem extreme_of_infinite :
    let executor : FacetExecutor := { maxPageSize := 10, declared := fun _ => some .double }
    let facet : FacetDefinition :=
      { name := "color", aggregation := .min, aggregationField := some "price" }
    Index.ofDocuments priceless = .ok pricelessIndex ∧
      (View.ofIndex pricelessIndex).groupNumbers executor.declared facet
        (pricelessIndex.search .all) "price" "red" = .ok [Binary.inf false] ∧
      ((Generation.ofView 0 (View.ofIndex pricelessIndex)).run
          (executor.execute { search := { query := .all }, facets := [facet] } 0)).1 =
        .ok { results := SortedMap.ofList [("color",
                { values := [⟨"red", 1, Binary.largest false⟩] })], matched := 1 } ∧
      (Binary.largest false : Double) ∉ [Binary.inf false] := by
  decide +kernel

end FacetedSearch
