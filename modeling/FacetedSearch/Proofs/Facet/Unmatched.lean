import FacetedSearch.Proofs.Facet.Agreement
import FacetedSearch.Proofs.Facet.Page

/-!
# FacetedSearch.Proofs.Facet.Unmatched — documents that a search does not match

A number table is built for its whole field, so a term that does not decode fails a request even
where no matched document has it (`unmatched_told`).  Nothing else of such documents shows: two
views that agree on the matched documents give one answer, unless one of them fails over such a
term (`execute_of_agreeOn`).  The two runs go hand in hand, step by step.
-/

namespace FacetedSearch

/-! ## Facets in step -/

variable {v w : View} {docs : DocSet} {executor : FacetExecutor} {request : FacetRequest}
  {p : PreparedFacet} {P Q : Prop}

/-- A document outside a set has a term that does not decode, in a field whose numbers a facet of
the request aggregates. -/
def View.Obstructs (v : View) (docs : DocSet) (executor : FacetExecutor) (request : FacetRequest) :
    Prop :=
  ∃ d ∈ request.facets, ∃ field type,
    d.numbers executor.declared = .ok (some (field, type)) ∧ v.Hides docs field type

theorem TermTable.mem_of_mem_visits {t : TermTable} {x : String × DocId}
    (hx : x ∈ t.visits docs) : x.2 ∈ docs := by
  obtain ⟨d, hd, hx⟩ := List.mem_flatMap.mp hx
  obtain ⟨term, -, rfl⟩ := List.mem_map.mp hx
  exact hd

theorem TermTable.visits_congr {t u : TermTable} (h : ∀ d ∈ docs, t.terms d = u.terms d) :
    t.visits docs = u.visits docs := by
  refine List.flatMap_congr fun d hd => ?_
  rw [h d hd]

/-- Only visited documents come into a bucket. -/
theorem Bucket.mem_docs_ofPairs {keep : Bool} {visits : List (String × DocId)} {q : String → Bool}
    (hvisits : ∀ x ∈ visits, x.2 ∈ docs) :
    ∀ d ∈ (Bucket.ofPairs keep visits q).docs, d ∈ docs := by
  intro d hd
  unfold Bucket.ofPairs at hd
  cases keep with
  | false => cases hd
  | true =>
    obtain ⟨x, hx, rfl⟩ := List.mem_map.mp (SortedSet.mem_ofList.mp hd)
    exact hvisits x (List.mem_filter.mp hx).1

/-- What a facet aggregates, if it does, is read from a number table that hides nothing in either
view, or whose hidden terms are accounted for. -/
structure PreparedFacet.Accounts (p : PreparedFacet) (v w : View) (docs : DocSet) (P Q : Prop) :
    Prop where
  left : ∀ field type, p.numbers = some (field, type) → v.Hides docs field type → P
  right : ∀ field type, p.numbers = some (field, type) → w.Hides docs field type → Q

namespace View.AgreeOn

theorem aggregate (h : v.AgreeOn w docs) (hp : p.Accounts v w docs P Q) {b : Bucket}
    (hb : ∀ d ∈ b.docs, d ∈ docs) :
    Alike P Q Eq (v.answer (p.aggregate b)) (w.answer (p.aggregate b)) := by
  rw [answer_aggregate, answer_aggregate]
  rcases hnumbers : p.numbers with _ | ⟨field, type⟩
  · exact .ok rfl
  · have htable := (h.numberTable field type).mono (hp.left field type hnumbers)
      (hp.right field type hnumbers)
    refine (htable.unreadable p field).bind fun t u htu => .ok ?_
    have hvalues : b.docs.toList.flatMap t.values = b.docs.toList.flatMap u.values :=
      List.flatMap_congr fun d hd => htu d (hb d hd)
    rw [hvalues]

theorem group (h : v.AgreeOn w docs) (hp : p.Accounts v w docs P Q) (label : String) {b : Bucket}
    (hb : ∀ d ∈ b.docs, d ∈ docs) :
    Alike P Q Eq (v.answer (p.group label b)) (w.answer (p.group label b)) := by
  rw [answer_group, answer_group]
  refine (h.aggregate hp hb).bind fun x y hxy => .ok ?_
  rw [hxy]

theorem termResult (h : v.AgreeOn w docs) (hp : p.Accounts v w docs P Q)
    {buckets : List (String × Bucket)} (hb : ∀ b ∈ buckets, ∀ d ∈ b.2.docs, d ∈ docs) (start : Nat)
    (pageSize : Option Nat) :
    Alike P Q Eq (v.answer (p.termResult executor start pageSize buckets))
      (w.answer (p.termResult executor start pageSize buckets)) := by
  rw [answer_termResult, answer_termResult]
  split
  · exact .ok rfl
  · have hgroups : ∀ b ∈ (TermPage.ofSorted (p.definition.order.sort buckets) start
        (pageLimit executor.maxPageSize pageSize p.definition.maxResults)).groups,
        Alike P Q Eq (v.answer (p.group b.1 b.2)) (w.answer (p.group b.1 b.2)) := by
      intro b hmem
      have hsorted := List.mem_of_mem_take (List.mem_of_mem_drop hmem)
      exact h.group hp b.1 (hb b ((p.definition.order.sort_perm buckets).mem_iff.mp hsorted))
    refine (Alike.mapM_eq hgroups).bind fun xs ys hxy => .ok ?_
    rw [hxy]

theorem rangeResult (h : v.AgreeOn w docs) (hp : p.Accounts v w docs P Q)
    {buckets : List (TermRange × Bucket)} (hb : ∀ b ∈ buckets, ∀ d ∈ b.2.docs, d ∈ docs) :
    Alike P Q Eq (v.answer (p.rangeResult buckets)) (w.answer (p.rangeResult buckets)) := by
  rw [answer_rangeResult, answer_rangeResult]
  have hgroups : ∀ b ∈ buckets,
      Alike P Q Eq (v.answer (p.group b.1.text b.2)) (w.answer (p.group b.1.text b.2)) :=
    fun b hmem => h.group hp b.1.text (hb b hmem)
  refine (Alike.mapM_eq hgroups).bind fun xs ys hxy => .ok ?_
  rw [hxy]

theorem result (h : v.AgreeOn w docs) (hp : p.Accounts v w docs P Q)
    {visits : List (String × DocId)} (hvisits : ∀ x ∈ visits, x.2 ∈ docs) (start : Nat)
    (pageSize : Option Nat) :
    Alike P Q Eq (v.answer (p.result executor start pageSize visits))
      (w.answer (p.result executor start pageSize visits)) := by
  unfold PreparedFacet.result
  cases p.definition.mode with
  | terms =>
    refine h.termResult hp (fun b hb => ?_) start pageSize
    rw [entries_termBuckets] at hb
    obtain ⟨t, -, rfl⟩ := List.mem_map.mp hb
    exact Bucket.mem_docs_ofPairs hvisits
  | ranges =>
    refine h.rangeResult hp fun b hb => ?_
    obtain ⟨r, -, rfl⟩ := List.mem_map.mp hb
    rw [rangeBucket_eq]
    exact Bucket.mem_docs_ofPairs hvisits

/-- Two tables under one field, with the same terms of the matched documents. -/
def SameTerms (docs : DocSet) (a b : String × TermTable) : Prop :=
  a.1 = b.1 ∧ ∀ d ∈ docs, a.2.terms d = b.2.terms d

theorem visits_of_tables {tables tables' : List (String × TermTable)}
    (h : List.Forall₂ (SameTerms docs) tables tables') :
    p.visits tables docs = p.visits tables' docs := by
  unfold PreparedFacet.visits
  induction h with
  | nil => rfl
  | @cons a b rest rest' hab _ ih =>
    obtain ⟨name, t⟩ := a
    obtain ⟨name', u⟩ := b
    obtain ⟨hname, hterms⟩ := hab
    dsimp only at hname hterms
    subst hname
    rw [List.lookup_cons, List.lookup_cons]
    cases p.definition.name == name with
    | true => exact TermTable.visits_congr hterms
    | false => exact ih

theorem mem_of_mem_visits {tables : List (String × TermTable)} {x : String × DocId}
    (hx : x ∈ p.visits tables docs) : x.2 ∈ docs := by
  unfold PreparedFacet.visits at hx
  split at hx
  · exact TermTable.mem_of_mem_visits hx
  · cases hx

theorem named (h : v.AgreeOn w docs) {prepared : List PreparedFacet}
    (hp : ∀ p ∈ prepared, p.Accounts v w docs P Q) {tables tables' : List (String × TermTable)}
    (ht : List.Forall₂ (SameTerms docs) tables tables') :
    Alike P Q Eq (v.answer (executor.named request prepared docs tables))
      (w.answer (executor.named request prepared docs tables')) := by
  rw [answer_named, answer_named]
  have hresults : ∀ p ∈ prepared, Alike P Q Eq
      (v.answer (p.result executor request.start request.pageSize (p.visits tables docs)) >>=
        fun result => (pure (p.definition.name, result) : Except Error _))
      (w.answer (p.result executor request.start request.pageSize (p.visits tables' docs)) >>=
        fun result => pure (p.definition.name, result)) := by
    intro p hmem
    rw [← visits_of_tables ht]
    refine (h.result (hp p hmem) (fun x => mem_of_mem_visits) _ _).bind fun r s hrs => .ok ?_
    rw [hrs]
  refine (Alike.mapM_eq hresults).bind fun rs ss hrs => .ok ?_
  rw [hrs]

theorem execute (h : v.AgreeOn w docs) (hv : v.search request.search = .ok docs)
    (hw : w.search request.search = .ok docs) (now later : Nat) :
    Alike (v.Obstructs docs executor request) (w.Obstructs docs executor request) Eq
      (v.answer (executor.execute request now)) (w.answer (executor.execute request later)) := by
  rw [answer_execute, answer_execute, hv, hw]
  cases hprepared : request.facets.mapM fun d => d.prepare executor.declared with
  | error e => exact .error e
  | ok prepared =>
    have haccounts : ∀ p ∈ prepared, p.Accounts v w docs (v.Obstructs docs executor request)
        (w.Obstructs docs executor request) := by
      intro p hmem
      obtain ⟨d, hd, hp⟩ := exists_mem_of_mapM_eq_ok hprepared hmem
      obtain ⟨-, hnumbers, -⟩ := prepare_eq_ok hp
      constructor <;>
      · intro field type hsome hhides
        rw [hsome] at hnumbers
        exact ⟨d, hd, field, type, hnumbers, hhides⟩
    have htables : ∀ field ∈ FacetExecutor.fields prepared,
        Alike (v.Obstructs docs executor request) (w.Obstructs docs executor request) (SameTerms docs)
          (v.answer (Session.termTable field) >>= fun t => (pure (field, t) : Except Error _))
          (w.answer (Session.termTable field) >>= fun t => pure (field, t)) :=
      fun field _ => (h.termTable field).bind fun t u htu => .ok ⟨rfl, htu⟩
    exact (Alike.mapM htables).bind fun _ _ ht => h.named haccounts ht

end View.AgreeOn

/-- Only matched documents show.  Two views that give one answer to a search and agree on the
documents in it give one result or failure to a request for facets of that search.  The exception
is a term that does not decode, which an unmatched document has in a field whose numbers the
request aggregates: where there is such a term, reading it may fail the request. -/
theorem execute_of_agreeOn (number other now later : Nat) (h : v.AgreeOn w docs)
    (hv : v.search request.search = .ok docs) (hw : w.search request.search = .ok docs) :
    let first := ((Generation.ofView number v).run (executor.execute request now)).1
    let second := ((Generation.ofView other w).run (executor.execute request later)).1
    first = second ∨
      (v.Obstructs docs executor request ∧ ∃ e, first = .error e ∧ e.kind = .parse) ∨
      (w.Obstructs docs executor request ∧ ∃ e, second = .error e ∧ e.kind = .parse) := by
  intro first second
  have hfirst : first = v.answer (executor.execute request now) :=
    (Session.Transparent.closed.execute executor request now _ (.ofView number v)).1
  have hsecond : second = w.answer (executor.execute request later) :=
    (Session.Transparent.closed.execute executor request later _ (.ofView other w)).1
  have halike : Alike (v.Obstructs docs executor request) (w.Obstructs docs executor request) Eq
      (v.answer (executor.execute request now)) (w.answer (executor.execute request later)) :=
    h.execute hv hw now later
  rw [← hfirst, ← hsecond] at halike
  generalize first = x at halike ⊢
  generalize second = y at halike ⊢
  cases halike with
  | ok hresults => exact .inl (congrArg Except.ok hresults)
  | error e => exact .inl rfl
  | left hp he y => exact .inr (.inl ⟨hp, _, rfl, he⟩)
  | right hq x he => exact .inr (.inr ⟨hq, _, rfl, he⟩)

/-! ## The shelf again -/

/-- The shelf with another colour and price of the document that the search does not match. -/
def shelfHolding (color price : String) : View where
  maxDoc := 3
  fields := shelf.fields
  search := shelf.search
  scan field :=
    if field = "color" then .ok [("blue", 0), (color, 1), ("blue", 2), ("red", 0)]
    else .ok [("i80000003", 0), (price, 1), ("i80000028", 2)]
  read := shelf.read
  close := shelf.close

theorem bounded_shelfHolding (color price : String) : (shelfHolding color price).Bounded := by
  intro field pairs hscan x hx
  have hdocs : x.2 = 0 ∨ x.2 = 1 ∨ x.2 = 2 := by
    unfold shelfHolding at hscan
    dsimp only at hscan
    split at hscan <;>
    · cases hscan
      simp only [List.mem_cons, List.not_mem_nil, or_false] at hx
      rcases hx with rfl | rfl | rfl | rfl <;> simp
  have hlimit : (shelfHolding color price).maxDoc.toNat = 3 := rfl
  rcases hdocs with h | h | h <;> rw [h, hlimit] <;> decide

theorem agreeOn_shelfHolding (color price color' price' : String) :
    (shelfHolding color price).AgreeOn (shelfHolding color' price') (SortedSet.ofList [0, 2]) := by
  refine ⟨bounded_shelfHolding _ _, bounded_shelfHolding _ _, fun field => ?_⟩
  unfold shelfHolding
  dsimp only
  split <;> rfl

/-- What the unmatched document costs makes no difference as long as it is a number. -/
theorem execute_repriced :
    let executor : FacetExecutor := { maxPageSize := 10, declared := fun _ => some .int }
    let run (v : View) := ((Generation.ofView 0 v).run (executor.execute shelfRequest 0)).1
    run (shelfHolding "blue" "i80000028") = .ok shelfResults ∧
      run (shelfHolding "green" "i80000063") = .ok shelfResults := by
  intro executor run
  have hfirst : run (shelfHolding "blue" "i80000028") = .ok shelfResults := by decide +kernel
  refine ⟨hfirst, ?_⟩
  have hreadable :
      ¬ (shelfHolding "green" "i80000063").Obstructs (SortedSet.ofList [0, 2]) executor
        shelfRequest := by
    rintro ⟨d, hd, field, type, hnumbers, pairs, hscan, x, hx, hout, hdecode⟩
    have hsource : d.numbers executor.declared = .ok (some ("price_Range", .int)) := by
      simp only [shelfRequest, List.mem_cons, List.not_mem_nil, or_false] at hd
      rcases hd with rfl | rfl <;> rfl
    obtain ⟨rfl, rfl⟩ :=
      Prod.mk.inj (Option.some.inj (Except.ok.inj (hsource.symm.trans hnumbers)))
    cases hscan
    simp only [List.mem_cons, List.not_mem_nil, or_false] at hx
    rcases hx with rfl | rfl | rfl
    · exact hout (SortedSet.contains_iff.mp rfl)
    · exact hdecode (Binary.ofInt 99) (by decide +kernel)
    · exact hout (SortedSet.contains_iff.mp rfl)
  rcases execute_of_agreeOn 0 0 0 0 (agreeOn_shelfHolding "blue" "i80000028" "green" "i80000063")
    rfl rfl with heq | ⟨-, e, he, -⟩ | ⟨hobstructs, -⟩
  · exact heq.symm.trans hfirst
  · exact absurd (hfirst.symm.trans he) (by simp)
  · exact absurd hobstructs hreadable

/-- A price of the unmatched document that does not decode fails the request. -/
theorem unmatched_told :
    let executor : FacetExecutor := { maxPageSize := 10, declared := fun _ => some .int }
    let v := shelfHolding "blue" "i80000028"
    let w := shelfHolding "blue" "cheap"
    let docs : DocSet := SortedSet.ofList [0, 2]
    v.maxDoc = w.maxDoc ∧ v.AgreeOn w docs ∧
      v.search shelfRequest.search = .ok docs ∧ w.search shelfRequest.search = .ok docs ∧
      ((Generation.ofView 0 v).run (executor.execute shelfRequest 0)).1 ≠
        ((Generation.ofView 0 w).run (executor.execute shelfRequest 0)).1 := by
  intro executor v w docs
  refine ⟨rfl, agreeOn_shelfHolding _ _ _ _, rfl, rfl, ?_⟩
  decide +kernel

end FacetedSearch
