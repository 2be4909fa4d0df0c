import FacetedSearch.Proofs.Index.Content
import FacetedSearch.View

/-!
# FacetedSearch.Proofs.Index.Search — a search asks each document alone

`Document.meets` tells from a document alone whether it meets a query.  A search, which sees term
lists only, gives the documents with a value that do: on an index that lists some documents one of
them is found exactly if it meets the query (`Lists.mem_search_iff`), by induction on the query, and
what is found has a value (`mem_allDocs_of_mem_search`).  The main result is `search_ofDocuments`.
-/

namespace FacetedSearch

open SortKey (Before cmpList)

/-! ## Queries asked of one document -/

/-- To show something of every query, show it of a combined query whose clauses all have it. -/
@[elab_as_elim]
theorem Query.induction {motive : Query → Prop} (all : motive .all)
    (term : ∀ field value, motive (.term field value))
    (startsWith : ∀ field start, motive (.startsWith field start))
    (range : ∀ field r, motive (.range field r))
    (bool : ∀ must should mustNot, (∀ q ∈ must, motive q) → (∀ q ∈ should, motive q) →
      (∀ q ∈ mustNot, motive q) → motive (.bool must should mustNot)) (q : Query) : motive q :=
  @Query.rec motive (fun qs => ∀ q ∈ qs, motive q) all term startsWith range bool
    (fun _ hq => absurd hq List.not_mem_nil)
    (fun _ _ hq hqs _ hm => (List.mem_cons.mp hm).elim (fun e => e ▸ hq) (hqs _)) q

namespace Document

mutual

/-- Whether a document meets a query.  A combined query asks for every required clause, for an
optional one if there are some and none is required, and for no excluded one. -/
def meets (d : Document) : Query → Bool
  | .all => true
  | .term field value => (d.terms field).contains value
  | .startsWith field start => (d.terms field).any fun t => start.toList.isPrefixOf t.toList
  | .range field r => (d.terms field).any r.contains
  | .bool must should mustNot =>
    d.meetsAll must && (!must.isEmpty || should.isEmpty || d.meetsSome should) &&
      !d.meetsSome mustNot

/-- Whether a document meets each of some queries. -/
def meetsAll (d : Document) : List Query → Bool
  | [] => true
  | q :: qs => d.meets q && d.meetsAll qs

/-- Whether a document meets one of some queries. -/
def meetsSome (d : Document) : List Query → Bool
  | [] => false
  | q :: qs => d.meets q || d.meetsSome qs

end

variable {d : Document} {qs : List Query}

theorem meetsAll_iff : d.meetsAll qs = true ↔ ∀ q ∈ qs, d.meets q = true := by
  induction qs with
  | nil => simp [meetsAll]
  | cons q qs ih => simp [meetsAll, ih]

theorem meetsSome_iff : d.meetsSome qs = true ↔ ∃ q ∈ qs, d.meets q = true := by
  induction qs with
  | nil => simp [meetsSome]
  | cons q qs ih => simp [meetsSome, ih]

theorem meets_bool_iff {must should mustNot : List Query} :
    d.meets (.bool must should mustNot) = true ↔
      (∀ q ∈ must, d.meets q = true) ∧
      (must ≠ [] ∨ should = [] ∨ ∃ q ∈ should, d.meets q = true) ∧
      ∀ q ∈ mustNot, ¬ d.meets q = true := by
  have hnone : d.meetsSome mustNot = false ↔ ∀ q ∈ mustNot, ¬ d.meets q = true := by
    rw [← Bool.not_eq_true, meetsSome_iff]
    push Not
    rfl
  rw [meets, Bool.and_eq_true, Bool.and_eq_true, meetsAll_iff, Bool.not_eq_true', hnone]
  simp [meetsSome_iff, or_assoc, and_assoc]

end Document

/-! ## Terms that start alike stand side by side -/

section Runs

variable {α : Type}

theorem not_before_of_isPrefix [SortKey α] {s t : List α} (h : s <+: t) : ¬ Before t s := by
  induction s generalizing t with
  | nil => cases t <;> simp [Before, SortKey.cmp, cmpList]
  | cons a s ih =>
    obtain ⟨t, rfl⟩ := h
    intro hb
    rcases SortKey.cmpList_cons_lt_iff.mp hb with hlt | ⟨-, hlt⟩
    · exact SortKey.not_before_self a hlt
    · exact ih (List.prefix_append s t) hlt

/-- What stands between a start and a list that starts so starts so too. -/
theorem isPrefix_of_between [SortKey α] {s t u : List α} (hs : ¬ Before t s) (hu : Before t u)
    (h : s <+: u) : s <+: t := by
  induction s generalizing t u with
  | nil => exact List.nil_prefix
  | cons a s ih =>
    obtain ⟨u, rfl⟩ := h
    cases t with
    | nil => exact absurd rfl hs
    | cons b t =>
      rw [Before, SortKey.cmp, SortKey.listKey, SortKey.cmpList_cons_lt_iff, not_or] at hs
      rcases SortKey.cmpList_cons_lt_iff.mp hu with hlt | ⟨rfl, hlt⟩
      · exact absurd hlt hs.1
      · have hst : s <+: t := ih (fun hb => hs.2 ⟨rfl, hb⟩) hlt (List.prefix_append s u)
        obtain ⟨v, rfl⟩ := hst
        exact ⟨v, rfl⟩

theorem takeWhile_eq_filter {p : α → Bool} {l : List α}
    (h : l.Pairwise fun x y => p y = true → p x = true) : l.takeWhile p = l.filter p := by
  induction l with
  | nil => rfl
  | cons x l ih =>
    rw [List.pairwise_cons] at h
    cases hx : p x with
    | true => rw [List.takeWhile_cons_of_pos hx, List.filter_cons_of_pos hx, ih h.2]
    | false =>
      have hnone : l.filter p = [] := by
        refine List.filter_eq_nil_iff.mpr fun y hy hp => ?_
        rw [h.1 y hy hp] at hx
        cases hx
      rw [List.takeWhile_cons_of_neg (by simp [hx]), List.filter_cons_of_neg (by simp [hx]), hnone]

/-- In a list where nothing behind the `early` ones is early again, those that pass a test are the
run behind the early ones, if the test fails for early ones and lets no gap. -/
theorem takeWhile_dropWhile_eq_filter {early p : α → Bool} {l : List α}
    (hp : ∀ x, p x = true → early x = false)
    (h : l.Pairwise fun x y => early x = false →
      early y = false ∧ (p y = true → p x = true)) :
    (l.dropWhile early).takeWhile p = l.filter p := by
  induction l with
  | nil => rfl
  | cons x l ih =>
    cases hx : early x with
    | true =>
      have hpx : ¬ p x = true := fun hpx => by
        rw [hp x hpx] at hx
        cases hx
      rw [List.dropWhile_cons_of_pos hx, List.filter_cons_of_neg hpx, ih (List.pairwise_cons.mp h).2]
    | false =>
      rw [List.dropWhile_cons_of_neg (by simp [hx])]
      have hlate : ∀ y ∈ x :: l, early y = false := by
        intro y hy
        rcases List.mem_cons.mp hy with rfl | hy
        · exact hx
        · exact ((List.pairwise_cons.mp h).1 y hy hx).1
      exact takeWhile_eq_filter (h.imp_of_mem fun hy _ hR => (hR (hlate _ hy)).2)

end Runs

/-! ## Sets of a combined query -/

namespace SortedSet

variable {κ : Type} [SortKey κ] {s : SortedSet κ} {l : List (SortedSet κ)} {k : κ}

theorem mem_foldl_union : k ∈ l.foldl union s ↔ k ∈ s ∨ ∃ t ∈ l, k ∈ t := by
  induction l generalizing s with
  | nil => simp
  | cons t l ih => simp [ih, or_assoc]

variable [DecidableEq κ]

theorem mem_foldl_inter : k ∈ l.foldl inter s ↔ k ∈ s ∧ ∀ t ∈ l, k ∈ t := by
  induction l generalizing s with
  | nil => simp
  | cons t l ih => simp [ih, and_assoc]

theorem mem_foldl_sdiff : k ∈ l.foldl sdiff s ↔ k ∈ s ∧ ∀ t ∈ l, k ∉ t := by
  induction l generalizing s with
  | nil => simp
  | cons t l ih => simp [ih, and_assoc]

end SortedSet

namespace Index

variable {idx : Index} {docs : List Document} {d : Document} {id : DocId}

theorem mem_combine {all : DocSet} {must should mustNot : List DocSet} (ha : id ∈ all) :
    id ∈ combine all must should mustNot ↔
      (∀ s ∈ must, id ∈ s) ∧ (must ≠ [] ∨ should = [] ∨ ∃ s ∈ should, id ∈ s) ∧
        ∀ s ∈ mustNot, id ∉ s := by
  unfold combine
  rw [SortedSet.mem_foldl_sdiff, ← and_assoc]
  refine and_congr_left fun _ => ?_
  cases must with
  | cons first rest => simp [SortedSet.mem_foldl_inter]
  | nil =>
    cases should with
    | nil => simp [ha]
    | cons first rest =>
      have hempty : id ∉ (∅ : DocSet) := SortedSet.not_mem_empty
      simp [SortedSet.mem_foldl_union, hempty]

theorem mem_of_mem_combine {all : DocSet} {must should mustNot : List DocSet}
    (hm : ∀ s ∈ must, id ∈ s → id ∈ all) (hs : ∀ s ∈ should, id ∈ s → id ∈ all)
    (h : id ∈ combine all must should mustNot) : id ∈ all := by
  unfold combine at h
  rw [SortedSet.mem_foldl_sdiff] at h
  obtain ⟨h, -⟩ := h
  cases must with
  | cons first rest => exact hm first (.head _) (SortedSet.mem_foldl_inter.mp h).1
  | nil =>
    cases should with
    | nil => exact h
    | cons first rest =>
      rcases SortedSet.mem_foldl_union.mp h with hempty | ⟨s, hsm, hid⟩
      · exact absurd hempty SortedSet.not_mem_empty
      · exact hs s hsm hid

/-! ## Term lists of a query -/

theorem mem_docsOfTerms {terms : List (String × DocSet)} :
    id ∈ docsOfTerms terms ↔ ∃ e ∈ terms, id ∈ e.2 := by
  have hmap : docsOfTerms terms = (terms.map Prod.snd).foldl SortedSet.union ∅ := by
    rw [docsOfTerms, List.foldl_map]
  have hempty : id ∉ (∅ : DocSet) := SortedSet.not_mem_empty
  simp only [hmap, SortedSet.mem_foldl_union, hempty, false_or, List.mem_map,
    exists_exists_and_eq_and]

/-- The documents of the terms that pass a test. -/
theorem mem_docsOfTerms_filter (idx : Index) {field : String} {terms : TermDocs}
    (ht : idx.terms? field = some terms) (p : String → Bool) :
    id ∈ docsOfTerms (terms.entries.filter fun e => p e.1) ↔
      ∃ term, p term = true ∧ id ∈ idx.docsOf field term := by
  have hdocs (term : String) : idx.docsOf field term = (terms.get? term).getD ∅ := by
    rw [docsOf, docs?, ht, Option.bind_some]
  rw [mem_docsOfTerms]
  constructor
  · rintro ⟨⟨term, docs⟩, he, hid⟩
    obtain ⟨he, hp⟩ := List.mem_filter.mp he
    refine ⟨term, hp, ?_⟩
    rw [hdocs, SortedMap.get?_eq_some_iff.mpr he]
    exact hid
  · rintro ⟨term, hp, hid⟩
    rw [hdocs] at hid
    cases hg : terms.get? term with
    | none =>
      rw [hg] at hid
      exact absurd hid SortedSet.not_mem_empty
    | some docs =>
      rw [hg] at hid
      exact ⟨(term, docs), List.mem_filter.mpr ⟨SortedMap.get?_eq_some_iff.mp hg, hp⟩, hid⟩

theorem docsOf_of_terms?_none {field : String} (ht : idx.terms? field = none) (term : String) :
    idx.docsOf field term = ∅ := by
  rw [docsOf, docs?, ht]
  rfl

theorem mem_docsInRange {field : String} {r : TermRange} :
    id ∈ idx.docsInRange field r ↔ ∃ term, r.contains term = true ∧ id ∈ idx.docsOf field term := by
  rw [docsInRange]
  cases ht : idx.terms? field with
  | some terms => exact mem_docsOfTerms_filter idx ht r.contains
  | none =>
    have hempty : id ∉ (∅ : DocSet) := SortedSet.not_mem_empty
    simp [docsOf_of_terms?_none ht, hempty]

/-- The terms that start in some way are one run of the ascending terms. -/
theorem run_eq_filter (terms : TermDocs) (start : String) :
    ((terms.entries.dropWhile fun e => decide (Before e.1 start)).takeWhile fun e =>
        start.toList.isPrefixOf e.1.toList) =
      terms.entries.filter fun e => start.toList.isPrefixOf e.1.toList := by
  refine takeWhile_dropWhile_eq_filter (fun e he => ?_) (terms.ascending.imp fun {e f} hef he => ?_)
  · exact decide_eq_false (not_before_of_isPrefix (List.isPrefixOf_iff_prefix.mp he))
  · have hstart : ¬ Before e.1 start := of_decide_eq_false he
    refine ⟨decide_eq_false fun hf => hstart (SortKey.before_trans hef hf), fun hp => ?_⟩
    rw [List.isPrefixOf_iff_prefix] at hp ⊢
    exact isPrefix_of_between hstart hef hp

theorem mem_docsStarting {field start : String} :
    id ∈ idx.docsStarting field start ↔
      ∃ term, start.toList.isPrefixOf term.toList = true ∧ id ∈ idx.docsOf field term := by
  rw [docsStarting]
  cases ht : idx.terms? field with
  | some terms =>
    dsimp only
    rw [run_eq_filter]
    exact mem_docsOfTerms_filter idx ht fun t => start.toList.isPrefixOf t.toList
  | none =>
    have hempty : id ∉ (∅ : DocSet) := SortedSet.not_mem_empty
    simp [docsOf_of_terms?_none ht, hempty]

/-! ## Searching -/

theorem Lists.mem_allDocs_iff (h : idx.Lists docs) :
    id ∈ idx.allDocs ↔ ∃ d ∈ docs, d.id = id ∧ d.values ≠ [] := by
  rw [mem_allDocs, h.taken]

theorem Lists.mem_allDocs_of_posted (h : idx.Lists docs) {field term : String}
    (hid : id ∈ idx.docsOf field term) : id ∈ idx.allDocs := by
  obtain ⟨d, hd, hid, ht⟩ := (h.posted field term id).mp hid
  exact h.mem_allDocs_iff.mpr ⟨d, hd, hid, Document.values_ne_nil_of_mem_terms ht⟩

theorem Lists.mem_allDocs_of_mem_search (h : idx.Lists docs) (q : Query)
    (hid : id ∈ idx.search q) : id ∈ idx.allDocs := by
  induction q using Query.induction with
  | all => rwa [search] at hid
  | term field value =>
    rw [search] at hid
    exact h.mem_allDocs_of_posted hid
  | startsWith field start =>
    rw [search, mem_docsStarting] at hid
    obtain ⟨term, -, hid⟩ := hid
    exact h.mem_allDocs_of_posted hid
  | range field r =>
    rw [search, mem_docsInRange] at hid
    obtain ⟨term, -, hid⟩ := hid
    exact h.mem_allDocs_of_posted hid
  | bool must should mustNot hm hs _ =>
    rw [search, searchEach_eq_map, searchEach_eq_map, searchEach_eq_map] at hid
    exact mem_of_mem_combine (by simpa using hm) (by simpa using hs) hid

/-- A document with a value is found exactly if it meets the query. -/
theorem Lists.mem_search_iff (h : idx.Lists docs) (hd : d ∈ docs) (hv : d.values ≠ [])
    (q : Query) : d.id ∈ idx.search q ↔ d.meets q = true := by
  have hall : d.id ∈ idx.allDocs := h.mem_allDocs_iff.mpr ⟨d, hd, rfl, hv⟩
  induction q using Query.induction with
  | all => simp [search, Document.meets, hall]
  | term field value =>
    rw [search, Document.meets, List.contains_iff_mem]
    exact h.docsOf_iff hd hv field value
  | startsWith field start =>
    simp [search, Document.meets, mem_docsStarting, h.docsOf_iff hd hv, and_comm]
  | range field r =>
    simp [search, Document.meets, mem_docsInRange, h.docsOf_iff hd hv, and_comm]
  | bool must should mustNot hm hs hn =>
    rw [search, searchEach_eq_map, searchEach_eq_map, searchEach_eq_map, mem_combine hall,
      Document.meets_bool_iff]
    have hmust : (∀ q ∈ must, d.id ∈ idx.search q) ↔ ∀ q ∈ must, d.meets q = true :=
      forall₂_congr hm
    have hshould : (∃ q ∈ should, d.id ∈ idx.search q) ↔ ∃ q ∈ should, d.meets q = true :=
      exists_congr fun q => and_congr_right (hs q)
    have hnot : (∀ q ∈ mustNot, d.id ∉ idx.search q) ↔ ∀ q ∈ mustNot, ¬ d.meets q = true :=
      forall₂_congr fun q hq => not_congr (hn q hq)
    simp only [List.mem_map, exists_exists_and_eq_and, forall_exists_index, and_imp,
      forall_apply_eq_imp_iff₂, ne_eq, List.map_eq_nil_iff, hmust, hshould, hnot]

end Index

/-- A search gives exactly the numbers of the documents that have a value and meet the query, each
document asked alone, whatever the query is and however long the search may take. -/
theorem search_ofDocuments {docs : List Document} {idx : Index}
    (h : Index.ofDocuments docs = .ok idx) (request : SearchRequest) :
    (View.ofIndex idx).search request = .ok (SortedSet.ofList
      ((docs.filter fun d => !d.values.isEmpty && d.meets request.query).map Document.id)) := by
  have hlists := Index.lists_of_ofDocuments h
  refine congrArg Except.ok (SortedSet.ext_mem fun id => ?_)
  rw [SortedSet.mem_ofList, List.mem_map]
  constructor
  · intro hid
    obtain ⟨d, hd, rfl, hv⟩ :=
      hlists.mem_allDocs_iff.mp (hlists.mem_allDocs_of_mem_search request.query hid)
    refine ⟨d, List.mem_filter.mpr ⟨hd, ?_⟩, rfl⟩
    rw [(hlists.mem_search_iff hd hv request.query).mp hid]
    simpa using hv
  · rintro ⟨d, hd, rfl⟩
    obtain ⟨hd, hm⟩ := List.mem_filter.mp hd
    rw [Bool.and_eq_true] at hm
    exact (hlists.mem_search_iff hd (by simpa using hm.1) request.query).mpr hm.2

/-! ## A fruit stall -/

/-- Three kinds of fruit, each with how many there are, and a document without a value. -/
def fruit : List Document := [
  { id := 7, fields := [("name", [.text "apricot"]), ("count", [.number (.int 8)])] },
  { id := 2, fields := [("name", [])] },
  { id := 0, fields := [("name", [.text "apple"]), ("count", [.number (.int (-3))])] },
  { id := 2, fields := [("name", [.text "banana", .text "plantain"])] }]

/-- Whatever starts with `ap` or is a plantain, without what is owed. -/
def inStock : Query :=
  .bool [.bool [] [.startsWith "name" "ap", .term "name" "plantain"] []] [.term "name" "apple"]
    [.range "count_Range" { field := "count_Range", text := "[* TO 0]", low := none
                            high := some "i80000000", lowInclusive := false, highInclusive := false }]

theorem search_fruit : ∃ idx, Index.ofDocuments fruit = .ok idx ∧
    (View.ofIndex idx).search { query := inStock } = .ok (SortedSet.ofList [2, 7]) := by
  have hok : (Index.ofDocuments fruit).isOk = true := by decide +kernel
  cases h : Index.ofDocuments fruit with
  | error e =>
    rw [h] at hok
    cases hok
  | ok idx =>
    refine ⟨idx, rfl, (search_ofDocuments h { query := inStock }).trans ?_⟩
    decide +kernel

end FacetedSearch
