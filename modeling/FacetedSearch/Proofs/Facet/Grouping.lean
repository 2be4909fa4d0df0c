import FacetedSearch.Proofs.TermTable
import FacetedSearch.Facet.Bucket
import Mathlib.Data.List.Induction

/-!
# FacetedSearch.Proofs.Facet.Grouping — buckets are counts

A visit of the term table walks the matched documents one by one; the pairs of a field come term by
term.  Both lists have the same pairs the same number of times (`visits_perm`), and a bucket counts
pairs and collects their documents, so it is the same from either (`Bucket.ofPairs_perm`).
-/

namespace FacetedSearch

open List (Perm)

/-- The visited pairs whose document is in a set. -/
def matchedPairs (pairs : List (String × DocId)) (docs : DocSet) : List (String × DocId) :=
  pairs.filter fun x => docs.contains x.2

theorem mem_matchedPairs {pairs : List (String × DocId)} {docs : DocSet} {x : String × DocId} :
    x ∈ matchedPairs pairs docs ↔ x ∈ pairs ∧ x.2 ∈ docs := by
  rw [matchedPairs, List.mem_filter, SortedSet.contains_iff]

/-- The bucket of the pairs whose term passes a test: a hit for each, and their distinct documents
where they are kept. -/
def Bucket.ofPairs (keep : Bool) (pairs : List (String × DocId)) (p : String → Bool) : Bucket where
  hits := pairs.countP fun x => p x.1
  docs := if keep then SortedSet.ofList ((pairs.filter fun x => p x.1).map Prod.snd) else ∅

/-- The group of each term of some pairs, in ascending order of terms. -/
def termGroups (keep : Bool) (pairs : List (String × DocId)) : List (String × Bucket) :=
  (SortedSet.ofList (pairs.map Prod.fst)).toList.map fun t =>
    (t, Bucket.ofPairs keep pairs fun s => decide (s = t))

/-! ## Visits are the matched pairs in another order -/

theorem visitedTerms_map (pairs : List (String × DocId)) (d : DocId) :
    (visitedTerms pairs d).map (fun term => (term, d)) =
      pairs.filter fun x => decide (x.2 = d) := by
  rw [visitedTerms, List.map_map]
  refine (List.map_congr_left fun x hx => ?_).trans (List.map_id _)
  have hd : x.2 = d := of_decide_eq_true (List.mem_filter.mp hx).2
  rw [← hd]
  rfl

/-- Taking the pairs document by document reaches each of them once. -/
theorem flatMap_filter_perm (pairs : List (String × DocId)) {docs : List DocId}
    (hn : docs.Nodup) :
    Perm (docs.flatMap fun d => pairs.filter fun x => decide (x.2 = d))
      (pairs.filter fun x => decide (x.2 ∈ docs)) := by
  induction docs with
  | nil => simp
  | cons d rest ih =>
    rw [List.nodup_cons] at hn
    rw [List.flatMap_cons]
    have hsplit := List.filter_append_perm (fun x => decide (x.2 = d))
      (pairs.filter fun x => decide (x.2 ∈ d :: rest))
    rw [List.filter_filter, List.filter_filter] at hsplit
    have hhead : (pairs.filter fun x => decide (x.2 = d) && decide (x.2 ∈ d :: rest)) =
        pairs.filter fun x => decide (x.2 = d) := by
      refine List.filter_congr fun x _ => ?_
      by_cases h : x.2 = d <;> simp [h]
    have htail : (pairs.filter fun x => !decide (x.2 = d) && decide (x.2 ∈ d :: rest)) =
        pairs.filter fun x => decide (x.2 ∈ rest) := by
      refine List.filter_congr fun x _ => ?_
      by_cases h : x.2 = d
      · simp [h, hn.1]
      · simp [h]
    rw [hhead, htail] at hsplit
    exact (Perm.append_left _ (ih hn.2)).trans hsplit

theorem TermTable.visits_perm {field : String} {limit : DocId} {pairs : List (String × DocId)}
    {table : TermTable} (h : TermTable.ofPairs field limit pairs = .ok table) (docs : DocSet) :
    Perm (table.visits docs) (matchedPairs pairs docs) := by
  have hn : docs.toList.Nodup := docs.ascending.imp SortKey.before_ne
  have hv : table.visits docs =
      docs.toList.flatMap fun d => pairs.filter fun x => decide (x.2 = d) := by
    refine congrArg (List.flatMap · docs.toList) (funext fun d => ?_)
    rw [TermTable.terms_ofPairs h, visitedTerms_map]
  rw [hv]
  exact flatMap_filter_perm pairs hn

/-! ## Buckets count -/

namespace Bucket

theorem ofPairs_perm {visits pairs : List (String × DocId)} (h : Perm visits pairs) (keep : Bool)
    (p : String → Bool) : ofPairs keep visits p = ofPairs keep pairs p := by
  have hdocs : SortedSet.ofList ((visits.filter fun x => p x.1).map Prod.snd) =
      SortedSet.ofList ((pairs.filter fun x => p x.1).map Prod.snd) := by
    refine SortedSet.ext_mem fun d => ?_
    rw [SortedSet.mem_ofList, SortedSet.mem_ofList]
    exact ((h.filter _).map _).mem_iff
  rw [ofPairs, ofPairs, h.countP_eq, hdocs]

/-- One more pair is one more visit, if it passes the test. -/
theorem ofPairs_append (keep : Bool) (pairs : List (String × DocId)) (x : String × DocId)
    (p : String → Bool) : ofPairs keep (pairs ++ [x]) p =
      if p x.1 then (ofPairs keep pairs p).add keep x.2 else ofPairs keep pairs p := by
  by_cases h : p x.1 = true
  · have hdocs : SortedSet.ofList ((pairs.filter fun y => p y.1).map Prod.snd ++ [x.2]) =
        (SortedSet.ofList ((pairs.filter fun y => p y.1).map Prod.snd)).insert x.2 := by
      refine SortedSet.ext_mem fun d => ?_
      simp [or_comm]
    cases keep <;> simp [ofPairs, add, h, hdocs]
  · simp [ofPairs, h]

/-- Nothing is counted where no term passes the test. -/
theorem ofPairs_of_not_mem (keep : Bool) {pairs : List (String × DocId)} {t : String}
    (h : t ∉ pairs.map Prod.fst) : ofPairs keep pairs (fun s => decide (s = t)) = {} := by
  have hnone : pairs.filter (fun x => decide (x.1 = t)) = [] := by
    refine List.filter_eq_nil_iff.mpr fun x hx => ?_
    rw [decide_eq_true_iff]
    rintro rfl
    exact h (List.mem_map_of_mem hx)
  rw [ofPairs, List.countP_eq_length_filter, hnone]
  cases keep <;> rfl

/-- The documents of a bucket of matched pairs are the matched ones with a term that passes. -/
theorem docs_matchedPairs (pairs : List (String × DocId)) (docs : DocSet) (p : String → Bool) :
    (ofPairs true (matchedPairs pairs docs) p).docs =
      docs.filter fun id => (visitedTerms pairs id).any p := by
  apply SortedSet.ext_mem
  intro id
  show id ∈ SortedSet.ofList _ ↔ _
  rw [SortedSet.mem_ofList, SortedSet.mem_filter, List.mem_map, List.any_eq_true]
  constructor
  · rintro ⟨⟨term, _⟩, hx, rfl⟩
    obtain ⟨hmatched, hp⟩ := List.mem_filter.mp hx
    obtain ⟨hpair, hid⟩ := mem_matchedPairs.mp hmatched
    exact ⟨hid, term, mem_visitedTerms.mpr hpair, hp⟩
  · rintro ⟨hid, term, hterm, hp⟩
    have hmatched := mem_matchedPairs.mpr ⟨mem_visitedTerms.mp hterm, hid⟩
    exact ⟨(term, id), List.mem_filter.mpr ⟨hmatched, hp⟩, rfl⟩

end Bucket

theorem rangeBucket_eq (keep : Bool) (visits : List (String × DocId)) (r : TermRange) :
    rangeBucket keep visits r = Bucket.ofPairs keep visits r.contains := by
  induction visits using List.reverseRecOn with
  | nil => cases keep <;> rfl
  | append_singleton visits x ih =>
    rw [rangeBucket, List.foldl_append, Bucket.ofPairs_append, ← ih]
    rfl

theorem get?_termBuckets (keep : Bool) (visits : List (String × DocId)) (t : String) :
    (termBuckets keep visits).get? t =
      if t ∈ visits.map Prod.fst then some (Bucket.ofPairs keep visits fun s => decide (s = t))
      else none := by
  induction visits using List.reverseRecOn with
  | nil => rfl
  | append_singleton visits x ih =>
    have hstep : termBuckets keep (visits ++ [x]) =
        (termBuckets keep visits).alter x.1 fun b => (b.getD {}).add keep x.2 := by
      rw [termBuckets, List.foldl_append]
      rfl
    rw [hstep, SortedMap.get?_alter, Bucket.ofPairs_append]
    by_cases h : t = x.1
    · subst h
      have hmem : x.1 ∈ (visits ++ [x]).map Prod.fst := List.mem_map_of_mem (by simp)
      have hformer : ((termBuckets keep visits).get? x.1).getD {} =
          Bucket.ofPairs keep visits fun s => decide (s = x.1) := by
        rw [ih]
        split
        · rfl
        · rename_i hm
          rw [Bucket.ofPairs_of_not_mem keep hm]
          rfl
      rw [if_pos rfl, if_pos hmem, hformer]
      simp
    · have hmem : t ∈ (visits ++ [x]).map Prod.fst ↔ t ∈ visits.map Prod.fst := by
        rw [List.map_append, List.mem_append, List.map_singleton, List.mem_singleton]
        exact or_iff_left h
      have hne : ¬ decide (x.1 = t) = true := by simpa using Ne.symm h
      rw [if_neg h, ih, if_neg hne]
      simp only [hmem]

/-- There is a group for each visited term and for no other. -/
theorem entries_termBuckets (keep : Bool) (visits : List (String × DocId)) :
    (termBuckets keep visits).entries = termGroups keep visits := by
  refine SortedMap.eq_of_mem_iff (termBuckets keep visits).ascending ?_ fun ⟨t, b⟩ => ?_
  · exact List.pairwise_map.mpr (SortedSet.ofList (visits.map Prod.fst)).ascending
  · rw [← SortedMap.get?_eq_some_iff, get?_termBuckets]
    constructor
    · intro h
      split at h
      · rename_i ht
        exact List.mem_map.mpr ⟨t, SortedSet.mem_ofList.mpr ht, by rw [Option.some.inj h]⟩
      · cases h
    · intro h
      obtain ⟨s, hs, he⟩ := List.mem_map.mp h
      obtain ⟨rfl, rfl⟩ := Prod.mk.inj he
      rw [if_pos (SortedSet.mem_ofList.mp hs)]

theorem termGroups_perm {visits pairs : List (String × DocId)} (h : Perm visits pairs)
    (keep : Bool) : termGroups keep visits = termGroups keep pairs := by
  have hterms : SortedSet.ofList (visits.map Prod.fst) = SortedSet.ofList (pairs.map Prod.fst) := by
    refine SortedSet.ext_mem fun t => ?_
    rw [SortedSet.mem_ofList, SortedSet.mem_ofList, (h.map Prod.fst).mem_iff]
  rw [termGroups, termGroups, hterms]
  refine List.map_congr_left fun t _ => ?_
  rw [Bucket.ofPairs_perm h]

end FacetedSearch
