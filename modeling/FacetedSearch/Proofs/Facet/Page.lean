import FacetedSearch.Facet.Page
import Mathlib.Data.List.Induction

/-!
# FacetedSearch.Proofs.Facet.Page — ordering and cutting lose no group

Ordering puts each group into its place and drops none (`sort_perm`).  Groups of distinct terms
have one order, whichever way they come (`eq_sort_iff`).  A page is a slice of the order, and what
is counted as left is what stands behind it (`ofSorted_eq`).
-/

namespace FacetedSearch

open List (Perm)
open SortKey (Before cmpNat cmpNat_eq_iff cmpNat_lt_iff cmpNat_swap)

namespace TermOrder

variable (order : TermOrder)

theorem place_perm (a : String × Bucket) (l : List (String × Bucket)) :
    Perm (order.place a l) (a :: l) := by
  induction l with
  | nil => exact Perm.refl _
  | cons b rest ih =>
    rw [place]
    split
    · exact Perm.refl _
    · exact (ih.cons b).trans (.swap a b rest)

theorem sort_concat (groups : List (String × Bucket)) (a : String × Bucket) :
    order.sort (groups ++ [a]) = order.place a (order.sort groups) := by
  rw [sort, List.foldl_append]
  rfl

theorem sort_perm (groups : List (String × Bucket)) : Perm (order.sort groups) groups := by
  induction groups using List.reverseRecOn with
  | nil => exact Perm.refl _
  | append_singleton groups a ih =>
    rw [sort_concat]
    exact (order.place_perm a _).trans
      ((ih.cons a).trans (List.perm_append_singleton a groups).symm)

/-! ## One order -/

/-- One group stands ahead of another: by their terms, or by their hits and, where those are equal,
in ascending order of their terms. -/
def Precedes (a b : String × Bucket) : Prop :=
  match order with
  | .termAscending => Before a.1 b.1
  | .termDescending => Before b.1 a.1
  | .hitsAscending => a.2.hits < b.2.hits ∨ a.2.hits = b.2.hits ∧ Before a.1 b.1
  | .hitsDescending => b.2.hits < a.2.hits ∨ a.2.hits = b.2.hits ∧ Before a.1 b.1

instance decidablePrecedes (a b : String × Bucket) : Decidable (order.Precedes a b) :=
  match order with
  | .termAscending => inferInstanceAs (Decidable (Before a.1 b.1))
  | .termDescending => inferInstanceAs (Decidable (Before b.1 a.1))
  | .hitsAscending =>
    inferInstanceAs (Decidable (a.2.hits < b.2.hits ∨ a.2.hits = b.2.hits ∧ Before a.1 b.1))
  | .hitsDescending =>
    inferInstanceAs (Decidable (b.2.hits < a.2.hits ∨ a.2.hits = b.2.hits ∧ Before a.1 b.1))

variable {order} {a b c : String × Bucket}

theorem cmpNat_gt_iff {m n : Nat} : cmpNat m n = .gt ↔ n < m := by
  rw [← cmpNat_lt_iff, ← cmpNat_swap m n, Ordering.swap_eq_lt]

/-- The comparison of groups is by the order; hits never decide between distinct terms that are
compared first. -/
theorem cmp_eq_gt_iff (hne : a.1 ≠ b.1) : order.cmp b a = .gt ↔ order.Precedes a b := by
  have hterm {s t : String} (h : s ≠ t) {o : Ordering} :
      ((SortKey.cmp s t).then o) = .gt ↔ Before t s := by
    rw [Ordering.then_eq_gt, SortKey.cmp_eq_iff, SortKey.cmp_gt_iff]
    simp [h]
  unfold cmp Precedes
  cases order with
  | termAscending => exact hterm hne.symm
  | termDescending => exact hterm hne
  | hitsAscending =>
    dsimp only
    rw [Ordering.then_eq_gt, cmpNat_gt_iff, cmpNat_eq_iff, SortKey.cmp_gt_iff, eq_comm]
  | hitsDescending =>
    dsimp only
    rw [Ordering.then_eq_gt, cmpNat_gt_iff, cmpNat_eq_iff, SortKey.cmp_gt_iff]

theorem Precedes.trans (h : order.Precedes a b) (h' : order.Precedes b c) : order.Precedes a c := by
  unfold Precedes at *
  cases order with
  | termAscending => exact SortKey.before_trans h h'
  | termDescending => exact SortKey.before_trans h' h
  | hitsAscending =>
    rcases h with h | ⟨he, h⟩ <;> rcases h' with h' | ⟨he', h'⟩
    · exact .inl (by omega)
    · exact .inl (by omega)
    · exact .inl (by omega)
    · exact .inr ⟨he.trans he', SortKey.before_trans h h'⟩
  | hitsDescending =>
    rcases h with h | ⟨he, h⟩ <;> rcases h' with h' | ⟨he', h'⟩
    · exact .inl (by omega)
    · exact .inl (by omega)
    · exact .inl (by omega)
    · exact .inr ⟨he.trans he', SortKey.before_trans h h'⟩

theorem Precedes.asymm (h : order.Precedes a b) : ¬ order.Precedes b a := by
  intro h'
  have hself := h.trans h'
  unfold Precedes at hself
  cases order with
  | termAscending | termDescending => exact SortKey.not_before_self _ hself
  | hitsAscending | hitsDescending =>
    rcases hself with hlt | ⟨-, hbefore⟩
    · exact Nat.lt_irrefl _ hlt
    · exact SortKey.not_before_self _ hbefore

/-- Of two groups of distinct terms one stands ahead of the other. -/
theorem precedes_or (hne : a.1 ≠ b.1) : order.Precedes a b ∨ order.Precedes b a := by
  have hterms : Before a.1 b.1 ∨ Before b.1 a.1 := SortKey.before_or hne
  unfold Precedes
  cases order with
  | termAscending => exact hterms
  | termDescending => exact hterms.symm
  | hitsAscending | hitsDescending =>
    rcases Nat.lt_trichotomy a.2.hits b.2.hits with hlt | heq | hlt
    · simp [hlt]
    · simpa [heq] using hterms
    · simp [hlt]

theorem pairwise_place {l : List (String × Bucket)} (hl : l.Pairwise order.Precedes)
    (hne : ∀ b ∈ l, a.1 ≠ b.1) : (order.place a l).Pairwise order.Precedes := by
  induction l with
  | nil => exact List.pairwise_singleton _ a
  | cons b rest ih =>
    obtain ⟨hb, hrest⟩ := List.pairwise_cons.mp hl
    have hab : a.1 ≠ b.1 := hne b List.mem_cons_self
    rw [place]
    split
    · rename_i hcmp
      have hahead : order.Precedes a b := (cmp_eq_gt_iff hab).mp hcmp
      refine List.pairwise_cons.mpr ⟨fun c hc => ?_, hl⟩
      rcases List.mem_cons.mp hc with rfl | hc
      · exact hahead
      · exact hahead.trans (hb c hc)
    · rename_i hcmp
      have hbehind : order.Precedes b a :=
        (precedes_or hab).resolve_left fun h => hcmp ((cmp_eq_gt_iff hab).mpr h)
      have hplaced := ih hrest fun c hc => hne c (List.mem_cons_of_mem b hc)
      refine List.pairwise_cons.mpr ⟨fun c hc => ?_, hplaced⟩
      rcases List.mem_cons.mp ((order.place_perm a rest).mem_iff.mp hc) with rfl | hc
      · exact hbehind
      · exact hb c hc

theorem pairwise_sort {groups : List (String × Bucket)} (hd : (groups.map Prod.fst).Nodup) :
    (order.sort groups).Pairwise order.Precedes := by
  induction groups using List.reverseRecOn with
  | nil => exact .nil
  | append_singleton groups a ih =>
    rw [List.map_append, List.nodup_append] at hd
    obtain ⟨hgroups, -, hdisjoint⟩ := hd
    rw [sort_concat]
    refine pairwise_place (ih hgroups) fun b hb heq => ?_
    have hmem : b ∈ groups := (order.sort_perm groups).mem_iff.mp hb
    exact hdisjoint b.1 (List.mem_map_of_mem hmem) a.1 (by simp) heq.symm

/-- Groups of distinct terms have one order. -/
theorem eq_sort_iff {groups : List (String × Bucket)} (hd : (groups.map Prod.fst).Nodup)
    {l : List (String × Bucket)} :
    l.Perm groups ∧ l.Pairwise order.Precedes ↔ l = order.sort groups := by
  constructor
  · rintro ⟨hperm, hl⟩
    exact (hperm.trans (order.sort_perm groups).symm).eq_of_pairwise
      (fun a b _ _ hab hba => absurd hba hab.asymm) hl (pairwise_sort hd)
  · rintro rfl
    exact ⟨order.sort_perm groups, pairwise_sort hd⟩

/-- The order does not depend on how the groups came. -/
theorem sort_eq_of_perm {groups groups' : List (String × Bucket)}
    (hd : (groups.map Prod.fst).Nodup) (h : Perm groups' groups) :
    order.sort groups' = order.sort groups := by
  have hd' : (groups'.map Prod.fst).Nodup := (h.map Prod.fst).nodup_iff.mpr hd
  exact (eq_sort_iff hd).mp ⟨(order.sort_perm groups').trans h, pairwise_sort hd'⟩

end TermOrder

/-! ## Hits -/

@[simp] theorem totalHits_append (l m : List (String × Bucket)) :
    totalHits (l ++ m) = totalHits l + totalHits m := by
  induction l with
  | nil => simp [totalHits]
  | cons g rest ih =>
    simp only [List.cons_append, totalHits, ih]
    omega

theorem totalHits_perm {l m : List (String × Bucket)} (h : Perm l m) :
    totalHits l = totalHits m := by
  induction h with
  | nil => rfl
  | cons g _ ih => simp only [totalHits, ih]
  | swap g g' l =>
    simp only [totalHits]
    omega
  | trans _ _ ih ih' => exact ih.trans ih'

/-! ## Pages -/

/-- The groups before a page, those on it and those behind it make up the order. -/
theorem totalHits_slices (sorted : List (String × Bucket)) (start limit : Nat) :
    totalHits (sorted.take start) + totalHits ((sorted.drop start).take limit) +
      totalHits (sorted.drop (start + limit)) = totalHits sorted := by
  have hrest : sorted.drop (start + limit) = (sorted.drop start).drop limit := List.drop_drop.symm
  rw [hrest, Nat.add_assoc, ← totalHits_append, List.take_append_drop, ← totalHits_append,
    List.take_append_drop]

/-- Capping the end of a page at some number no less than the number of groups does not move it. -/
theorem page_capped (sorted : List (String × Bucket)) (start limit : Nat) {top : Nat}
    (htop : sorted.length ≤ top) :
    (sorted.take (min (min start sorted.length + limit) top)).drop (min start sorted.length) =
      (sorted.drop start).take limit := by
  rw [List.drop_take]
  rcases Nat.le_total start sorted.length with h | h
  · rw [Nat.min_eq_left h, List.take_eq_take_iff, List.length_drop]
    omega
  · rw [Nat.min_eq_right h, List.drop_length, List.drop_eq_nil_of_le h, List.take_nil,
      List.take_nil]

/-- A page is the slice of the order from `start` on, of at most `limit` groups; what is left are
the groups behind it, with their hits. -/
theorem TermPage.ofSorted_eq (sorted : List (String × Bucket)) (start limit : Nat) :
    TermPage.ofSorted sorted start limit =
      { groups := (sorted.drop start).take limit, rest := sorted.drop (start + limit)
        remainingHits := totalHits (sorted.drop (start + limit)) } := by
  have hgroups := page_capped sorted start limit (Nat.le_refl sorted.length)
  have hrest : sorted.drop (min (min start sorted.length + limit) sorted.length) =
      sorted.drop (start + limit) := by
    rcases Nat.le_total sorted.length (start + limit) with h | h
    · rw [List.drop_eq_nil_of_le h]
      exact List.drop_eq_nil_of_le (by omega)
    · congr 1
      omega
  have hbefore : sorted.take (min start sorted.length) = sorted.take start := by
    rw [List.take_eq_take_iff]
    omega
  have hslices := totalHits_slices sorted start limit
  have hhits : totalHits sorted - totalHits (sorted.take start) -
      totalHits ((sorted.drop start).take limit) = totalHits (sorted.drop (start + limit)) := by
    omega
  unfold TermPage.ofSorted
  dsimp only
  rw [hgroups, hrest, hbefore, hhits]

/-- Consecutive pages make up the order. -/
theorem pages_append (sorted : List (String × Bucket)) (limit pages : Nat) :
    ((List.range pages).flatMap fun i => (sorted.drop (i * limit)).take limit) =
      sorted.take (pages * limit) := by
  induction pages with
  | zero => simp
  | succ pages ih =>
    rw [List.range_succ, List.flatMap_append, ih, List.flatMap_singleton, Nat.succ_mul,
      List.take_add]

theorem TermPage.groups_ofSorted {sorted : List (String × Bucket)} {limit : Nat}
    (h : sorted.length ≤ limit) : (TermPage.ofSorted sorted 0 limit).groups = sorted := by
  rw [ofSorted_eq]
  exact List.take_of_length_le h

end FacetedSearch
