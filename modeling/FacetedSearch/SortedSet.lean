import FacetedSearch.Order

/-!
# FacetedSearch.SortedSet — finite sets as ascending lists

A `SortedSet` is a strictly ascending list of keys, so two sets with the same members are equal
(`ext_mem`).  Document sets, field sets and stored value sets are of this type.  Each operation has
one membership lemma.
-/

namespace FacetedSearch

open SortKey (Before cmp)

/-- A finite set of keys, kept as its strictly ascending list. -/
structure SortedSet (κ : Type) [SortKey κ] where
  toList : List κ
  ascending : toList.Pairwise Before

namespace SortedSet

variable {κ : Type} [SortKey κ]

/-- Place a key into an ascending list, once. -/
def insertKey (k : κ) : List κ → List κ
  | [] => [k]
  | x :: xs => match cmp k x with
    | .lt => k :: x :: xs
    | .eq => x :: xs
    | .gt => x :: insertKey k xs

theorem mem_insertKey {k a : κ} {l : List κ} : a ∈ insertKey k l ↔ a = k ∨ a ∈ l := by
  induction l with
  | nil => simp [insertKey]
  | cons x xs ih =>
    rw [insertKey]; split
    · simp
    · rename_i h; rw [SortKey.cmp_eq_iff] at h; simp [h]
    · simp only [List.mem_cons, ih, or_left_comm]

theorem insertKey_ascending {k : κ} {l : List κ} (h : l.Pairwise Before) :
    (insertKey k l).Pairwise Before := by
  induction l with
  | nil => simp [insertKey]
  | cons x xs ih =>
    rw [List.pairwise_cons] at h
    rw [insertKey]; split
    · rename_i hk
      refine List.pairwise_cons.mpr ⟨fun a ha => ?_, List.pairwise_cons.mpr h⟩
      rcases List.mem_cons.mp ha with rfl | ha
      · exact hk
      · exact SortKey.before_trans hk (h.1 a ha)
    · exact List.pairwise_cons.mpr h
    · rename_i hk
      refine List.pairwise_cons.mpr ⟨fun a ha => ?_, ih h.2⟩
      rcases mem_insertKey.mp ha with rfl | ha
      · exact SortKey.cmp_gt_iff.mp hk
      · exact h.1 a ha

instance membership : Membership κ (SortedSet κ) where
  mem s k := k ∈ s.toList

theorem mem_def {k : κ} {s : SortedSet κ} : k ∈ s ↔ k ∈ s.toList := Iff.rfl

/-- Whether a key is in the set, by a scan. -/
def contains [DecidableEq κ] (s : SortedSet κ) (k : κ) : Bool := decide (k ∈ s.toList)

theorem contains_iff [DecidableEq κ] {s : SortedSet κ} {k : κ} : s.contains k = true ↔ k ∈ s := by
  simp [contains, mem_def]

/-- The set without members. -/
def empty : SortedSet κ := ⟨[], .nil⟩

instance emptyCollection : EmptyCollection (SortedSet κ) := ⟨empty⟩

/-- Add one key. -/
def insert (k : κ) (s : SortedSet κ) : SortedSet κ :=
  ⟨insertKey k s.toList, insertKey_ascending s.ascending⟩

/-- The members of a list, in ascending order and each once. -/
def ofList (l : List κ) : SortedSet κ := l.foldr insert empty

/-- The members of either set. -/
def union (s t : SortedSet κ) : SortedSet κ := t.toList.foldr insert s

/-- The members that pass a test. -/
def filter (p : κ → Bool) (s : SortedSet κ) : SortedSet κ :=
  ⟨s.toList.filter p, s.ascending.filter p⟩

/-- The members of both sets. -/
def inter [DecidableEq κ] (s t : SortedSet κ) : SortedSet κ := s.filter t.contains

/-- The members of the first set that the second lacks. -/
def sdiff [DecidableEq κ] (s t : SortedSet κ) : SortedSet κ := s.filter fun k => !t.contains k

/-- How many members the set has. -/
def size (s : SortedSet κ) : Nat := s.toList.length

/-- Whether the set has no member. -/
def isEmpty (s : SortedSet κ) : Bool := s.toList.isEmpty

@[simp] theorem not_mem_empty {k : κ} : ¬ k ∈ (empty : SortedSet κ) := by simp [mem_def, empty]

@[simp] theorem mem_insert {k a : κ} {s : SortedSet κ} : a ∈ s.insert k ↔ a = k ∨ a ∈ s :=
  mem_insertKey

theorem mem_foldr_insert {a : κ} {l : List κ} {s : SortedSet κ} :
    a ∈ l.foldr insert s ↔ a ∈ l ∨ a ∈ s := by
  induction l with
  | nil => simp
  | cons x xs ih => simp [ih, or_assoc]

@[simp] theorem mem_ofList {a : κ} {l : List κ} : a ∈ ofList l ↔ a ∈ l := by
  simp [ofList, mem_foldr_insert]

@[simp] theorem mem_union {a : κ} {s t : SortedSet κ} : a ∈ s.union t ↔ a ∈ s ∨ a ∈ t := by
  rw [union, mem_foldr_insert, or_comm]; rfl

@[simp] theorem mem_filter {a : κ} {p : κ → Bool} {s : SortedSet κ} :
    a ∈ s.filter p ↔ a ∈ s ∧ p a = true := List.mem_filter

@[simp] theorem mem_inter [DecidableEq κ] {a : κ} {s t : SortedSet κ} :
    a ∈ s.inter t ↔ a ∈ s ∧ a ∈ t := by simp [inter, contains_iff]

@[simp] theorem mem_sdiff [DecidableEq κ] {a : κ} {s t : SortedSet κ} :
    a ∈ s.sdiff t ↔ a ∈ s ∧ a ∉ t := by
  rw [sdiff, mem_filter, Bool.not_eq_true', ← Bool.not_eq_true, contains_iff]

theorem toList_inj {s t : SortedSet κ} : s.toList = t.toList ↔ s = t := by
  cases s; cases t; simp

/-- An ascending list is determined by its members. -/
theorem eq_of_ascending {l m : List κ} (hl : l.Pairwise Before) (hm : m.Pairwise Before)
    (h : ∀ k, k ∈ l ↔ k ∈ m) : l = m := by
  induction l generalizing m with
  | nil =>
    cases m with
    | nil => rfl
    | cons y ys => exact absurd ((h y).mpr (.head _)) (by simp)
  | cons x xs ih =>
    cases m with
    | nil => exact absurd ((h x).mp (.head _)) (by simp)
    | cons y ys =>
      rw [List.pairwise_cons] at hl hm
      have hxy : x = y := by
        rcases List.mem_cons.mp ((h x).mp (.head _)) with e | hx
        · exact e
        · rcases List.mem_cons.mp ((h y).mpr (.head _)) with e | hy
          · exact e.symm
          · exact absurd (hl.1 y hy) (SortKey.before_asymm (hm.1 x hx))
      subst hxy
      refine congrArg _ (ih hl.2 hm.2 fun k => ?_)
      have hk := h k
      simp only [List.mem_cons] at hk
      constructor
      · intro hx
        exact (hk.mp (.inr hx)).resolve_left fun e => SortKey.not_before_self x (e ▸ hl.1 k hx)
      · intro hy
        exact (hk.mpr (.inr hy)).resolve_left fun e => SortKey.not_before_self x (e ▸ hm.1 k hy)

theorem ext_mem {s t : SortedSet κ} (h : ∀ k, k ∈ s ↔ k ∈ t) : s = t :=
  toList_inj.mp (eq_of_ascending s.ascending t.ascending h)

theorem insert_comm {a b : κ} {s : SortedSet κ} : (s.insert a).insert b = (s.insert b).insert a :=
  ext_mem fun k => by simp only [mem_insert, or_left_comm]

theorem ne_empty_iff {s : SortedSet κ} : s ≠ ∅ ↔ ∃ k, k ∈ s := by
  constructor
  · refine fun hne => Classical.byContradiction fun hnone => hne (ext_mem fun k => ?_)
    exact iff_of_false (fun hk => hnone ⟨k, hk⟩) not_mem_empty
  · rintro ⟨k, hk⟩ he
    rw [he] at hk
    exact not_mem_empty hk

instance decidableEq [DecidableEq κ] : DecidableEq (SortedSet κ) := fun _ _ =>
  decidable_of_iff _ toList_inj

end SortedSet

end FacetedSearch
