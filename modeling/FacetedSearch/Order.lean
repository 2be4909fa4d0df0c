/-!
# FacetedSearch.Order — three-way comparison of keys

Every sorted container of this library orders its keys by one function into `Ordering`.  `SortKey`
carries that function with its three laws: only equal keys compare equal, swapping the keys swaps
the answer, and "less" is transitive.  Lists compare element by element, and texts character by
character by code point, which is also the order of their UTF-8 bytes.
-/

namespace FacetedSearch

/-- A total order on keys, given by three-way comparison. -/
class SortKey (κ : Type) where
  /-- How the first key stands to the second. -/
  cmp : κ → κ → Ordering
  cmp_eq_iff : ∀ {a b : κ}, cmp a b = .eq ↔ a = b
  cmp_swap : ∀ a b : κ, (cmp a b).swap = cmp b a
  cmp_trans : ∀ {a b c : κ}, cmp a b = .lt → cmp b c = .lt → cmp a c = .lt

namespace SortKey

section Laws

variable {κ : Type} [SortKey κ]

/-- `Before a b`: the key `a` stands strictly ahead of `b`. -/
def Before (a b : κ) : Prop := cmp a b = .lt

instance decidableBefore (a b : κ) : Decidable (Before a b) :=
  decidable_of_iff (cmp a b = .lt) Iff.rfl

theorem cmp_self (a : κ) : cmp a a = .eq := cmp_eq_iff.mpr rfl

theorem cmp_gt_iff {a b : κ} : cmp a b = .gt ↔ Before b a := by
  rw [Before, ← cmp_swap a b]; cases cmp a b <;> simp

theorem not_before_self (a : κ) : ¬ Before a a := by simp [Before, cmp_self]

theorem before_trans {a b c : κ} (h : Before a b) (h' : Before b c) : Before a c :=
  cmp_trans h h'

theorem before_asymm {a b : κ} (h : Before a b) : ¬ Before b a := fun h' =>
  not_before_self a (before_trans h h')

theorem before_ne {a b : κ} (h : Before a b) : a ≠ b := fun e =>
  not_before_self a (by rw [← e] at h; exact h)

/-- Of two keys one stands ahead of the other. -/
theorem before_or {a b : κ} (h : a ≠ b) : Before a b ∨ Before b a := by
  cases hcmp : cmp a b with
  | lt => exact .inl hcmp
  | eq => exact absurd (cmp_eq_iff.mp hcmp) h
  | gt => exact .inr (cmp_gt_iff.mp hcmp)

end Laws

/-- Numbers in their usual order. -/
def cmpNat (a b : Nat) : Ordering := if a < b then .lt else if b < a then .gt else .eq

theorem cmpNat_lt_iff {a b : Nat} : cmpNat a b = .lt ↔ a < b := by
  simp only [cmpNat]; split
  · simp [*]
  · split <;> simp [*]

theorem cmpNat_eq_iff {a b : Nat} : cmpNat a b = .eq ↔ a = b := by
  simp only [cmpNat]; split
  · simp; omega
  · split
    · simp; omega
    · simp; omega

theorem cmpNat_swap (a b : Nat) : (cmpNat a b).swap = cmpNat b a := by
  simp only [cmpNat]
  by_cases h : a < b
  · have : ¬ b < a := by omega
    simp [h, this]
  · by_cases h' : b < a <;> simp [h, h']

/-- Keys ordered by a number that tells them apart. -/
@[reducible] def ofRank {α : Type} (rank : α → Nat) (inj : ∀ {a b}, rank a = rank b → a = b) : SortKey α where
  cmp a b := cmpNat (rank a) (rank b)
  cmp_eq_iff := ⟨fun h => inj (cmpNat_eq_iff.mp h), fun h => cmpNat_eq_iff.mpr (h ▸ rfl)⟩
  cmp_swap a b := cmpNat_swap (rank a) (rank b)
  cmp_trans h h' := by rw [cmpNat_lt_iff] at *; omega

instance natKey : SortKey Nat := ofRank id id

instance wordKey : SortKey UInt32 := ofRank UInt32.toNat UInt32.toNat_inj.mp

theorem before_word_iff {a b : UInt32} : Before a b ↔ a.toNat < b.toNat := cmpNat_lt_iff

instance charKey : SortKey Char := ofRank Char.toNat Char.toNat_inj.mp

section Lists

variable {α : Type} [SortKey α]

/-- Lists compare element by element; a list comes before its longer continuations. -/
def cmpList : List α → List α → Ordering
  | [], [] => .eq
  | [], _ :: _ => .lt
  | _ :: _, [] => .gt
  | a :: as, b :: bs => (cmp a b).then (cmpList as bs)

theorem cmpList_eq_iff {s t : List α} : cmpList s t = .eq ↔ s = t := by
  induction s generalizing t with
  | nil => cases t <;> simp [cmpList]
  | cons a as ih =>
    cases t with
    | nil => simp [cmpList]
    | cons b bs => simp [cmpList, Ordering.then_eq_eq, cmp_eq_iff, ih]

theorem cmpList_swap (s t : List α) : (cmpList s t).swap = cmpList t s := by
  induction s generalizing t with
  | nil => cases t <;> rfl
  | cons a as ih =>
    cases t with
    | nil => rfl
    | cons b bs => rw [cmpList, Ordering.swap_then, cmp_swap, ih, ← cmpList]

theorem cmpList_cons_lt_iff {a b : α} {s t : List α} :
    cmpList (a :: s) (b :: t) = .lt ↔ Before a b ∨ a = b ∧ cmpList s t = .lt := by
  rw [cmpList, Ordering.then_eq_lt, cmp_eq_iff, ← Before]

theorem cmpList_trans {s t u : List α} (h : cmpList s t = .lt) (h' : cmpList t u = .lt) :
    cmpList s u = .lt := by
  induction s generalizing t u with
  | nil =>
    cases u with
    | nil => cases t <;> simp [cmpList] at h h'
    | cons c u => rfl
  | cons a s ih =>
    cases t with
    | nil => simp [cmpList] at h
    | cons b t =>
      cases u with
      | nil => simp [cmpList] at h'
      | cons c u =>
        rw [cmpList_cons_lt_iff] at *
        rcases h with h | ⟨rfl, h⟩
        · rcases h' with h' | ⟨rfl, _⟩
          · exact .inl (before_trans h h')
          · exact .inl h
        · rcases h' with h' | ⟨rfl, h'⟩
          · exact .inl h'
          · exact .inr ⟨rfl, ih h h'⟩

/-- Lists in the order of their elements. -/
instance listKey : SortKey (List α) := ⟨cmpList, cmpList_eq_iff, cmpList_swap, cmpList_trans⟩

end Lists

/-- Texts in ordinal order. -/
instance textKey : SortKey String where
  cmp s t := cmp s.toList t.toList
  cmp_eq_iff {s t} := by rw [cmp_eq_iff, String.toList_inj]
  cmp_swap s t := cmp_swap s.toList t.toList
  cmp_trans := cmp_trans

/-- Pairs compare by their first parts, and by their second parts where the first agree. -/
instance pairKey {α β : Type} [SortKey α] [SortKey β] : SortKey (α × β) where
  cmp p q := (cmp p.1 q.1).then (cmp p.2 q.2)
  cmp_eq_iff {p q} := by simp [Ordering.then_eq_eq, cmp_eq_iff, Prod.ext_iff]
  cmp_swap p q := by simp [Ordering.swap_then, cmp_swap]
  cmp_trans {p q r} h h' := by
    rw [Ordering.then_eq_lt] at *
    rcases h with h | ⟨e, h⟩
    · rcases h' with h' | ⟨e', _⟩
      · exact .inl (cmp_trans h h')
      · rw [cmp_eq_iff] at e'; rw [← e']; exact .inl h
    · rw [cmp_eq_iff] at e
      rcases h' with h' | ⟨e', h'⟩
      · rw [e]; exact .inl h'
      · exact .inr ⟨by rw [e]; exact e', cmp_trans h h'⟩

end SortKey

end FacetedSearch
