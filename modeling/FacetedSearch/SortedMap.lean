import FacetedSearch.Order

/-!
# FacetedSearch.SortedMap — finite maps as ascending association lists

A `SortedMap` lists its entries with strictly ascending keys, so two maps with the same look-ups
are equal (`ext_get?`).  Term dictionaries, caches and result tables are of this type.  Every
change goes through `alter`, whose look-up lemma is `get?_alter`.
-/

namespace FacetedSearch

open SortKey (Before cmp)

/-- A finite map, kept as its entries in strictly ascending key order. -/
structure SortedMap (κ υ : Type) [SortKey κ] where
  entries : List (κ × υ)
  ascending : entries.Pairwise fun a b => Before a.1 b.1

namespace SortedMap

variable {κ υ ω : Type} [SortKey κ]

/-- The value under a key of an ascending entry list. -/
def find (k : κ) : List (κ × υ) → Option υ
  | [] => none
  | (x, v) :: rest => match cmp k x with
    | .lt => none
    | .eq => some v
    | .gt => find k rest

/-- Give the key the value that `f` makes of its present one. -/
def place (k : κ) (f : Option υ → υ) : List (κ × υ) → List (κ × υ)
  | [] => [(k, f none)]
  | (x, v) :: rest => match cmp k x with
    | .lt => (k, f none) :: (x, v) :: rest
    | .eq => (x, f (some v)) :: rest
    | .gt => (x, v) :: place k f rest

theorem find_eq_none_of_before {k : κ} {l : List (κ × υ)} (h : ∀ e ∈ l, Before k e.1) :
    find k l = none := by
  cases l with
  | nil => rfl
  | cons e rest => simp [find, show cmp k e.1 = .lt from h e (.head _)]

theorem find_eq_some_iff {k : κ} {v : υ} {l : List (κ × υ)}
    (h : l.Pairwise fun a b => Before a.1 b.1) : find k l = some v ↔ (k, v) ∈ l := by
  induction l with
  | nil => simp [find]
  | cons e rest ih =>
    obtain ⟨x, w⟩ := e
    rw [List.pairwise_cons] at h
    rw [find, List.mem_cons]
    split
    · rename_i hk
      refine ⟨by simp, ?_⟩
      rintro (e | hm)
      · cases e; exact absurd hk (SortKey.not_before_self _)
      · exact absurd (SortKey.before_trans hk (h.1 _ hm)) (SortKey.not_before_self k)
    · rename_i hk
      rw [SortKey.cmp_eq_iff] at hk; subst hk
      constructor
      · intro e; cases e; exact .inl rfl
      · rintro (e | hm)
        · cases e; rfl
        · exact absurd (h.1 _ hm) (SortKey.not_before_self k)
    · rename_i hk
      rw [ih h.2]
      refine ⟨.inr, ?_⟩
      rintro (e | hm)
      · cases e; rw [SortKey.cmp_gt_iff] at hk; exact absurd hk (SortKey.not_before_self _)
      · exact hm

theorem key_mem_place {k x : κ} {f : Option υ → υ} {l : List (κ × υ)}
    (h : x ∈ (place k f l).map Prod.fst) : x = k ∨ x ∈ l.map Prod.fst := by
  induction l with
  | nil => simpa [place] using h
  | cons e rest ih =>
    obtain ⟨y, w⟩ := e
    rw [place] at h
    split at h
    · simp only [List.map_cons, List.mem_cons] at h ⊢; exact h
    · exact .inr h
    · simp only [List.map_cons, List.mem_cons] at h ⊢
      rcases h with h | h
      · exact .inr (.inl h)
      · exact (ih h).imp id .inr

theorem place_ascending {k : κ} {f : Option υ → υ} {l : List (κ × υ)}
    (h : l.Pairwise fun a b => Before a.1 b.1) :
    (place k f l).Pairwise fun a b => Before a.1 b.1 := by
  induction l with
  | nil => simp [place]
  | cons e rest ih =>
    obtain ⟨x, w⟩ := e
    have hcons := h
    rw [List.pairwise_cons] at h
    rw [place]; split
    · rename_i hk
      refine List.pairwise_cons.mpr ⟨fun a ha => ?_, hcons⟩
      rcases List.mem_cons.mp ha with rfl | ha
      · exact hk
      · exact SortKey.before_trans hk (h.1 a ha)
    · exact List.pairwise_cons.mpr h
    · rename_i hk
      refine List.pairwise_cons.mpr ⟨fun a ha => ?_, ih h.2⟩
      rcases key_mem_place (List.mem_map_of_mem ha) with e | he
      · rw [e]; exact SortKey.cmp_gt_iff.mp hk
      · obtain ⟨b, hb, e⟩ := List.mem_map.mp he
        rw [← e]; exact h.1 b hb

theorem find_place_self {k : κ} {f : Option υ → υ} {l : List (κ × υ)} :
    find k (place k f l) = some (f (find k l)) := by
  induction l with
  | nil => simp [place, find, SortKey.cmp_self]
  | cons e rest ih =>
    obtain ⟨x, w⟩ := e
    rw [place]
    split <;> rename_i hk
    · simp [find, SortKey.cmp_self, hk]
    · simp [find, hk]
    · simp [find, hk, ih]

theorem find_place_ne {k k' : κ} {f : Option υ → υ} {l : List (κ × υ)} (hne : k' ≠ k)
    (h : l.Pairwise fun a b => Before a.1 b.1) : find k' (place k f l) = find k' l := by
  induction l with
  | nil =>
    simp only [place, find]
    split <;> rename_i hk
    · rfl
    · exact absurd (SortKey.cmp_eq_iff.mp hk) hne
    · rfl
  | cons e rest ih =>
    obtain ⟨x, w⟩ := e
    rw [List.pairwise_cons] at h
    rw [place]
    split <;> rename_i hk
    · rw [find]
      split <;> rename_i hk'
      · rw [find_eq_none_of_before]
        intro a ha
        rcases List.mem_cons.mp ha with rfl | ha
        · exact SortKey.before_trans hk' hk
        · exact SortKey.before_trans hk' (SortKey.before_trans hk (h.1 a ha))
      · exact absurd (SortKey.cmp_eq_iff.mp hk') hne
      · rfl
    · rw [SortKey.cmp_eq_iff] at hk; subst hk
      rw [find, find]
      split <;> rename_i hk'
      · rfl
      · exact absurd (SortKey.cmp_eq_iff.mp hk') hne
      · rfl
    · rw [find, find]
      split
      · rfl
      · rfl
      · exact ih h.2

/-- The value under a key, if there is one. -/
def get? (m : SortedMap κ υ) (k : κ) : Option υ := find k m.entries

/-- The map without entries. -/
def empty : SortedMap κ υ := ⟨[], .nil⟩

instance emptyCollection : EmptyCollection (SortedMap κ υ) := ⟨empty⟩

instance inhabited : Inhabited (SortedMap κ υ) := ⟨empty⟩

/-- Give the key the value that `f` makes of its present one. -/
def alter (m : SortedMap κ υ) (k : κ) (f : Option υ → υ) : SortedMap κ υ :=
  ⟨place k f m.entries, place_ascending m.ascending⟩

/-- Give the key a value, whatever it had. -/
def insert (m : SortedMap κ υ) (k : κ) (v : υ) : SortedMap κ υ := m.alter k fun _ => v

/-- Give the key a value unless it has one. -/
def insertNew (m : SortedMap κ υ) (k : κ) (v : υ) : SortedMap κ υ := m.alter k fun w => w.getD v

/-- Keep the entries whose key passes the test. -/
def filterKeys (m : SortedMap κ υ) (p : κ → Bool) : SortedMap κ υ :=
  ⟨m.entries.filter fun e => p e.1, m.ascending.filter _⟩

/-- Keep the entries whose value passes the test. -/
def filterValues (m : SortedMap κ υ) (p : υ → Bool) : SortedMap κ υ :=
  ⟨m.entries.filter fun e => p e.2, m.ascending.filter _⟩

/-- Drop the entry of a key. -/
def erase [DecidableEq κ] (m : SortedMap κ υ) (k : κ) : SortedMap κ υ :=
  m.filterKeys fun x => decide (x ≠ k)

/-- The map of a list of pairs; the last pair of a key counts. -/
def ofList (l : List (κ × υ)) : SortedMap κ υ := l.foldl (fun m e => m.insert e.1 e.2) empty

/-- The keys, in ascending order. -/
def keys (m : SortedMap κ υ) : List κ := m.entries.map Prod.fst

/-- How many keys have a value. -/
def size (m : SortedMap κ υ) : Nat := m.entries.length

/-- Whether no key has a value. -/
def isEmpty (m : SortedMap κ υ) : Bool := m.entries.isEmpty

/-- Whether a key has a value. -/
def contains (m : SortedMap κ υ) (k : κ) : Bool := (m.get? k).isSome

@[simp] theorem get?_empty {k : κ} : (empty : SortedMap κ υ).get? k = none := rfl

theorem get?_alter_self {m : SortedMap κ υ} {k : κ} {f : Option υ → υ} :
    (m.alter k f).get? k = some (f (m.get? k)) := find_place_self

theorem get?_alter_ne {m : SortedMap κ υ} {k k' : κ} {f : Option υ → υ} (h : k' ≠ k) :
    (m.alter k f).get? k' = m.get? k' := find_place_ne h m.ascending

theorem get?_alter [DecidableEq κ] {m : SortedMap κ υ} {k k' : κ} {f : Option υ → υ} :
    (m.alter k f).get? k' = if k' = k then some (f (m.get? k)) else m.get? k' := by
  split
  · rename_i h; rw [h, get?_alter_self]
  · exact get?_alter_ne ‹_›

theorem get?_insert [DecidableEq κ] {m : SortedMap κ υ} {k k' : κ} {v : υ} :
    (m.insert k v).get? k' = if k' = k then some v else m.get? k' := get?_alter

theorem get?_insert_self {m : SortedMap κ υ} {k : κ} {v : υ} :
    (m.insert k v).get? k = some v := get?_alter_self

theorem get?_insert_ne {m : SortedMap κ υ} {k k' : κ} {v : υ} (h : k' ≠ k) :
    (m.insert k v).get? k' = m.get? k' := get?_alter_ne h

theorem get?_insertNew [DecidableEq κ] {m : SortedMap κ υ} {k k' : κ} {v : υ} :
    (m.insertNew k v).get? k' = if k' = k then some ((m.get? k).getD v) else m.get? k' :=
  get?_alter

theorem get?_eq_some_iff {m : SortedMap κ υ} {k : κ} {v : υ} :
    m.get? k = some v ↔ (k, v) ∈ m.entries := find_eq_some_iff m.ascending

/-- What is found after an entry was offered was there before, or is what was offered. -/
theorem get?_of_insertNew [DecidableEq κ] {m : SortedMap κ υ} {k k' : κ} {v w : υ}
    (h : (m.insertNew k v).get? k' = some w) : m.get? k' = some w ∨ (k', w) = (k, v) := by
  rw [get?_insertNew] at h
  split at h
  · rename_i hk
    subst hk
    cases hm : m.get? k' with
    | none => exact .inr (by rw [hm] at h; cases h; rfl)
    | some former => exact .inl (by rw [hm] at h; exact h)
  · exact .inl h

theorem get?_filterKeys {m : SortedMap κ υ} {p : κ → Bool} {k : κ} :
    (m.filterKeys p).get? k = if p k then m.get? k else none := by
  refine Option.ext fun v => ?_
  rw [get?_eq_some_iff]
  split
  · rename_i h; simp [filterKeys, List.mem_filter, h, get?_eq_some_iff]
  · rename_i h; simp [filterKeys, List.mem_filter, h]

theorem get?_filterValues {m : SortedMap κ υ} {p : υ → Bool} {k : κ} :
    (m.filterValues p).get? k = (m.get? k).filter p := by
  refine Option.ext fun v => ?_
  rw [get?_eq_some_iff, Option.filter_eq_some_iff, get?_eq_some_iff]
  exact List.mem_filter

theorem get?_erase [DecidableEq κ] {m : SortedMap κ υ} {k k' : κ} :
    (m.erase k).get? k' = if k' = k then none else m.get? k' := by
  rw [erase, get?_filterKeys]
  by_cases h : k' = k <;> simp [h]

theorem mem_keys_iff {m : SortedMap κ υ} {k : κ} : k ∈ m.keys ↔ ∃ v, m.get? k = some v := by
  simp [keys, get?_eq_some_iff]

theorem keys_ascending (m : SortedMap κ υ) : m.keys.Pairwise Before :=
  List.pairwise_map.mpr m.ascending

theorem entries_inj {m n : SortedMap κ υ} : m.entries = n.entries ↔ m = n := by
  cases m; cases n; simp

/-- An ascending entry list is determined by its members. -/
theorem eq_of_mem_iff {l m : List (κ × υ)} (hl : l.Pairwise fun a b => Before a.1 b.1)
    (hm : m.Pairwise fun a b => Before a.1 b.1) (h : ∀ e, e ∈ l ↔ e ∈ m) : l = m := by
  induction l generalizing m with
  | nil =>
    cases m with
    | nil => rfl
    | cons y ys => exact absurd ((h y).mpr (.head _)) (by simp)
  | cons x xs ih =>
    cases m with
    | nil => exact absurd ((h x).mp (.head _)) (by simp)
    | cons y ys =>
      rw [List.pairwise_cons] at hl hm
      have hxy : x = y := by
        rcases List.mem_cons.mp ((h x).mp (.head _)) with e | hx
        · exact e
        · rcases List.mem_cons.mp ((h y).mpr (.head _)) with e | hy
          · exact e.symm
          · exact absurd (hl.1 y hy) (SortKey.before_asymm (hm.1 x hx))
      subst hxy
      refine congrArg _ (ih hl.2 hm.2 fun e => ?_)
      have he := h e
      simp only [List.mem_cons] at he
      constructor
      · intro hx
        exact (he.mp (.inr hx)).resolve_left fun e' =>
          SortKey.not_before_self x.1 (e' ▸ hl.1 e hx)
      · intro hy
        exact (he.mpr (.inr hy)).resolve_left fun e' =>
          SortKey.not_before_self x.1 (e' ▸ hm.1 e hy)

theorem ext_get? {m n : SortedMap κ υ} (h : ∀ k, m.get? k = n.get? k) : m = n :=
  entries_inj.mp (eq_of_mem_iff m.ascending n.ascending fun e => by
    rw [show e = (e.1, e.2) from rfl, ← get?_eq_some_iff, ← get?_eq_some_iff, h])

theorem erase_insert [DecidableEq κ] {m : SortedMap κ υ} {k : κ} {v : υ} :
    (m.insert k v).erase k = m.erase k := by
  refine ext_get? fun x => ?_
  rw [get?_erase, get?_erase, get?_insert]
  split <;> rfl

/-- Two changes can be made in either order, if they can where they are changes of one key. -/
theorem alter_comm [DecidableEq κ] {m : SortedMap κ υ} {k k' : κ} {f g : Option υ → υ}
    (h : k = k' → ∀ v, g (some (f v)) = f (some (g v))) :
    (m.alter k f).alter k' g = (m.alter k' g).alter k f := by
  refine ext_get? fun x => ?_
  by_cases hk : k = k'
  · subst hk
    by_cases hx : x = k <;> simp [get?_alter, hx, h rfl]
  · by_cases hx : x = k
    · simp [get?_alter, hx, hk]
    · simp [get?_alter, hx, Ne.symm hk]

instance decidableEq [DecidableEq κ] [DecidableEq υ] : DecidableEq (SortedMap κ υ) := fun _ _ =>
  decidable_of_iff _ entries_inj

end SortedMap

end FacetedSearch
