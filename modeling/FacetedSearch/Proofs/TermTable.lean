import FacetedSearch.TermTable
import Mathlib.Data.List.Forall2

/-!
# FacetedSearch.Proofs.TermTable — tables against the visited pairs

The table of a field is its visited pairs turned around: the row of a document holds the terms
visited with it, in the order of the visits (`terms_ofPairs`).  Where a number table can be built
it holds what each of these terms decodes to (`values_ofTerms`).
-/

namespace FacetedSearch

variable {ε α β : Type}

/-! ## Steps that may fail -/

theorem bind_eq_ok {x : Except ε α} {f : α → Except ε β} {b : β} :
    (x >>= f) = .ok b ↔ ∃ a, x = .ok a ∧ f a = .ok b := by
  cases x with
  | error e =>
    constructor
    · rintro ⟨⟩
    · rintro ⟨_, ⟨⟩, _⟩
  | ok a =>
    constructor
    · intro h
      exact ⟨a, rfl, h⟩
    · rintro ⟨_, ⟨⟩, h⟩
      exact h

theorem mapM_eq_ok_iff {f : α → Except ε β} {l : List α} {r : List β} :
    l.mapM f = .ok r ↔ List.Forall₂ (fun a b => f a = .ok b) l r := by
  induction l generalizing r with
  | nil =>
    rw [List.mapM_nil, List.forall₂_nil_left_iff]
    constructor
    · rintro ⟨⟩
      rfl
    · rintro rfl
      rfl
  | cons a rest ih =>
    rw [List.mapM_cons, List.forall₂_cons_left_iff, bind_eq_ok]
    constructor
    · rintro ⟨b, hb, hrest⟩
      obtain ⟨bs, hbs, hr⟩ := bind_eq_ok.mp hrest
      cases hr
      exact ⟨b, bs, hb, ih.mp hbs, rfl⟩
    · rintro ⟨b, bs, hb, hbs, rfl⟩
      exact ⟨b, hb, bind_eq_ok.mpr ⟨bs, ih.mpr hbs, rfl⟩⟩

/-- Every result of some steps is that of one of them. -/
theorem exists_mem_of_mapM_eq_ok {f : α → Except ε β} {l : List α} {r : List β}
    (h : l.mapM f = .ok r) {b : β} (hb : b ∈ r) : ∃ a ∈ l, f a = .ok b := by
  have hall := mapM_eq_ok_iff.mp h
  clear h
  induction hall with
  | nil => cases hb
  | @cons a c rest bs hac _ ih =>
    rcases List.mem_cons.mp hb with rfl | hb
    · exact ⟨a, List.mem_cons_self, hac⟩
    · obtain ⟨a', ha', hb'⟩ := ih hb
      exact ⟨a', List.mem_cons_of_mem a ha', hb'⟩

theorem mem_of_mapM_eq_ok {f : α → Except ε β} {l : List α} {r : List β} (h : l.mapM f = .ok r)
    {a : α} {b : β} (ha : a ∈ l) (hb : f a = .ok b) : b ∈ r := by
  have hall := mapM_eq_ok_iff.mp h
  clear h
  induction hall with
  | nil => cases ha
  | @cons c b' rest bs hc _ ih =>
    rcases List.mem_cons.mp ha with rfl | ha
    · rw [Except.ok.inj (hb.symm.trans hc)]
      exact List.mem_cons_self
    · exact List.mem_cons_of_mem _ (ih ha)

/-- If a part of what each step gives depends on nothing else, then so do all these parts. -/
theorem map_eq_of_mapM_eq_ok {γ : Type} {f : α → Except ε β} {g : α → γ} {k : β → γ} {l : List α}
    {r : List β} (h : l.mapM f = .ok r) (hk : ∀ a ∈ l, ∀ b, f a = .ok b → k b = g a) :
    r.map k = l.map g := by
  have hall := mapM_eq_ok_iff.mp h
  clear h
  induction hall with
  | nil => rfl
  | @cons a b rest bs hab _ ih =>
    obtain ⟨ha, hrest⟩ := List.forall_mem_cons.mp hk
    rw [List.map_cons, List.map_cons, ih hrest, ha b hab]

/-- If each step that succeeds gives what a function gives, then so do all of them. -/
theorem eq_map_of_mapM_eq_ok {f : α → Except ε β} {g : α → β} {l : List α} {r : List β}
    (h : l.mapM f = .ok r) (hg : ∀ a ∈ l, ∀ b, f a = .ok b → b = g a) : r = l.map g := by
  rw [← map_eq_of_mapM_eq_ok h hg, List.map_id']

/-- What holds of two lists in turn holds of the first and the last. -/
theorem forall₂_comp {γ : Type} {R : α → β → Prop} {S : β → γ → Prop} {T : α → γ → Prop}
    {l : List α} {m : List β} {n : List γ} (hR : List.Forall₂ R l m) (hS : List.Forall₂ S m n)
    (h : ∀ a, ∀ b ∈ m, ∀ c, R a b → S b c → T a c) : List.Forall₂ T l n := by
  induction hR generalizing n with
  | nil =>
    cases hS
    exact .nil
  | @cons a b _ _ hab _ ih =>
    obtain ⟨c, _, hbc, hrest, rfl⟩ := List.forall₂_cons_left_iff.mp hS
    exact .cons (h a b (.head _) c hab hbc) (ih hrest fun a b hb => h a b (.tail _ hb))

/-! ## The terms of a document -/

/-- The terms visited with a document, in the order of the visits. -/
def visitedTerms (pairs : List (String × DocId)) (d : DocId) : List String :=
  (pairs.filter fun x => decide (x.2 = d)).map Prod.fst

theorem mem_visitedTerms {pairs : List (String × DocId)} {d : DocId} {term : String} :
    term ∈ visitedTerms pairs d ↔ (term, d) ∈ pairs := by
  rw [visitedTerms]
  simp

namespace TermTable

theorem get?_foldl_addPair (pairs : List (String × DocId)) (rows : SortedMap DocId (List String))
    (d : DocId) :
    ((pairs.foldl addPair rows).get? d).getD [] = (rows.get? d).getD [] ++ visitedTerms pairs d := by
  induction pairs generalizing rows with
  | nil => simp [visitedTerms]
  | cons x rest ih =>
    rw [List.foldl_cons, ih, addPair, SortedMap.get?_alter]
    by_cases h : x.2 = d
    · subst h
      simp [visitedTerms]
    · simp [visitedTerms, h, Ne.symm h]

theorem terms_ofPairs {field : String} {limit : DocId} {pairs : List (String × DocId)}
    {table : TermTable} (h : ofPairs field limit pairs = .ok table) (d : DocId) :
    table.terms d = visitedTerms pairs d := by
  rw [ofPairs] at h
  split at h
  · cases h
  · cases h
    exact get?_foldl_addPair pairs ∅ d

/-- Where every document is below the limit there is a table. -/
theorem exists_ofPairs (field : String) {limit : DocId} {pairs : List (String × DocId)}
    (h : ∀ x ∈ pairs, x.2.toNat < limit.toNat) : ∃ table, ofPairs field limit pairs = .ok table := by
  have hnone : pairs.filter (fun x => decide (limit.toNat ≤ x.2.toNat)) = [] := by
    refine List.filter_eq_nil_iff.mpr fun x hx => ?_
    rw [decide_eq_true_iff, Nat.not_le]
    exact h x hx
  rw [ofPairs, hnone]
  exact ⟨_, rfl⟩

/-- A table is built only where every document is below the limit. -/
theorem lt_of_ofPairs {field : String} {limit : DocId} {pairs : List (String × DocId)}
    {table : TermTable} (h : ofPairs field limit pairs = .ok table) :
    ∀ x ∈ pairs, x.2.toNat < limit.toNat := by
  intro x hx
  unfold ofPairs at h
  split at h
  · cases h
  · rename_i hlast
    rw [List.getLast?_eq_none_iff, List.filter_eq_nil_iff] at hlast
    have hbelow := hlast x hx
    rw [decide_eq_true_iff] at hbelow
    omega

end TermTable

/-! ## The numbers of a document -/

namespace NumberTable

theorem addRow_eq_ok {type : SortType} {t t' : NumberTable} {row : DocId × List String}
    (h : addRow type t row = .ok t') :
    ∃ numbers, row.2.mapM type.decode = .ok numbers ∧
      t' = { rows := t.rows.insert row.1 numbers } := by
  rw [addRow] at h
  cases hm : row.2.mapM type.decode with
  | error e =>
    rw [hm] at h
    cases h
  | ok numbers =>
    rw [hm] at h
    cases h
    exact ⟨numbers, rfl, rfl⟩

/-- Each row is decoded in full, and other documents keep what they have. -/
theorem foldlM_addRow {type : SortType} {entries : List (DocId × List String)}
    (hp : entries.Pairwise fun a b => SortKey.Before a.1 b.1) {t t' : NumberTable}
    (h : entries.foldlM (addRow type) t = .ok t') (d : DocId) :
    (∀ row, (d, row) ∈ entries → row.mapM type.decode = .ok (t'.values d)) ∧
      ((∀ row, (d, row) ∉ entries) → t'.rows.get? d = t.rows.get? d) := by
  induction entries generalizing t with
  | nil =>
    cases h
    exact ⟨by simp, fun _ => rfl⟩
  | cons e rest ih =>
    obtain ⟨k, terms⟩ := e
    rw [List.pairwise_cons] at hp
    rw [List.foldlM_cons] at h
    obtain ⟨t₁, h₁, hrest⟩ := bind_eq_ok.mp h
    obtain ⟨numbers, hn, rfl⟩ := addRow_eq_ok h₁
    obtain ⟨hin, hout⟩ := ih hp.2 hrest
    refine ⟨fun row hm => ?_, fun hm => ?_⟩
    · rcases List.mem_cons.mp hm with he | hm
      · obtain ⟨rfl, rfl⟩ := Prod.mk.inj he
        -- the keys ascend, so no later row is that of this document
        have hkept := hout fun row hm => SortKey.not_before_self d (hp.1 _ hm)
        rw [values, hkept, SortedMap.get?_insert_self]
        exact hn
      · exact hin row hm
    · have hne : d ≠ k := by
        rintro rfl
        exact hm terms (.head _)
      rw [hout fun row hr => hm row (.tail _ hr), SortedMap.get?_insert_ne hne]

theorem values_ofTerms {terms : TermTable} {type : SortType} {table : NumberTable}
    (h : ofTerms terms type = .ok table) (d : DocId) :
    (terms.terms d).mapM type.decode = .ok (table.values d) := by
  obtain ⟨hin, hout⟩ := foldlM_addRow terms.rows.ascending h d
  rw [TermTable.terms]
  cases hr : terms.rows.get? d with
  | some row => exact hin row (SortedMap.get?_eq_some_iff.mp hr)
  | none =>
    have hnone := hout fun row hm => by
      rw [SortedMap.get?_eq_some_iff.mpr hm] at hr
      cases hr
    rw [values, hnone]
    rfl

end NumberTable

end FacetedSearch
