import FacetedSearch.Index
import FacetedSearch.Proofs.TermTable
import Mathlib.Data.List.Induction
import Mathlib.Data.List.Nodup
import Mathlib.Data.List.Pairwise

/-!
# FacetedSearch.Proofs.Index.Content — an index lists what its documents have

`Document.terms` reads off a document alone which terms it has in a field.  An index is tied to the
documents added to it by `Index.Lists`: a term lists exactly the documents that have it, a document
number is taken once a document with a value has it, and no later document has that number.  Each
addition keeps the tie (`Lists.add`), so every index of documents has it (`lists_of_ofDocuments`).
-/

namespace FacetedSearch

/-! ## The terms of a document -/

/-- The terms that a value of the field `name` makes in a field: its text if this is the field
itself, and its encoding if it is a number and this is the range field. -/
def Value.termsIn (field name : String) (v : Value) : List String :=
  (if name = field then [v.toText] else []) ++
    (if rangeField name = field then v.number?.toList.map Number.encode else [])

namespace Document

/-- The terms of a document in a field: the texts of its values there, and the encodings of its
numbers of every field that it is the range field of. -/
def terms (d : Document) (field : String) : List String :=
  d.values.flatMap fun x => x.2.termsIn field x.1

theorem values_ne_nil_of_mem_terms {d : Document} {field term : String} (h : term ∈ d.terms field) :
    d.values ≠ [] := by
  intro hnil
  rw [terms, hnil] at h
  cases h

/-- Two documents do not share a number, unless one of them has no value. -/
def Apart (d e : Document) : Prop := d.values ≠ [] → e.values ≠ [] → d.id ≠ e.id

instance symmApart : Std.Symm Apart := ⟨fun _ _ h hd he => (h he hd).symm⟩

end Document

namespace Index

variable {idx idx' : Index} {docs : List Document} {d : Document} {field term : String} {id : DocId}

/-! ## Listing one value -/

/-- The documents that a term lists. -/
def docsOf (idx : Index) (field term : String) : DocSet := (idx.docs? field term).getD ∅

theorem docs?_post (idx : Index) (f t : String) (new : DocId) (field term : String) :
    (idx.post f t new).docs? field term =
      if field = f ∧ term = t then some ((idx.docsOf f t).insert new) else idx.docs? field term := by
  rw [docs?, terms?, post, SortedMap.get?_alter]
  by_cases hf : field = f
  · subst hf
    rw [if_pos rfl, Option.bind_some, SortedMap.get?_alter]
    have hterms (s : String) : ((idx.postings.get? field).getD ∅).get? s = idx.docs? field s := by
      rw [docs?, terms?]
      cases idx.postings.get? field <;> rfl
    rw [hterms, hterms]
    by_cases ht : term = t
    · rw [if_pos ht, if_pos ⟨rfl, ht⟩, docsOf]
    · rw [if_neg ht, if_neg fun h => ht h.2]
  · rw [if_neg hf, if_neg fun h => hf h.1]
    rfl

theorem mem_docsOf_post {f t : String} {new : DocId} :
    id ∈ (idx.post f t new).docsOf field term ↔
      id ∈ idx.docsOf field term ∨ id = new ∧ field = f ∧ term = t := by
  rw [docsOf, docs?_post]
  by_cases h : field = f ∧ term = t
  · obtain ⟨rfl, rfl⟩ := h
    simp [or_comm]
  · simp [h, docsOf]

theorem docsOf_store (idx : Index) (f t : String) (new : DocId) :
    (idx.store f t new).docsOf field term = idx.docsOf field term := rfl

theorem mem_docsOf_addValue {new : DocId} {name : String} {v : Value} :
    id ∈ (idx.addValue new name v).docsOf field term ↔
      id ∈ idx.docsOf field term ∨ id = new ∧ term ∈ v.termsIn field name := by
  have hplain : id ∈ ((idx.post name v.toText new).store name v.toText new).docsOf field term ↔
      id ∈ idx.docsOf field term ∨ id = new ∧ name = field ∧ term = v.toText := by
    rw [docsOf_store, mem_docsOf_post, eq_comm (a := field)]
  have hterms : term ∈ v.termsIn field name ↔
      (name = field ∧ term = v.toText) ∨
        rangeField name = field ∧ ∃ n, v.number? = some n ∧ n.encode = term := by
    by_cases hn : name = field <;> by_cases hr : rangeField name = field <;>
      simp [Value.termsIn, hn, hr]
  rw [addValue, hterms]
  cases v.number? with
  | none =>
    rw [hplain]
    simp
  | some n =>
    rw [mem_docsOf_post, hplain, or_assoc, ← and_or_left]
    simp [eq_comm]

/-! ## Listing the values of a document -/

/-- The index with each of some values of a document added. -/
def addValues (idx : Index) (new : DocId) (values : List (String × Value)) : Index :=
  values.foldl (fun idx x => idx.addValue new x.1 x.2) idx

theorem addValues_concat (idx : Index) (new : DocId) (values : List (String × Value))
    (x : String × Value) :
    idx.addValues new (values ++ [x]) = (idx.addValues new values).addValue new x.1 x.2 := by
  rw [addValues, List.foldl_append]
  rfl

theorem mem_docsOf_addValues {new : DocId} {values : List (String × Value)} :
    id ∈ (idx.addValues new values).docsOf field term ↔
      id ∈ idx.docsOf field term ∨
        id = new ∧ term ∈ values.flatMap fun x => x.2.termsIn field x.1 := by
  induction values using List.reverseRecOn with
  | nil => simp [addValues]
  | append_singleton values x ih =>
    rw [addValues_concat, mem_docsOf_addValue, ih, List.flatMap_append, List.mem_append,
      List.flatMap_singleton, or_assoc, ← and_or_left]

theorem contains_addValue (idx : Index) (new : DocId) (name : String) (v : Value) (id : DocId) :
    (idx.addValue new name v).stored.contains id = (decide (id = new) || idx.stored.contains id) := by
  have hstored : (idx.addValue new name v).stored =
      ((idx.post name v.toText new).store name v.toText new).stored := by
    rw [addValue]
    cases v.number? <;> rfl
  rw [hstored, SortedMap.contains, store, SortedMap.get?_alter]
  by_cases h : id = new
  · simp [h]
  · rw [if_neg h, decide_eq_false h, Bool.false_or]
    rfl

theorem contains_addValues (idx : Index) (new : DocId) (values : List (String × Value))
    (id : DocId) : (idx.addValues new values).stored.contains id = true ↔
      idx.stored.contains id = true ∨ id = new ∧ values ≠ [] := by
  induction values using List.reverseRecOn with
  | nil => simp [addValues]
  | append_singleton values x ih =>
    rw [addValues_concat, contains_addValue, Bool.or_eq_true, decide_eq_true_iff, ih]
    have hne : values ++ [x] ≠ [] := by simp
    simp only [hne, ne_eq, not_false_eq_true, and_true]
    tauto

/-! ## Visiting what is listed -/

theorem mem_pairs : (term, id) ∈ idx.pairs field ↔ id ∈ idx.docsOf field term := by
  have hempty : id ∉ (∅ : DocSet) := SortedSet.not_mem_empty
  rw [pairs, docsOf, docs?]
  cases idx.terms? field with
  | none => simp [hempty]
  | some terms =>
    rw [Option.bind_some]
    simp only [List.mem_flatMap, List.mem_map, Prod.mk.injEq, Prod.exists]
    constructor
    · rintro ⟨t, docs, he, d, hd, rfl, rfl⟩
      rw [SortedMap.get?_eq_some_iff.mpr he]
      exact hd
    · intro hd
      cases hg : terms.get? term with
      | none =>
        rw [hg] at hd
        exact absurd hd hempty
      | some docs =>
        rw [hg] at hd
        exact ⟨term, docs, SortedMap.get?_eq_some_iff.mp hg, id, hd, rfl, rfl⟩

/-- No pair is visited twice. -/
theorem nodup_pairs (idx : Index) (field : String) : (idx.pairs field).Nodup := by
  rw [pairs]
  cases idx.terms? field with
  | none => exact List.nodup_nil
  | some terms =>
    refine List.nodup_flatMap.mpr ⟨fun e _ => ?_, terms.ascending.imp fun {e f} hef => ?_⟩
    · have hdocs : e.2.toList.Nodup := e.2.ascending.imp SortKey.before_ne
      exact hdocs.map fun a b hab => (Prod.mk.inj hab).2
    · intro x hx hy
      obtain ⟨a, -, rfl⟩ := List.mem_map.mp hx
      obtain ⟨b, -, hb⟩ := List.mem_map.mp hy
      exact SortKey.before_ne hef (Prod.mk.inj hb).1.symm

/-! ## Listing documents -/

theorem exists_mem_concat {α : Type} {P : α → Prop} {l : List α} {a : α} :
    (∃ x ∈ l ++ [a], P x) ↔ (∃ x ∈ l, P x) ∨ P a := by
  simp only [List.mem_append, List.mem_singleton, or_and_right, exists_or, exists_eq_left]

theorem add_eq_ok_iff : idx.add d = .ok idx' ↔ idx.stored.contains d.id = false ∧
    idx' = { idx.addValues d.id d.values with
      slots := max idx.slots (d.id.toNat + 1), docCount := idx.docCount + 1 } := by
  rw [add]
  by_cases h : idx.stored.contains d.id = true
  · simp [h]
  · rw [Bool.not_eq_true] at h
    rw [h, if_neg Bool.false_ne_true]
    constructor
    · rintro ⟨⟩
      exact ⟨rfl, rfl⟩
    · rintro ⟨-, rfl⟩
      rfl

theorem mem_allDocs : id ∈ idx.allDocs ↔ idx.stored.contains id = true := by
  rw [SortedSet.mem_def, allDocs, SortedMap.mem_keys_iff, SortedMap.contains,
    Option.isSome_iff_exists]

/-- The index lists these documents, which have been added to it in this order. -/
structure Lists (idx : Index) (docs : List Document) : Prop where
  posted : ∀ field term id, id ∈ idx.docsOf field term ↔
    ∃ d ∈ docs, d.id = id ∧ term ∈ d.terms field
  taken : ∀ id, idx.stored.contains id = true ↔ ∃ d ∈ docs, d.id = id ∧ d.values ≠ []
  apart : docs.Pairwise Document.Apart
  below : ∀ d ∈ docs, d.id.toNat < idx.slots
  /-- There are no more slots than the greatest number needs. -/
  needed : idx.slots = 0 ∨ ∃ d ∈ docs, idx.slots = d.id.toNat + 1

namespace Lists

theorem fresh : Lists {} [] where
  posted field term id := by
    have hnone : ({} : Index).docsOf field term = SortedSet.empty := rfl
    simp [hnone]
  taken id := by
    have hnone : ({} : Index).stored.contains id = false := rfl
    simp [hnone]
  apart := .nil
  below := by simp
  needed := .inl rfl

theorem add (h : idx.Lists docs) (ha : idx.add d = .ok idx') : idx'.Lists (docs ++ [d]) := by
  obtain ⟨hfree, rfl⟩ := add_eq_ok_iff.mp ha
  refine ⟨fun field term id => ?_, fun id => ?_, ?_, fun e he => ?_, ?_⟩
  · have hmem : id ∈ (idx.addValues d.id d.values).docsOf field term ↔
        ∃ e ∈ docs ++ [d], e.id = id ∧ term ∈ e.terms field := by
      rw [mem_docsOf_addValues, h.posted, exists_mem_concat, eq_comm (a := id)]
      rfl
    exact hmem
  · have hmem : (idx.addValues d.id d.values).stored.contains id = true ↔
        ∃ e ∈ docs ++ [d], e.id = id ∧ e.values ≠ [] := by
      rw [contains_addValues, h.taken, exists_mem_concat, eq_comm (a := id)]
    exact hmem
  · rw [List.pairwise_append]
    refine ⟨h.apart, List.pairwise_singleton _ _, fun e he f hf hv _ hid => ?_⟩
    rw [List.mem_singleton.mp hf] at hid
    have htaken := (h.taken d.id).mpr ⟨e, he, hid, hv⟩
    rw [hfree] at htaken
    cases htaken
  · rcases List.mem_append.mp he with he | he
    · exact Nat.lt_of_lt_of_le (h.below e he) (Nat.le_max_left _ _)
    · rw [List.mem_singleton.mp he]
      exact Nat.lt_of_lt_of_le (Nat.lt_succ_self _) (Nat.le_max_right _ _)
  · right
    rw [exists_mem_concat]
    rcases Nat.le_total idx.slots (d.id.toNat + 1) with hle | hle
    · exact .inr (Nat.max_eq_right hle)
    · rcases h.needed with h0 | ⟨e, he, hs⟩
      · rw [h0] at hle
        omega
      · exact .inl ⟨e, he, (Nat.max_eq_left hle).trans hs⟩

theorem eq_of_id_eq (h : idx.Lists docs) {e : Document} (hd : d ∈ docs) (he : e ∈ docs)
    (hdv : d.values ≠ []) (hev : e.values ≠ []) (hid : d.id = e.id) : d = e := by
  by_contra hne
  exact h.apart.forall hd he hne hdv hev hid

/-- Unless the greatest document number is in use the limit of the index is its slots. -/
theorem toNat_maxDoc (h : idx.Lists docs) (hid : ∀ d ∈ docs, d.id.toNat < 4294967295) :
    idx.maxDoc.toNat = idx.slots := by
  have hbound : idx.slots < UInt32.size := by
    rcases h.needed with h0 | ⟨d, hd, hs⟩
    · rw [h0]
      decide
    · have := hid d hd
      change idx.slots < 4294967296
      omega
  rw [maxDoc, UInt32.toNat_ofNat', Nat.mod_eq_of_lt hbound]

/-- Every pair is one of a document, which is below the limit then. -/
theorem lt_maxDoc (h : idx.Lists docs) (hid : ∀ d ∈ docs, d.id.toNat < 4294967295)
    (field : String) : ∀ x ∈ idx.pairs field, x.2.toNat < idx.maxDoc.toNat := by
  rintro ⟨term, id⟩ hx
  obtain ⟨d, hd, rfl, -⟩ := (h.posted _ _ _).mp (mem_pairs.mp hx)
  rw [h.toNat_maxDoc hid]
  exact h.below d hd

theorem docsOf_iff (h : idx.Lists docs) (hd : d ∈ docs) (hv : d.values ≠ []) (field term : String) :
    d.id ∈ idx.docsOf field term ↔ term ∈ d.terms field := by
  rw [h.posted]
  constructor
  · rintro ⟨e, he, hid, ht⟩
    rw [← h.eq_of_id_eq he hd (Document.values_ne_nil_of_mem_terms ht) hv hid]
    exact ht
  · exact fun ht => ⟨d, hd, rfl, ht⟩

end Lists

theorem lists_of_ofDocuments (h : ofDocuments docs = .ok idx) : idx.Lists docs := by
  induction docs using List.reverseRecOn generalizing idx with
  | nil =>
    cases h
    exact .fresh
  | append_singleton docs d ih =>
    rw [ofDocuments, List.foldlM_append] at h
    obtain ⟨former, hformer, hd⟩ := bind_eq_ok.mp h
    have hadd : former.add d = .ok idx := by
      rw [List.foldlM_cons] at hd
      obtain ⟨last, hlast, hret⟩ := bind_eq_ok.mp hd
      cases hret
      exact hlast
    exact (ih hformer).add hadd

end Index

end FacetedSearch
