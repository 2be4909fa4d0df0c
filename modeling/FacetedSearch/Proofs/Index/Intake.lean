import FacetedSearch.Proofs.Index.Content
import Mathlib.Data.List.Dedup

/-!
# FacetedSearch.Proofs.Index.Intake — documents offered to an index one after another

An index that refuses a document stays as it is, so what it holds is what it took in
(`Intake.ofDocuments`).  A document number is taken once a document with a value has it.  Hence no
two documents with a value share a number, and all documents of the index are theirs.  A document
without a value takes no number: it is counted each time it is offered, and is not among all
documents.  `intake_after` states both, and that nothing else comes between the count and the
documents.
-/

namespace FacetedSearch

/-- An index, and the documents it took in. -/
structure Intake where
  index : Index := {}
  taken : List Document := []
deriving DecidableEq

namespace Intake

/-- Offer a document.  Where it is refused nothing changes. -/
def offer (s : Intake) (d : Document) : Intake :=
  match s.index.add d with
  | .ok index => { index, taken := s.taken ++ [d] }
  | .error _ => s

/-- What becomes of an empty index when some documents are offered to it. -/
def ofDocuments (docs : List Document) : Intake := docs.foldl offer {}

/-- The documents with a value that were taken in. -/
def valued (s : Intake) : List Document := s.taken.filter fun d => decide (d.values ≠ [])

variable {s : Intake} {d : Document}

theorem mem_valued : d ∈ s.valued ↔ d ∈ s.taken ∧ d.values ≠ [] := by
  simp [valued]

theorem length_taken (s : Intake) :
    s.taken.length = s.valued.length + s.taken.countP fun d => decide (d.values = []) := by
  have hvalued : s.valued.length = s.taken.countP fun d => decide (d.values ≠ []) :=
    List.countP_eq_length_filter.symm
  rw [hvalued, List.length_eq_countP_add_countP (p := fun d : Document => decide (d.values ≠ []))]
  simp

theorem ofDocuments_concat (docs : List Document) (d : Document) :
    ofDocuments (docs ++ [d]) = (ofDocuments docs).offer d := by
  simp [ofDocuments]

/-! ## The index lists what it took in -/

/-- The index lists the documents it took in, and has counted each. -/
structure Sound (s : Intake) : Prop where
  lists : s.index.Lists s.taken
  counted : s.index.docCount = s.taken.length

theorem Sound.offer (h : s.Sound) (d : Document) : (s.offer d).Sound := by
  unfold Intake.offer
  cases ha : s.index.add d with
  | error e => exact h
  | ok index =>
    refine ⟨h.lists.add ha, ?_⟩
    obtain ⟨-, rfl⟩ := Index.add_eq_ok_iff.mp ha
    simp [h.counted]

theorem sound_ofDocuments (docs : List Document) : (ofDocuments docs).Sound := by
  induction docs using List.reverseRecOn with
  | nil => exact ⟨.fresh, rfl⟩
  | append_singleton docs d ih =>
    rw [ofDocuments_concat]
    exact ih.offer d

namespace Sound

/-- A document is taken in unless one with a value that was taken in has its number. -/
theorem add_isOk_iff (h : s.Sound) :
    (∃ index, s.index.add d = .ok index) ↔ ∀ e ∈ s.valued, e.id ≠ d.id := by
  have htaken := h.lists.taken d.id
  constructor
  · rintro ⟨index, ha⟩ e he hid
    obtain ⟨hmem, hv⟩ := mem_valued.mp he
    have hcontains := htaken.mpr ⟨e, hmem, hid, hv⟩
    rw [(Index.add_eq_ok_iff.mp ha).1] at hcontains
    cases hcontains
  · intro hfree
    have hcontains : s.index.stored.contains d.id = false := by
      rw [← Bool.not_eq_true, htaken]
      rintro ⟨e, hmem, hid, hv⟩
      exact hfree e (mem_valued.mpr ⟨hmem, hv⟩) hid
    exact ⟨_, Index.add_eq_ok_iff.mpr ⟨hcontains, rfl⟩⟩

/-- No two documents with a value share a number. -/
theorem nodup_valued (h : s.Sound) : (s.valued.map Document.id).Nodup := by
  have hapart : s.valued.Pairwise fun d e => d.id ≠ e.id := by
    refine (h.lists.apart.filter _).imp_of_mem fun {d e} hd he hde => ?_
    exact hde (mem_valued.mp hd).2 (mem_valued.mp he).2
  exact List.pairwise_map.mpr hapart

/-- All documents of the index are those with a value. -/
theorem size_allDocs (h : s.Sound) : s.index.allDocs.size = s.valued.length := by
  have hdocs : s.index.allDocs.toList.Nodup := s.index.allDocs.ascending.imp SortKey.before_ne
  have hperm : s.index.allDocs.toList.Perm (s.valued.map Document.id) := by
    rw [List.perm_ext_iff_of_nodup hdocs h.nodup_valued]
    intro id
    rw [← SortedSet.mem_def, Index.mem_allDocs, h.lists.taken, List.mem_map]
    constructor
    · rintro ⟨d, hd, hid, hv⟩
      exact ⟨d, mem_valued.mpr ⟨hd, hv⟩, hid⟩
    · rintro ⟨d, hd, hid⟩
      obtain ⟨hmem, hv⟩ := mem_valued.mp hd
      exact ⟨d, hmem, hid, hv⟩
  rw [SortedSet.size, hperm.length_eq, List.length_map]

end Sound

end Intake

/-- Documents offered to an empty index in any order, with values or without.  The next one is taken
in unless one with a value that was taken in has its number; it is refused as indexed already
otherwise, and nothing changes.  Each document taken in has been counted.  All documents are those
with a value, whose numbers differ.  So the count goes beyond them by the documents without a value;
where there is none of these, it is the number of different document numbers. -/
theorem intake_after (docs : List Document) (d : Document) :
    let s := Intake.ofDocuments docs
    ((∃ index, s.index.add d = .ok index) ↔ ∀ e ∈ s.taken, e.values ≠ [] → e.id ≠ d.id) ∧
      (∀ e, s.index.add d = .error e → e = .alreadyIndexed d.id ∧ e.kind = .invalidState ∧
        Intake.ofDocuments (docs ++ [d]) = s) ∧
      s.index.docCount = s.taken.length ∧
      s.index.allDocs.size = (s.valued.map Document.id).dedup.length ∧
      s.index.docCount = s.index.allDocs.size + s.taken.countP (fun e => decide (e.values = [])) ∧
      ((∀ e ∈ s.taken, e.values ≠ []) →
        s.index.docCount = (s.taken.map Document.id).dedup.length) := by
  intro s
  have hs : s.Sound := Intake.sound_ofDocuments docs
  have hsize : s.index.allDocs.size = (s.valued.map Document.id).dedup.length := by
    rw [hs.nodup_valued.dedup, List.length_map, hs.size_allDocs]
  refine ⟨?_, ?_, hs.counted, hsize, ?_, ?_⟩
  · rw [hs.add_isOk_iff]
    simp only [Intake.mem_valued, and_imp]
  · intro e he
    have hkept : s.offer d = s := by
      unfold Intake.offer
      rw [he]
    have herror : e = .alreadyIndexed d.id := by
      unfold Index.add at he
      split at he
      · exact (Except.error.inj he).symm
      · cases he
    refine ⟨herror, ?_, ?_⟩
    · rw [herror]
      rfl
    · rw [Intake.ofDocuments_concat]
      exact hkept
  · rw [hs.counted, hs.size_allDocs]
    exact s.length_taken
  · intro hv
    have hall : s.valued = s.taken := by
      refine List.filter_eq_self.mpr fun e he => ?_
      exact decide_eq_true (hv e he)
    rw [← hall, hs.nodup_valued.dedup, List.length_map, hall]
    exact hs.counted

/-- A document without a value is taken in again under its number and counted again, and is not
among all documents. -/
theorem valueless_counted_twice :
    let d : Document := { id := 0 }
    let s := Intake.ofDocuments [d, d]
    s.taken = [d, d] ∧ s.index.docCount = 2 ∧ (s.taken.map Document.id).dedup.length = 1 ∧
      s.index.allDocs.size = 0 := by
  decide

end FacetedSearch
