import FacetedSearch.Proofs.Generation.Coherence
import FacetedSearch.Proofs.Index.Intake

/-!
# FacetedSearch.Proofs.Index.Limit — the limit of an index against its document numbers

The limit is one more than the greatest document number, counted in document numbers.  So it bounds
every pair, and every term table can be built, as long as the greatest document number there is
has not been taken in.  One more than that number is none: the limit then is 0, with all pairs
beyond it.
-/

namespace FacetedSearch

namespace Index.Lists

variable {idx : Index} {docs : List Document} {d : Document}

theorem maxDoc_eq (h : idx.Lists docs) (hd : d ∈ docs) (hgreatest : ∀ e ∈ docs, e.id ≤ d.id) :
    idx.maxDoc = d.id + 1 := by
  have hslots : idx.slots = d.id.toNat + 1 := by
    have hbelow := h.below d hd
    rcases h.needed with h0 | ⟨e, he, hs⟩
    · omega
    · have hle := UInt32.le_iff_toNat_le.mp (hgreatest e he)
      omega
  rw [maxDoc, hslots, UInt32.ofNat_add, UInt32.ofNat_toNat]
  rfl

theorem maxDoc_eq_zero (h : idx.Lists docs) (hd : d ∈ docs) (hid : d.id = 4294967295) :
    idx.maxDoc = 0 := by
  have hgreatest : ∀ e ∈ docs, e.id ≤ d.id := fun e _ => by
    rw [UInt32.le_iff_toNat_le, hid]
    exact Nat.le_of_lt_succ e.id.toNat_lt
  rw [h.maxDoc_eq hd hgreatest, hid]
  rfl

end Index.Lists

/-- With no room for any document the last pair is reported. -/
theorem TermTable.ofPairs_zero (field : String) (pairs : List (String × DocId)) :
    ofPairs field 0 pairs = match pairs.getLast? with
      | some (_, d) => .error (.postingBeyond field d 0)
      | none => .ok { field, documents := 0, rows := ∅, distinct := 0 } := by
  have hall : pairs.filter (fun x => decide ((0 : DocId).toNat ≤ x.2.toNat)) = pairs :=
    List.filter_eq_self.mpr fun x _ => decide_eq_true (Nat.zero_le _)
  rw [ofPairs, hall]
  cases hlast : pairs.getLast? with
  | none =>
    rw [List.getLast?_eq_none_iff.mp hlast]
    rfl
  | some x => rfl

/-- Documents taken in one after another, in any order and with any numbers.  The limit of the index
is 0 without documents, and one more than the greatest document number otherwise, in the arithmetic
of document numbers.  Unless the greatest number there is has been taken in, the limit is beyond
every pair of every field, and the term table of every field is built and holds exactly the pairs
visited.  Once it has been taken in the limit is 0, and no term table of a field with pairs is built:
the last pair is reported to be beyond the limit. -/
theorem maxDoc_after (docs : List Document) :
    let s := Intake.ofDocuments docs
    let build := fun field => (View.ofIndex s.index).answer (Session.buildTerms field)
    (s.taken = [] → s.index.maxDoc = 0) ∧
    (∀ d ∈ s.taken, (∀ e ∈ s.taken, e.id ≤ d.id) →
      s.index.maxDoc = d.id + 1 ∧
      (d.id ≠ 4294967295 → s.index.maxDoc.toNat = d.id.toNat + 1)) ∧
    ((∀ d ∈ s.taken, d.id ≠ 4294967295) → ∀ field,
      (∀ x ∈ s.index.pairs field, x.2 < s.index.maxDoc) ∧
      ∃ table, build field = .ok table ∧
        ∀ term id, term ∈ table.terms id ↔ (term, id) ∈ s.index.pairs field) ∧
    ((∃ d ∈ s.taken, d.id = 4294967295) → s.index.maxDoc = 0 ∧ ∀ field,
      (s.index.pairs field = [] → ∃ table, build field = .ok table) ∧
      ∀ term id, (s.index.pairs field).getLast? = some (term, id) →
        build field = .error (.postingBeyond field id 0)) := by
  intro s build
  have hlists : s.index.Lists s.taken := (Intake.sound_ofDocuments docs).lists
  have hbuild (field : String) :
      build field = TermTable.ofPairs field s.index.maxDoc (s.index.pairs field) :=
    View.answer_buildTerms _ _
  refine ⟨fun hnil => ?_, fun d hd hgreatest => ⟨hlists.maxDoc_eq hd hgreatest, fun hid => ?_⟩,
    fun hfree field => ?_, fun ⟨d, hd, hid⟩ => ?_⟩
  · have hslots : s.index.slots = 0 := by
      rcases hlists.needed with h0 | ⟨d, hd, -⟩
      · exact h0
      · rw [hnil] at hd
        cases hd
    rw [Index.maxDoc, hslots]
    rfl
  · have hne : d.id.toNat ≠ 4294967295 := fun heq => hid (UInt32.toNat_inj.mp heq)
    have hlt := d.id.toNat_lt
    rw [hlists.maxDoc_eq hd hgreatest, UInt32.toNat_add]
    exact Nat.mod_eq_of_lt (by change d.id.toNat + 1 < 4294967296; omega)
  · have hlt : ∀ d ∈ s.taken, d.id.toNat < 4294967295 := fun d hd => by
      have hne : d.id.toNat ≠ 4294967295 := fun heq => hfree d hd (UInt32.toNat_inj.mp heq)
      have := d.id.toNat_lt
      omega
    have hbelow := hlists.lt_maxDoc hlt field
    obtain ⟨table, htable⟩ := TermTable.exists_ofPairs field hbelow
    refine ⟨fun x hx => UInt32.lt_iff_toNat_lt.mpr (hbelow x hx), table,
      (hbuild field).trans htable, fun term id => ?_⟩
    rw [TermTable.terms_ofPairs htable, mem_visitedTerms]
  · have hzero := hlists.maxDoc_eq_zero hd hid
    refine ⟨hzero, fun field => ⟨fun hnil => ?_, fun term id hlast => ?_⟩⟩
    · rw [hbuild, hzero, TermTable.ofPairs_zero, hnil]
      exact ⟨_, rfl⟩
    · rw [hbuild, hzero, TermTable.ofPairs_zero, hlast]

/-- An index of one document, which has the greatest number there is: its limit is 0, its pair is
not below the limit, and the term table of the field is not built. -/
theorem maxDoc_greatest :
    let d : Document := { id := 4294967295, fields := [("color", [.text "red"])] }
    let s := Intake.ofDocuments [d]
    s.taken = [d] ∧ s.index.maxDoc = 0 ∧ s.index.pairs "color" = [("red", 4294967295)] ∧
      (View.ofIndex s.index).answer (Session.buildTerms "color") =
        .error (.postingBeyond "color" 4294967295 0) := by
  decide

end FacetedSearch
