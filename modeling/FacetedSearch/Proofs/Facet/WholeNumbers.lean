import FacetedSearch.Proofs.Facet.RangeGroups
import FacetedSearch.Proofs.Number.Exact
import FacetedSearch.Proofs.Number.RoundTrip
import FacetedSearch.Proofs.Number.Whole
import Mathlib.Data.List.Dedup
import Mathlib.Data.List.Sort

/-!
# FacetedSearch.Proofs.Facet.WholeNumbers — the 32-bit whole numbers that are read of a document

Numbers are read of a document's terms in a range field, and an index lists a document once under
each of its terms.  So where documents store nothing but 32-bit whole numbers in a field, those read
of a document are the different ones that it stores, each once and in ascending order
(`StoresInts.visitedTerms_rangeField`), and they can be read unless the field is declared otherwise
(`StoresInts.exists_numberTable`).
-/

namespace FacetedSearch

open SortKey (Before)

/-! ## Stored numbers -/

/-- The 32-bit whole number that a value is. -/
def Value.int? : Value → Option Int
  | .number (.int v) => some v.toInt
  | _ => none

/-- The 32-bit whole numbers that the document of a number stores in a field. -/
def storedInts (docs : List Document) (field : String) (id : DocId) : List Int :=
  (docs.filter fun d => decide (d.id = id)).flatMap fun d =>
    (d.values.filter fun x => decide (x.1 = field)).filterMap fun x => x.2.int?

/-- The different ones of these numbers, in ascending order. -/
def distinctInts (docs : List Document) (field : String) (id : DocId) : List Int :=
  (storedInts docs field id).dedup.insertionSort (· ≤ ·)

/-- Documents store nothing but 32-bit whole numbers in a field, which is no range field, and
nothing of their own in its range field. -/
structure StoresInts (docs : List Document) (field : String) : Prop where
  plain : rangeSuffix.isSuffixOf field.toList = false
  ints : ∀ d ∈ docs, ∀ v, (field, v) ∈ d.values → ∃ i : Int32, v = .number (.int i)
  ranged : ∀ d ∈ docs, ∀ v, (rangeField field, v) ∉ d.values

variable {docs : List Document} {d : Document} {idx : Index} {field term : String} {id : DocId}

theorem Value.int?_eq_some_iff {v : Value} {i : Int} :
    v.int? = some i ↔ ∃ n : Int32, v = .number (.int n) ∧ n.toInt = i := by
  constructor
  · intro h
    unfold int? at h
    split at h
    · exact ⟨_, rfl, Option.some.inj h⟩
    · cases h
  · rintro ⟨n, rfl, rfl⟩
    rfl

theorem mem_storedInts {i : Int} :
    i ∈ storedInts docs field id ↔ ∃ d ∈ docs, d.id = id ∧
      ∃ n : Int32, (field, Value.number (.int n)) ∈ d.values ∧ n.toInt = i := by
  simp only [storedInts, List.mem_flatMap, List.mem_filterMap, List.mem_filter, decide_eq_true_eq,
    Value.int?_eq_some_iff, Prod.exists]
  constructor
  · rintro ⟨d, ⟨hd, hid⟩, name, v, ⟨hv, rfl⟩, n, rfl, hn⟩
    exact ⟨d, hd, hid, n, hv, hn⟩
  · rintro ⟨d, hd, hid, n, hv, hn⟩
    exact ⟨d, ⟨hd, hid⟩, field, _, ⟨hv, rfl⟩, n, rfl, hn⟩

theorem mem_distinctInts {i : Int} :
    i ∈ distinctInts docs field id ↔ i ∈ storedInts docs field id := by
  simp [distinctInts]

/-- A range field belongs to one field, and to itself. -/
theorem rangeField_eq_iff {name : String} (h : rangeSuffix.isSuffixOf field.toList = false) :
    rangeField name = rangeField field ↔ name = field ∨ name = rangeField field := by
  constructor
  · intro heq
    by_cases hname : rangeSuffix.isSuffixOf name.toList = true
    · rw [rangeField, if_pos hname] at heq
      exact .inr heq
    · rw [rangeField, if_neg hname, rangeField, h, if_neg Bool.false_ne_true,
        String.ofList_inj, List.append_cancel_right_eq, String.toList_inj] at heq
      exact .inl heq
  · rintro (rfl | rfl)
    · rfl
    · exact rangeField_rangeField field

/-- The terms of a document in the range field are those of its numbers. -/
theorem StoresInts.mem_terms_iff (h : StoresInts docs field) (hd : d ∈ docs) :
    term ∈ d.terms (rangeField field) ↔
      ∃ n : Int32, (field, Value.number (.int n)) ∈ d.values ∧ (Number.int n).encode = term := by
  rw [Document.terms, List.mem_flatMap]
  constructor
  · rintro ⟨⟨name, v⟩, hv, hterm⟩
    have hname : name ≠ rangeField field := by
      rintro rfl
      exact h.ranged d hd v hv
    simp only [Value.termsIn, if_neg hname, List.nil_append] at hterm
    split at hterm <;> rename_i hrange
    · obtain rfl := ((rangeField_eq_iff h.plain).mp hrange).resolve_right hname
      obtain ⟨n, rfl⟩ := h.ints d hd v hv
      exact ⟨n, hv, (List.mem_singleton.mp hterm).symm⟩
    · cases hterm
  · rintro ⟨n, hv, rfl⟩
    exact ⟨_, hv, by simp [Value.termsIn, Value.number?]⟩

/-! ## Visited numbers -/

/-- The terms of a document are visited in ascending order. -/
theorem visitedTerms_ascending (idx : Index) (field : String) (id : DocId) :
    (visitedTerms (idx.pairs field) id).Pairwise Before := by
  rw [visitedTerms, List.pairwise_map, List.pairwise_filter, Index.pairs]
  cases idx.terms? field with
  | none => exact .nil
  | some terms =>
    refine List.pairwise_flatMap.mpr ⟨fun e _ => ?_, terms.ascending.imp fun {e f} hef => ?_⟩
    · -- one term has the document once
      refine List.pairwise_map.mpr (e.2.ascending.imp fun {a b} hab ha hb => ?_)
      have hsame : a = b := (of_decide_eq_true ha).trans (of_decide_eq_true hb).symm
      exact absurd hsame (SortKey.before_ne hab)
    · simp only [List.mem_map]
      rintro _ ⟨a, -, rfl⟩ _ ⟨b, -, rfl⟩ - -
      exact hef

theorem distinctInts_ascending (docs : List Document) (field : String) (id : DocId) :
    (distinctInts docs field id).Pairwise (· < ·) := by
  have hsorted : (distinctInts docs field id).Pairwise (· ≤ ·) := List.pairwise_insertionSort _ _
  have hnodup : (distinctInts docs field id).Nodup :=
    (List.perm_insertionSort _ _).nodup_iff.mpr (List.nodup_dedup _)
  exact hsorted.imp₂ (fun a b hle hne => lt_of_le_of_ne hle hne) hnodup

theorem fits_of_mem_distinctInts {i : Int} (h : i ∈ distinctInts docs field id) :
    WholeType.int.fits i = true := by
  obtain ⟨_, -, -, n, -, rfl⟩ := mem_storedInts.mp (mem_distinctInts.mp h)
  exact Literal.fitsInt_toInt n

/-- The visited terms of a document in the range field are those of its different numbers. -/
theorem StoresInts.visitedTerms_rangeField (h : StoresInts docs field) (hlists : idx.Lists docs)
    (id : DocId) : visitedTerms (idx.pairs (rangeField field)) id =
      (distinctInts docs field id).map fun i => WholeType.int.term (WholeType.int.ofInt i) := by
  have hencode (n : Int32) :
      WholeType.int.term (WholeType.int.ofInt n.toInt) = (Number.int n).encode :=
    congrArg (fun v => (Number.int v).encode) (Int32.ofInt_toInt n)
  refine SortedSet.eq_of_ascending (visitedTerms_ascending idx _ id) ?_ fun term => ?_
  · refine List.pairwise_map.mpr ((distinctInts_ascending docs field id).imp_of_mem ?_)
    intro i j hi hj hij
    rw [Before, WholeType.cmp_term, WholeType.toInt_ofInt (fits_of_mem_distinctInts hi),
      WholeType.toInt_ofInt (fits_of_mem_distinctInts hj)]
    exact Int.compare_eq_lt.mpr hij
  · rw [mem_visitedTerms, Index.mem_pairs, hlists.posted, List.mem_map]
    constructor
    · rintro ⟨d, hd, hid, hterm⟩
      obtain ⟨n, hv, rfl⟩ := (h.mem_terms_iff hd).mp hterm
      exact ⟨n.toInt, mem_distinctInts.mpr (mem_storedInts.mpr ⟨d, hd, hid, n, hv, rfl⟩), hencode n⟩
    · rintro ⟨i, hi, rfl⟩
      obtain ⟨d, hd, hid, n, hv, rfl⟩ := mem_storedInts.mp (mem_distinctInts.mp hi)
      exact ⟨d, hd, hid, (h.mem_terms_iff hd).mpr ⟨n, hv, (hencode n).symm⟩⟩

/-! ## Decoded numbers -/

/-- A type that decodes the term of a 32-bit whole number decodes it as that number. -/
theorem SortType.eq_ofInt_of_decode {type : SortType} {v : Int32} {x : Double}
    (h : type.decode (Number.int v).encode = .ok x) : x = Binary.ofInt v.toInt := by
  have hrank (t : NumberType) (ht : 'i' ≠ t.tag) :
      Sortable.rank t (Number.int v).encode = .error (.sortableWidth t.tag t.width _) :=
    Sortable.rank_of_tag_ne (n := .int v) ht
  unfold decode at h
  cases type with
  | long =>
    rw [Sortable.decodeLong, hrank .long (by decide)] at h
    cases h
  | float =>
    rw [Sortable.decodeFloat, hrank .float (by decide)] at h
    cases h
  | double =>
    rw [Sortable.decodeDouble, hrank .double (by decide)] at h
    cases h
  | none | string | stringVal | int | byte | short | custom =>
    rw [Sortable.decodeInt_encode] at h
    cases h
    rfl

/-- What a document's terms in the range field decode to, if they all decode. -/
theorem View.numbersOf_eq_ok (h : StoresInts docs field) (hlists : idx.Lists docs) {type : SortType}
    {numbers : List Double}
    (hnumbers : (View.ofIndex idx).numbersOf (rangeField field) type id = .ok numbers) :
    numbers = (distinctInts docs field id).map Binary.ofInt := by
  change (visitedTerms (idx.pairs (rangeField field)) id).mapM type.decode = _ at hnumbers
  rw [h.visitedTerms_rangeField hlists, mapM_eq_ok_iff, List.forall₂_map_left_iff,
    ← mapM_eq_ok_iff (f := fun i => type.decode (WholeType.int.term (WholeType.int.ofInt i)))]
    at hnumbers
  refine eq_map_of_mapM_eq_ok hnumbers fun i hi x hx => ?_
  have hvalue : (WholeType.int.ofInt i : Int32).toInt = i :=
    WholeType.toInt_ofInt (fits_of_mem_distinctInts hi)
  rw [SortType.eq_ofInt_of_decode hx, hvalue]

/-! ## Tables of numbers -/

/-- Where every term decodes the rows can be added up. -/
theorem NumberTable.exists_foldlM_addRow {type : SortType} {entries : List (DocId × List String)}
    (h : ∀ e ∈ entries, ∀ term ∈ e.2, ∃ x, type.decode term = .ok x) (t : NumberTable) :
    ∃ t', entries.foldlM (addRow type) t = .ok t' := by
  induction entries generalizing t with
  | nil => exact ⟨t, rfl⟩
  | cons e rest ih =>
    obtain ⟨he, hrest⟩ := List.forall_mem_cons.mp h
    obtain ⟨numbers, hnumbers⟩ := exists_mapM_iff.mpr he
    rw [List.foldlM_cons, addRow, hnumbers]
    exact ih hrest _

/-- A range field that is read as 32-bit whole numbers has its table of numbers. -/
theorem StoresInts.exists_numberTable (h : StoresInts docs field) (hlists : idx.Lists docs)
    (hid : ∀ d ∈ docs, d.id.toNat < 4294967295) {type : SortType}
    (htype : type = .none ∨ type = .int) :
    ∃ table, (View.ofIndex idx).answer (Session.numberTable (rangeField field) type) =
      .ok table := by
  obtain ⟨terms, hterms⟩ :=
    TermTable.exists_ofPairs (rangeField field) (hlists.lt_maxDoc hid (rangeField field))
  have hanswer : (View.ofIndex idx).answer (Session.termTable (rangeField field)) = .ok terms := by
    rw [View.answer_termTable, View.answer_buildTerms]
    exact hterms
  rw [View.answer_numberTable, hanswer]
  refine NumberTable.exists_foldlM_addRow (fun e he term hterm => ?_) _
  have hrow : terms.terms e.1 = e.2 := by
    rw [TermTable.terms, SortedMap.get?_eq_some_iff.mpr he]
    rfl
  rw [← hrow, TermTable.terms_ofPairs hterms, h.visitedTerms_rangeField hlists] at hterm
  obtain ⟨i, -, rfl⟩ := List.mem_map.mp hterm
  have hdecode := congrArg (Except.map fun v => (Binary.ofInt v.toInt : Double))
    (Sortable.decodeInt_encode (WholeType.int.ofInt i))
  rcases htype with rfl | rfl <;> exact ⟨_, hdecode⟩

end FacetedSearch
