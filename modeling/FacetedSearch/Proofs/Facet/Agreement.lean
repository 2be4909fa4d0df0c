import FacetedSearch.Proofs.Facet.Fault
import FacetedSearch.Proofs.Facet.Reference
import FacetedSearch.Proofs.Number.Canonical

/-!
# FacetedSearch.Proofs.Facet.Agreement — tables of views that agree on some documents

Two views agree on some documents when they visit the same pairs of these.  Their term tables then
have the same rows of these documents (`View.AgreeOn.termTable`).  So do their number tables, or
else one of the two cannot be built, over a term of another document that does not decode
(`View.AgreeOn.numberTable`).  `Alike` is what relates the two outcomes.
-/

namespace FacetedSearch

/-! ## Two outcomes -/

/-- How the outcomes of two runs compare.  Both give results that are related or both fail for one
reason; or else one of them fails to read a term, which it does only under its own condition. -/
inductive Alike (P Q : Prop) {α β : Type} (R : α → β → Prop) :
    Except Error α → Except Error β → Prop
  | ok {a : α} {b : β} (h : R a b) : Alike P Q R (.ok a) (.ok b)
  | error (e : Error) : Alike P Q R (.error e) (.error e)
  | left (hp : P) {e : Error} (he : e.kind = .parse) (y : Except Error β) :
    Alike P Q R (.error e) y
  | right (hq : Q) (x : Except Error α) {e : Error} (he : e.kind = .parse) :
    Alike P Q R x (.error e)

namespace Alike

variable {P Q : Prop} {α β γ δ : Type} {R : α → β → Prop} {S : γ → δ → Prop}

theorem bind {x : Except Error α} {y : Except Error β} {f : α → Except Error γ}
    {g : β → Except Error δ} (h : Alike P Q R x y)
    (hk : ∀ a b, R a b → Alike P Q S (f a) (g b)) : Alike P Q S (x >>= f) (y >>= g) := by
  cases h with
  | ok h => exact hk _ _ h
  | error e => exact .error e
  | left hp he y => exact .left hp he _
  | right hq x he => exact .right hq _ he

theorem mono {P' Q' : Prop} {x : Except Error α} {y : Except Error β} (h : Alike P Q R x y)
    (hp : P → P') (hq : Q → Q') : Alike P' Q' R x y := by
  cases h with
  | ok h => exact .ok h
  | error e => exact .error e
  | left h he y => exact .left (hp h) he y
  | right h x he => exact .right (hq h) x he

theorem mapM {ι : Type} {l : List ι} {f : ι → Except Error α} {g : ι → Except Error β}
    (h : ∀ i ∈ l, Alike P Q R (f i) (g i)) :
    Alike P Q (List.Forall₂ R) (l.mapM f) (l.mapM g) := by
  induction l with
  | nil => exact .ok .nil
  | cons i rest ih =>
    rw [List.mapM_cons, List.mapM_cons]
    have hrest := ih fun j hj => h j (List.mem_cons_of_mem i hj)
    refine (h i List.mem_cons_self).bind fun a b hab => ?_
    refine hrest.bind fun as bs hall => ?_
    exact .ok (.cons hab hall)

theorem mapM_eq {ι : Type} {l : List ι} {f g : ι → Except Error α}
    (h : ∀ i ∈ l, Alike P Q Eq (f i) (g i)) : Alike P Q Eq (l.mapM f) (l.mapM g) := by
  have hall := mapM h
  rw [List.forall₂_eq_eq_eq] at hall
  exact hall

/-- Failures to read a term are told as failures of the facet. -/
theorem unreadable {x : Except Error α} {y : Except Error β} (h : Alike P Q R x y)
    (p : PreparedFacet) (field : String) :
    Alike P Q R (tryCatch x fun e => throw (p.unreadable field e))
      (tryCatch y fun e => throw (p.unreadable field e)) := by
  have hkind {e : Error} (he : e.kind = .parse) : (p.unreadable field e).kind = .parse := by
    rw [PreparedFacet.unreadable, if_pos he]
    rfl
  cases h with
  | ok h => exact .ok h
  | error e => exact .error _
  | left hp he y => exact .left hp (hkind he) _
  | right hq x he => exact .right hq _ (hkind he)

end Alike

/-! ## Terms that do not decode -/

section Decoding

variable {type : SortType} {term : String} {e : Error}

/-- A term that does not decode is not in the form it should have. -/
theorem SortType.kind_of_decode (h : type.decode term = .error e) : e.kind = .parse := by
  unfold SortType.decode at h
  split at h
  · have hlong : Sortable.decodeLong term = .error e := map_eq_error.mp h
    rw [Sortable.decodeLong] at hlong
    exact Sortable.kind_of_rank (bind_pure_eq_error.mp (map_eq_error.mp hlong))
  · have hfloat : Sortable.decodeFloat term = .error e := map_eq_error.mp h
    rw [Sortable.decodeFloat] at hfloat
    exact Sortable.kind_of_rank (map_eq_error.mp hfloat)
  · exact Sortable.kind_of_rank (map_eq_error.mp h)
  · have hint : Sortable.decodeInt term = .error e := map_eq_error.mp h
    rw [Sortable.decodeInt] at hint
    exact Sortable.kind_of_rank (bind_pure_eq_error.mp (map_eq_error.mp hint))

theorem SortType.kind_of_mapM_decode {terms : List String}
    (h : terms.mapM type.decode = .error e) : e.kind = .parse := by
  obtain ⟨before, term, after, -, -, ht⟩ := mapM_eq_error_iff.mp h
  exact type.kind_of_decode ht

/-- A number table fails like its rows, decoded one after the other. -/
theorem NumberTable.foldlM_addRow_eq_error_iff {entries : List (DocId × List String)}
    {t : NumberTable} : entries.foldlM (addRow type) t = .error e ↔
      entries.mapM (fun row => row.2.mapM type.decode) = .error e := by
  induction entries generalizing t with
  | nil =>
    constructor <;>
    · intro h
      cases h
  | cons row rest ih =>
    rw [List.foldlM_cons, List.mapM_cons, addRow]
    cases row.2.mapM type.decode with
    | error e' =>
      change Except.error e' = Except.error e ↔ Except.error e' = Except.error e
      rw [Except.error.injEq, Except.error.injEq]
    | ok numbers =>
      exact (ih (t := { rows := t.rows.insert row.1 numbers })).trans bind_pure_eq_error.symm

theorem NumberTable.kind_of_ofTerms {terms : TermTable}
    (h : NumberTable.ofTerms terms type = .error e) : e.kind = .parse := by
  obtain ⟨before, row, after, -, -, hrow⟩ :=
    mapM_eq_error_iff.mp (NumberTable.foldlM_addRow_eq_error_iff.mp h)
  exact SortType.kind_of_mapM_decode hrow

end Decoding

/-! ## Views that agree on the matched documents -/

namespace View

/-- Every document that a field has a pair for is below the limit. -/
def Bounded (v : View) : Prop :=
  ∀ field pairs, v.scan field = .ok pairs → ∀ x ∈ pairs, x.2.toNat < v.maxDoc.toNat

/-- Without the pairs of other documents, two views visit the same pairs of every field in the same
order, or fail to for the same reason. -/
structure AgreeOn (v w : View) (docs : DocSet) : Prop where
  left : v.Bounded
  right : w.Bounded
  matched : ∀ field,
    (v.scan field).map (matchedPairs · docs) = (w.scan field).map (matchedPairs · docs)

/-- A document outside a set has a term of a field that does not decode. -/
def Hides (v : View) (docs : DocSet) (field : String) (type : SortType) : Prop :=
  ∃ pairs, v.scan field = .ok pairs ∧ ∃ x ∈ pairs, x.2 ∉ docs ∧ ∀ n, type.decode x.1 ≠ .ok n

end View

theorem visitedTerms_matchedPairs (pairs : List (String × DocId)) {docs : DocSet} {d : DocId}
    (hd : d ∈ docs) : visitedTerms (matchedPairs pairs docs) d = visitedTerms pairs d := by
  unfold visitedTerms matchedPairs
  rw [List.filter_filter]
  have hfilter : ∀ x ∈ pairs,
      (decide (x.2 = d) && docs.contains x.2) = decide (x.2 = d) := by
    intro x _
    by_cases hx : x.2 = d
    · subst hx
      simp [SortedSet.contains_iff.mpr hd]
    · simp [hx]
  rw [List.filter_congr hfilter]

/-- What stands in the row of a document has been visited with it. -/
theorem TermTable.mem_pairs_of_mem_terms {field : String} {limit : DocId}
    {pairs : List (String × DocId)} {table : TermTable}
    (h : TermTable.ofPairs field limit pairs = .ok table) {term : String} {d : DocId}
    (ht : term ∈ table.terms d) : (term, d) ∈ pairs := by
  rw [TermTable.terms_ofPairs h] at ht
  exact mem_visitedTerms.mp ht

/-- A row that is not empty belongs to the document whose terms it lists. -/
theorem TermTable.mem_entries_iff {table : TermTable} {d : DocId} {row : List String}
    (hrow : row ≠ []) : (d, row) ∈ table.rows.entries ↔ table.terms d = row := by
  rw [← SortedMap.get?_eq_some_iff, TermTable.terms]
  cases hget : table.rows.get? d with
  | none => simpa using hrow.symm
  | some found => simp

namespace View

variable {v w : View} {docs : DocSet} {field : String} {type : SortType}

/-- The answered scans of a field are those from which its tables are built. -/
theorem termTable_eq_of_scan (hv : v.Bounded) {pairs : List (String × DocId)}
    (hs : v.scan field = .ok pairs) : ∃ table, v.answer (Session.termTable field) = .ok table ∧
      TermTable.ofPairs field v.maxDoc pairs = .ok table := by
  obtain ⟨table, htable⟩ := TermTable.exists_ofPairs field (hv field pairs hs)
  refine ⟨table, ?_, htable⟩
  rw [answer_termTable, answer_buildTerms, hs]
  exact htable

theorem AgreeOn.scans (h : v.AgreeOn w docs) (field : String) :
    (∃ e, v.scan field = .error e ∧ w.scan field = .error e) ∨
      ∃ pairs pairs', v.scan field = .ok pairs ∧ w.scan field = .ok pairs' ∧
        ∀ d ∈ docs, visitedTerms pairs d = visitedTerms pairs' d := by
  have hmatched := h.matched field
  cases hv : v.scan field with
  | error e =>
    rw [hv] at hmatched
    exact .inl ⟨e, rfl, map_eq_error.mp hmatched.symm⟩
  | ok pairs =>
    rw [hv] at hmatched
    cases hw : w.scan field with
    | error e =>
      rw [hw] at hmatched
      cases hmatched
    | ok pairs' =>
      rw [hw] at hmatched
      have heq : matchedPairs pairs docs = matchedPairs pairs' docs := Except.ok.inj hmatched
      refine .inr ⟨pairs, pairs', rfl, rfl, fun d hd => ?_⟩
      rw [← visitedTerms_matchedPairs pairs hd, heq, visitedTerms_matchedPairs pairs' hd]

theorem AgreeOn.termTable (h : v.AgreeOn w docs) {P Q : Prop} (field : String) :
    Alike P Q (fun t u : TermTable => ∀ d ∈ docs, t.terms d = u.terms d)
      (v.answer (Session.termTable field)) (w.answer (Session.termTable field)) := by
  obtain ⟨e, hv, hw⟩ | ⟨pairs, pairs', hv, hw, hterms⟩ := h.scans field
  · rw [answer_termTable, answer_buildTerms, answer_termTable, answer_buildTerms, hv, hw]
    exact .error e
  · obtain ⟨t, ht, hpairs⟩ := termTable_eq_of_scan h.left hv
    obtain ⟨u, hu, hpairs'⟩ := termTable_eq_of_scan h.right hw
    rw [ht, hu]
    refine .ok fun d hd => ?_
    rw [TermTable.terms_ofPairs hpairs, TermTable.terms_ofPairs hpairs']
    exact hterms d hd

/-- A hidden term fails the number table of its field. -/
theorem numberTable_of_hides (hv : v.Bounded) (h : v.Hides docs field type) :
    ∃ e, v.answer (Session.numberTable field type) = .error e ∧ e.kind = .parse := by
  obtain ⟨pairs, hs, x, hx, -, hdecode⟩ := h
  obtain ⟨table, ht, hpairs⟩ := termTable_eq_of_scan hv hs
  have hanswer : v.answer (Session.numberTable field type) = NumberTable.ofTerms table type := by
    rw [answer_numberTable, ht]
    rfl
  rw [hanswer]
  cases hof : NumberTable.ofTerms table type with
  | error e => exact ⟨e, rfl, NumberTable.kind_of_ofTerms hof⟩
  | ok numbers =>
    have hmem : x.1 ∈ table.terms x.2 := by
      rw [TermTable.terms_ofPairs hpairs]
      exact List.mem_map.mpr ⟨x, List.mem_filter.mpr ⟨hx, by simp⟩, rfl⟩
    obtain ⟨n, hn⟩ :=
      exists_mapM_iff.mp ⟨_, NumberTable.values_ofTerms hof x.2⟩ x.1 hmem
    exact absurd hn (hdecode n)

/-- Without hidden terms only rows of matched documents can fail. -/
theorem ofTerms_eq_error_iff (h : ¬ v.Hides docs field type) {pairs : List (String × DocId)}
    {table : TermTable} (hs : v.scan field = .ok pairs)
    (hof : TermTable.ofPairs field v.maxDoc pairs = .ok table) {e : Error} :
    NumberTable.ofTerms table type = .error e ↔
      (table.rows.entries.filter fun row => docs.contains row.1 && !row.2.isEmpty).mapM
        (fun row => row.2.mapM type.decode) = .error e := by
  refine NumberTable.foldlM_addRow_eq_error_iff.trans (mapM_filter_eq_error_iff ?_).symm
  rintro ⟨d, row⟩ hrow hfilter
  refine exists_mapM_iff.mpr fun term hterm => ?_
  have hne : row ≠ [] := List.ne_nil_of_mem hterm
  have hout : d ∉ docs := by
    intro hd
    rw [SortedSet.contains_iff.mpr hd, Bool.true_and] at hfilter
    exact hne (List.isEmpty_iff.mp (by simpa using hfilter))
  have hterms : table.terms d = row := (TermTable.mem_entries_iff hne).mp hrow
  rw [← hterms] at hterm
  have hpair : (term, d) ∈ pairs := TermTable.mem_pairs_of_mem_terms hof hterm
  by_contra hdecode
  exact h ⟨pairs, hs, (term, d), hpair, hout, fun n hn => hdecode ⟨n, hn⟩⟩

theorem ofTerms_eq_error_iff_of_terms (hv : ¬ v.Hides docs field type)
    (hw : ¬ w.Hides docs field type) {pairs pairs' : List (String × DocId)} {t u : TermTable}
    (hs : v.scan field = .ok pairs) (ht : TermTable.ofPairs field v.maxDoc pairs = .ok t)
    (hs' : w.scan field = .ok pairs') (hu : TermTable.ofPairs field w.maxDoc pairs' = .ok u)
    (hterms : ∀ d ∈ docs, t.terms d = u.terms d) (e : Error) :
    NumberTable.ofTerms t type = .error e ↔ NumberTable.ofTerms u type = .error e := by
  have hrows : (t.rows.entries.filter fun row => docs.contains row.1 && !row.2.isEmpty) =
      u.rows.entries.filter fun row => docs.contains row.1 && !row.2.isEmpty := by
    refine SortedMap.eq_of_mem_iff (t.rows.ascending.filter _) (u.rows.ascending.filter _) ?_
    rintro ⟨d, row⟩
    rw [List.mem_filter, List.mem_filter, Bool.and_eq_true, SortedSet.contains_iff]
    by_cases hrow : row = []
    · simp [hrow]
    · rw [TermTable.mem_entries_iff hrow, TermTable.mem_entries_iff hrow]
      constructor
      · rintro ⟨hrow, hd, hne⟩
        exact ⟨(hterms d hd).symm.trans hrow, hd, hne⟩
      · rintro ⟨hrow, hd, hne⟩
        exact ⟨(hterms d hd).trans hrow, hd, hne⟩
  rw [ofTerms_eq_error_iff hv hs ht, ofTerms_eq_error_iff hw hs' hu, hrows]

theorem AgreeOn.numberTable (h : v.AgreeOn w docs) (field : String) (type : SortType) :
    Alike (v.Hides docs field type) (w.Hides docs field type)
      (fun t u : NumberTable => ∀ d ∈ docs, t.values d = u.values d)
      (v.answer (Session.numberTable field type))
      (w.answer (Session.numberTable field type)) := by
  by_cases hv : v.Hides docs field type
  · obtain ⟨e, he, hkind⟩ := numberTable_of_hides h.left hv
    rw [he]
    exact .left hv hkind _
  by_cases hw : w.Hides docs field type
  · obtain ⟨e, he, hkind⟩ := numberTable_of_hides h.right hw
    rw [he]
    exact .right hw _ hkind
  rw [answer_numberTable, answer_numberTable]
  obtain ⟨e, hs, hs'⟩ | ⟨pairs, pairs', hs, hs', hvisited⟩ := h.scans field
  · rw [answer_termTable, answer_buildTerms, answer_termTable, answer_buildTerms, hs, hs']
    exact .error e
  obtain ⟨t, ht, htable⟩ := termTable_eq_of_scan h.left hs
  obtain ⟨u, hu, htable'⟩ := termTable_eq_of_scan h.right hs'
  have hterms : ∀ d ∈ docs, t.terms d = u.terms d := by
    intro d hd
    rw [TermTable.terms_ofPairs htable, TermTable.terms_ofPairs htable']
    exact hvisited d hd
  have herror := ofTerms_eq_error_iff_of_terms hv hw hs htable hs' htable' hterms
  rw [ht, hu]
  change Alike _ _ _ (NumberTable.ofTerms t type) (NumberTable.ofTerms u type)
  cases hnumbers : NumberTable.ofTerms t type with
  | error e =>
    rw [(herror e).mp hnumbers]
    exact .error e
  | ok numbers =>
    cases hnumbers' : NumberTable.ofTerms u type with
    | error e =>
      rw [(herror e).mpr hnumbers'] at hnumbers
      cases hnumbers
    | ok numbers' =>
      refine .ok fun d hd => ?_
      have hrow := NumberTable.values_ofTerms hnumbers d
      rw [hterms d hd, NumberTable.values_ofTerms hnumbers' d] at hrow
      exact (Except.ok.inj hrow).symm

end View

end FacetedSearch
