import FacetedSearch.Proofs.Facet.Fault
import FacetedSearch.Proofs.Facet.History

/-!
# FacetedSearch.Proofs.Generation.DocumentTerms — the terms of all fields beside the term tables

The pairs of a field are turned around twice: by its term table, and together with those of all
other fields by the terms of all documents.  Both give a document the same terms of the field in the
same order (`documentTerms_after`).  They differ in what they ask of the pairs.  A term table cannot
be built where one of the documents is not below the limit; the terms of all documents pass over
such a pair, so that they are gathered wherever every field can be scanned
(`gathered_beyond_limit`).
-/

namespace FacetedSearch

open Session (Transparent)

/-! ## Taking in the pairs of a field -/

namespace DocumentTerms

variable {t t' : DocumentTerms} {f field : String} {d : DocId} {pairs : List (String × DocId)}

/-- What is gathered for a document. -/
def entry (t : DocumentTerms) (d : DocId) : SortedMap String (List String) :=
  (t.rows.get? d).getD ∅

/-- The terms gathered for a document and a field. -/
def termsOf (t : DocumentTerms) (d : DocId) (field : String) : List String :=
  ((t.entry d).get? field).getD []

theorem get?_eq_some_iff {e : SortedMap String (List String)} :
    t.get? d = some e ↔ d.toNat < t.documents ∧ t.entry d = e := by
  unfold get? entry
  split
  · simp [*]
  · simp [*]

theorem entry_addPair (x : String × DocId) : (t.addPair f x).entry d =
    if x.2 = d ∧ d.toNat < t.documents then
      (t.entry d).alter f fun terms => terms.getD [] ++ [x.1]
    else t.entry d := by
  unfold addPair entry
  by_cases hx : x.2 = d
  · subst hx
    by_cases hlimit : x.2.toNat < t.documents
    · simp [hlimit, SortedMap.get?_alter]
    · simp [hlimit]
  · by_cases hlimit : x.2.toNat < t.documents
    · simp [hlimit, hx, SortedMap.get?_alter, Ne.symm hx]
    · simp [hlimit, hx]

theorem documents_addPair (x : String × DocId) : (t.addPair f x).documents = t.documents := by
  unfold addPair
  split <;> rfl

theorem documents_addField : (t.addField f pairs).documents = t.documents := by
  unfold addField
  induction pairs generalizing t with
  | nil => rfl
  | cons x rest ih => rw [List.foldl_cons, ih, documents_addPair]

/-- A document below the limit gets what is visited with it. -/
theorem termsOf_addField (hd : d.toNat < t.documents) :
    (t.addField f pairs).termsOf d field =
      t.termsOf d field ++ if field = f then visitedTerms pairs d else [] := by
  unfold addField
  induction pairs generalizing t with
  | nil => simp [visitedTerms]
  | cons x rest ih =>
    have hd' : d.toNat < (t.addPair f x).documents := by
      rw [documents_addPair]
      exact hd
    rw [List.foldl_cons, ih hd', termsOf, entry_addPair]
    by_cases hx : x.2 = d
    · rw [if_pos ⟨hx, hd⟩, SortedMap.get?_alter]
      by_cases hf : field = f
      · subst hf
        simp [termsOf, visitedTerms, hx]
      · simp [termsOf, hf]
    · rw [if_neg fun h => hx h.1]
      simp [termsOf, visitedTerms, hx]

/-- No other field is named. -/
theorem contains_addField (h : ((t.addField f pairs).entry d).contains field = true) :
    field = f ∨ (t.entry d).contains field = true := by
  unfold addField at h
  induction pairs generalizing t with
  | nil => exact .inr h
  | cons x rest ih =>
    rw [List.foldl_cons] at h
    rcases ih h with hf | hc
    · exact .inl hf
    · rw [entry_addPair] at hc
      split at hc
      · rw [SortedMap.contains, SortedMap.get?_alter] at hc
        split at hc
        · rename_i hf
          exact .inl hf
        · exact .inr hc
      · exact .inr hc

end DocumentTerms

/-! ## Gathering field by field -/

namespace View

variable {v : View} {fields : List String} {t t' : DocumentTerms} {d : DocId} {field : String}

theorem answer_gatherFields_cons (v : View) (t : DocumentTerms) (f : String) (rest : List String) :
    v.answer (Session.gatherFields t (f :: rest)) =
      v.scan f >>= fun pairs => v.answer (Session.gatherFields (t.addField f pairs) rest) := by
  rw [Session.gatherFields, answer_bind (.scan f) fun pairs =>
    Transparent.closed.gatherFields .scan rest (t.addField f pairs)]
  rfl

/-- The fields are gathered where each can be scanned. -/
theorem exists_gatherFields_iff :
    (∃ t', v.answer (Session.gatherFields t fields) = .ok t') ↔
      ∀ f ∈ fields, ∃ pairs, v.scan f = .ok pairs := by
  induction fields generalizing t with
  | nil => exact ⟨fun _ => by simp, fun _ => ⟨t, rfl⟩⟩
  | cons f rest ih =>
    rw [answer_gatherFields_cons, List.forall_mem_cons]
    constructor
    · rintro ⟨t', h⟩
      obtain ⟨pairs, hscan, hrest⟩ := bind_eq_ok.mp h
      exact ⟨⟨pairs, hscan⟩, ih.mp ⟨t', hrest⟩⟩
    · rintro ⟨⟨pairs, hscan⟩, hrest⟩
      obtain ⟨t', ht'⟩ := ih.mpr hrest
      exact ⟨t', bind_eq_ok.mpr ⟨pairs, hscan, ht'⟩⟩

/-- What has been gathered is what was there before and what each field visits. -/
theorem gatherFields_eq_ok (h : v.answer (Session.gatherFields t fields) = .ok t')
    (hfields : fields.Nodup) (hd : d.toNat < t.documents) :
    (∀ field ∉ fields, t'.termsOf d field = t.termsOf d field) ∧
      ∀ field ∈ fields, ∀ pairs, v.scan field = .ok pairs →
        t'.termsOf d field = t.termsOf d field ++ visitedTerms pairs d := by
  induction fields generalizing t with
  | nil =>
    cases h
    simp
  | cons f rest ih =>
    rw [answer_gatherFields_cons] at h
    obtain ⟨pairs, hscan, hrest⟩ := bind_eq_ok.mp h
    obtain ⟨hf, hnodup⟩ := List.nodup_cons.mp hfields
    have hd' : d.toNat < (t.addField f pairs).documents := by
      rw [DocumentTerms.documents_addField]
      exact hd
    obtain ⟨hout, hin⟩ := ih hrest hnodup hd'
    refine ⟨fun field hfield => ?_, fun field hfield pairs' hscan' => ?_⟩
    · obtain ⟨hne, hfield⟩ := not_or.mp (List.mem_cons.not.mp hfield)
      rw [hout field hfield, DocumentTerms.termsOf_addField hd, if_neg hne, List.append_nil]
    · rcases List.mem_cons.mp hfield with rfl | hfield
      · rw [hscan] at hscan'
        cases hscan'
        rw [hout field hf, DocumentTerms.termsOf_addField hd, if_pos rfl]
      · have hne : field ≠ f := fun he => hf (he ▸ hfield)
        rw [hin field hfield pairs' hscan', DocumentTerms.termsOf_addField hd, if_neg hne,
          List.append_nil]

theorem documents_gatherFields (h : v.answer (Session.gatherFields t fields) = .ok t') :
    t'.documents = t.documents := by
  induction fields generalizing t with
  | nil =>
    cases h
    rfl
  | cons f rest ih =>
    rw [answer_gatherFields_cons] at h
    obtain ⟨pairs, -, hrest⟩ := bind_eq_ok.mp h
    rw [ih hrest, DocumentTerms.documents_addField]

theorem contains_gatherFields (h : v.answer (Session.gatherFields t fields) = .ok t')
    (hc : (t'.entry d).contains field = true) :
    field ∈ fields ∨ (t.entry d).contains field = true := by
  induction fields generalizing t with
  | nil =>
    cases h
    exact .inr hc
  | cons f rest ih =>
    rw [answer_gatherFields_cons] at h
    obtain ⟨pairs, -, hrest⟩ := bind_eq_ok.mp h
    rcases ih hrest with hrest | hc
    · exact .inl (List.mem_cons_of_mem f hrest)
    · rcases DocumentTerms.contains_addField hc with rfl | hc
      · exact .inl List.mem_cons_self
      · exact .inr hc

/-- The term table of a field is built where the field can be scanned and each document it visits is
below the limit. -/
theorem exists_termTable_iff : (∃ table, v.answer (Session.termTable field) = .ok table) ↔
    ∃ pairs, v.scan field = .ok pairs ∧ ∀ x ∈ pairs, x.2.toNat < v.maxDoc.toNat := by
  rw [answer_termTable, answer_buildTerms]
  constructor
  · rintro ⟨table, h⟩
    obtain ⟨pairs, hscan, htable⟩ := bind_eq_ok.mp h
    exact ⟨pairs, hscan, TermTable.lt_of_ofPairs htable⟩
  · rintro ⟨pairs, hscan, hbelow⟩
    obtain ⟨table, htable⟩ := TermTable.exists_ofPairs field hbelow
    exact ⟨table, bind_eq_ok.mpr ⟨pairs, hscan, htable⟩⟩

/-- The term tables of all fields are built where all can be scanned, each with documents below the
limit only. -/
theorem exists_termTables_iff :
    (∀ field ∈ fields, ∃ table, v.answer (Session.termTable field) = .ok table) ↔
      (∀ field ∈ fields, ∃ pairs, v.scan field = .ok pairs) ∧
        ∀ field ∈ fields, ∀ pairs, v.scan field = .ok pairs →
          ∀ x ∈ pairs, x.2.toNat < v.maxDoc.toNat := by
  simp only [exists_termTable_iff]
  constructor
  · intro h
    refine ⟨fun field hf => ?_, fun field hf pairs hscan => ?_⟩
    · obtain ⟨pairs, hscan, -⟩ := h field hf
      exact ⟨pairs, hscan⟩
    · obtain ⟨pairs', hscan', hbelow⟩ := h field hf
      rw [hscan] at hscan'
      cases hscan'
      exact hbelow
  · rintro ⟨hscan, hbelow⟩ field hf
    obtain ⟨pairs, hpairs⟩ := hscan field hf
    exact ⟨pairs, hpairs, hbelow field hf pairs hpairs⟩

/-- A term table gives a document what its field visits with it. -/
theorem terms_of_termTable {table : TermTable}
    (h : v.answer (Session.termTable field) = .ok table) :
    ∃ pairs, v.scan field = .ok pairs ∧ ∀ d, table.terms d = visitedTerms pairs d := by
  rw [answer_termTable, answer_buildTerms] at h
  obtain ⟨pairs, hscan, hpairs⟩ := bind_eq_ok.mp h
  exact ⟨pairs, hscan, TermTable.terms_ofPairs hpairs⟩

end View

/-- Whatever was read before of a generation over a view that names each field once.  The terms of
all documents are gathered where every field can be scanned.  The term tables of all fields are
built where, besides, every document visited is below the limit.  What is gathered has an entry for
each document below the limit and for no other; it lists for each field the terms visited with the
document, as the term table of the field does, and names no other field. -/
theorem documentTerms_after (v : View) (number : Nat) (acts : List (ReadAct v))
    (hfields : v.fields.Nodup) :
    let g := acts.foldl Generation.read (Generation.ofView number v)
    let gathered := (g.run Session.documentTerms).1
    let table (field : String) := (g.run (Session.termTable field)).1
    ((∃ terms, gathered = .ok terms) ↔ ∀ field ∈ v.fields, ∃ pairs, v.scan field = .ok pairs) ∧
      ((∀ field ∈ v.fields, ∃ t, table field = .ok t) ↔ (∃ terms, gathered = .ok terms) ∧
        ∀ field ∈ v.fields, ∀ pairs, v.scan field = .ok pairs →
          ∀ x ∈ pairs, x.2.toNat < v.maxDoc.toNat) ∧
      ∀ terms, gathered = .ok terms → ∀ d,
        ((∃ entry, terms.get? d = some entry) ↔ d.toNat < v.maxDoc.toNat) ∧
        ∀ entry, terms.get? d = some entry →
          (∀ field ∈ v.fields, ∀ pairs, v.scan field = .ok pairs →
            (entry.get? field).getD [] = visitedTerms pairs d) ∧
          (∀ field ∈ v.fields, ∀ t, table field = .ok t →
            (entry.get? field).getD [] = t.terms d) ∧
          ∀ field, entry.contains field = true → field ∈ v.fields := by
  intro g gathered table
  have hcoherent : g.Coherent v := Generation.coherent_after v number acts
  have hgathered : gathered =
      v.answer (Session.gatherFields { documents := v.maxDoc.toNat } v.fields) :=
    (Transparent.documentTerms g hcoherent).1.trans v.answer_documentTerms
  have htable (field : String) : table field = v.answer (Session.termTable field) :=
    (Transparent.termTable field g hcoherent).1
  have hscans : (∃ terms, gathered = .ok terms) ↔
      ∀ field ∈ v.fields, ∃ pairs, v.scan field = .ok pairs := by
    rw [hgathered]
    exact View.exists_gatherFields_iff
  refine ⟨hscans, ?_, fun terms hterms d => ?_⟩
  · rw [hscans]
    simp only [htable]
    exact View.exists_termTables_iff
  · rw [hgathered] at hterms
    have hdocuments : terms.documents = v.maxDoc.toNat := View.documents_gatherFields hterms
    refine ⟨?_, fun entry hentry => ?_⟩
    · simp only [DocumentTerms.get?_eq_some_iff, hdocuments, exists_and_left, exists_eq', and_true]
    · obtain ⟨hd, rfl⟩ := DocumentTerms.get?_eq_some_iff.mp hentry
      rw [hdocuments] at hd
      have hvisited := (View.gatherFields_eq_ok hterms hfields hd).2
      refine ⟨hvisited, fun field hf t ht => ?_, fun field hc => ?_⟩
      · rw [htable] at ht
        obtain ⟨pairs, hscan, hpairs⟩ := View.terms_of_termTable ht
        rw [hpairs]
        exact hvisited field hf pairs hscan
      · rcases View.contains_gatherFields hterms hc with hf | hnone
        · exact hf
        · cases hnone

/-- A view over two documents, of which the second has a size besides two colors. -/
def twoColors : View :=
  { maxDoc := 2, fields := ["color", "size"], search _ := .ok ∅, read _ _ := .ok [], close := .ok ()
    scan field :=
      if field = "color" then .ok [("red", 1), ("blue", 0), ("blue", 1)]
      else if field = "size" then .ok [("wide", 1)]
      else .error (.reported .resource "no such field") }

theorem documentTerms_twoColors :
    let g := (Generation.ofView 0 twoColors).read (.termTable (v := twoColors) "size")
    twoColors.fields.Nodup ∧
      ∃ terms entry, (g.run Session.documentTerms).1 = .ok terms ∧ terms.get? 1 = some entry ∧
        (entry.get? "color").getD [] = ["red", "blue"] ∧
        (entry.get? "size").getD [] = ["wide"] := by
  have hfields : twoColors.fields.Nodup := by decide
  obtain ⟨hgathered, -, hterms⟩ := documentTerms_after twoColors 0 [.termTable "size"] hfields
  have hcolor : twoColors.scan "color" = .ok [("red", 1), ("blue", 0), ("blue", 1)] := rfl
  have hsize : twoColors.scan "size" = .ok [("wide", 1)] := rfl
  have hscans : ∀ field ∈ twoColors.fields, ∃ pairs, twoColors.scan field = .ok pairs := by
    simp only [twoColors, List.forall_mem_cons] at hcolor hsize ⊢
    exact ⟨⟨_, hcolor⟩, ⟨_, hsize⟩, by simp⟩
  obtain ⟨terms, hrun⟩ := hgathered.mpr hscans
  obtain ⟨entry, hentry⟩ := (hterms terms hrun 1).1.mpr (by decide)
  have hvisited := ((hterms terms hrun 1).2 entry hentry).1
  exact ⟨hfields, terms, entry, hrun, hentry, hvisited "color" (by decide) _ hcolor,
    hvisited "size" (by decide) _ hsize⟩

/-- A document that is not below the limit is passed over where the terms of all documents are
gathered; the term table of its field cannot be built. -/
theorem gathered_beyond_limit :
    let v := { twoColors with maxDoc := 1 }
    v.fields.Nodup ∧
      (v.answer Session.documentTerms).toOption.isSome = true ∧
      v.answer (Session.termTable "color") = .error (.postingBeyond "color" 1 1) := by
  refine ⟨by decide, by decide, rfl⟩

end FacetedSearch
