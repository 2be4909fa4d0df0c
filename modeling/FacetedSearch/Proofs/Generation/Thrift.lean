import FacetedSearch.Proofs.Generation.Coherence
import Mathlib.Data.List.Count

/-!
# FacetedSearch.Proofs.Generation.Thrift — a scan of a field leaves its term table

Sessions walk the pairs of a field to build its term table, and only where the table is not there.
If the table can be built, it is there from then on.  So the scans that a session makes of a field
are never more than the tables of the field it leaves (`Thrifty.scans_le`), and a table that was
there stays (`Thrifty.resident`).  Gathering the terms of all documents is the exception: it walks
the pairs of every field and leaves the term tables alone.  It comes at one scan for each field
(`run_gatherFields`).
-/

namespace FacetedSearch

variable {α β : Type} {v : View} {g : Generation} {field name : String} {type : SortType}

/-- The term table of the field can be built. -/
def View.Builds (v : View) (field : String) : Prop :=
  ∃ table, v.answer (Session.buildTerms field) = .ok table

theorem View.Builds.exists_scan (h : v.Builds field) : ∃ pairs, v.scan field = .ok pairs := by
  obtain ⟨table, htable⟩ := h
  rw [answer_buildTerms] at htable
  cases hscan : v.scan field with
  | error e =>
    rw [hscan] at htable
    cases htable
  | ok pairs => exact ⟨pairs, rfl⟩

namespace Generation

/-! ## Scans and resident tables -/

/-- How often the pairs of a field have been walked. -/
def scans (g : Generation) (field : String) : Nat := g.calls.count (.scan field)

/-- Whether the term table of a field is there. -/
def resident (g : Generation) (field : String) : Bool := g.caches.terms.contains field

/-- The generation with the term table of a field, unless there was one. -/
def withTerms (g : Generation) (field : String) (table : TermTable) : Generation :=
  { g with caches := { g.caches with terms := g.caches.terms.insertNew field table } }

theorem resident_eq_true_iff :
    g.resident field = true ↔ ∃ table, g.caches.terms.get? field = some table := by
  rw [resident, SortedMap.contains, Option.isSome_iff_exists]

theorem resident_withTerms (table : TermTable) :
    (g.withTerms name table).resident field = (decide (field = name) || g.resident field) := by
  rw [resident, SortedMap.contains, withTerms, SortedMap.get?_insertNew]
  by_cases h : field = name
  · simp [h]
  · simp [h, resident, SortedMap.contains]

theorem scans_called (c : ViewCall) :
    (g.called c).scans field = g.scans field + if c = .scan field then 1 else 0 := by
  simp [scans, called, List.count_cons]

/-- Scans that were made stay made. -/
theorem ReadTo.scans_mono {g' : Generation} (h : g.ReadTo g') (field : String) :
    g.scans field ≤ g'.scans field := by
  obtain ⟨new, hnew, -⟩ := h.calls
  rw [scans, scans, hnew, List.count_append]
  exact Nat.le_add_left _ _

theorem Coherent.builds (h : g.Coherent v) (hr : g.resident field = true) : v.Builds field := by
  obtain ⟨table, htable⟩ := resident_eq_true_iff.mp hr
  exact ⟨table, h.terms field table htable⟩

/-- What fetching a term table leaves: nothing new, or a scan, and behind the scan a table if one
could be built. -/
theorem snd_run_termTable (g : Generation) (field : String) :
    (g.run (Session.termTable field)).2 = if g.resident field then g
      else match g.view.answer (Session.buildTerms field) with
        | .ok table => (g.called (.scan field)).withTerms field table
        | .error _ => g.called (.scan field) := by
  rw [run_termTable, resident, SortedMap.contains]
  cases g.caches.terms.get? field with
  | some table => rfl
  | none =>
    rw [run_buildTerms, ← View.answer_buildTerms]
    cases g.view.answer (Session.buildTerms field) <;> rfl

/-- A number table comes behind a term table, and only number tables change then. -/
theorem snd_run_numberTable (g : Generation) (field : String) (type : SortType) :
    ∃ numbers, (g.run (Session.numberTable field type)).2 =
      let g := (g.run (Session.termTable field)).2
      { g with caches := { g.caches with numbers } } := by
  rw [run_numberTable]
  rcases g.run (Session.termTable field) with ⟨e | terms, g'⟩
  · exact ⟨g'.caches.numbers, rfl⟩
  · dsimp only
    cases g'.caches.numbers.get? (field, type) with
    | some table => exact ⟨g'.caches.numbers, rfl⟩
    | none =>
      cases NumberTable.ofTerms terms type with
      | error e => exact ⟨g'.caches.numbers, rfl⟩
      | ok table => exact ⟨g'.caches.numbers.insertNew (field, type) table, rfl⟩

end Generation

/-! ## Thrifty sessions -/

namespace Session

/-- The session reads, does not gather the terms of all documents, and pays each scan of a field
whose term table can be built with a table that it leaves. -/
structure Thrifty (s : Session α) : Prop where
  reads : s.Reads
  documentTerms : ∀ g : Generation, (g.run s).2.documentTerms = g.documentTerms
  scans_le : ∀ (g : Generation) (field : String), g.view.Builds field →
    (g.run s).2.scans field + (g.resident field).toNat ≤
      g.scans field + ((g.run s).2.resident field).toNat

namespace Thrifty

variable {s : Session α}

/-- A session that leaves calls, term tables and document terms as they are. -/
theorem idle (hr : s.Reads) (h : ∀ g : Generation, (g.run s).2.documentTerms = g.documentTerms ∧
    (g.run s).2.calls = g.calls ∧ (g.run s).2.caches.terms = g.caches.terms) : s.Thrifty := by
  refine ⟨hr, fun g => (h g).1, fun g field _ => ?_⟩
  rw [Generation.scans, Generation.resident, Generation.resident, (h g).2.1, (h g).2.2]
  exact Nat.le_refl _

theorem pure (a : α) : Thrifty (Pure.pure a : Session α) :=
  idle (.pure a) fun _ => ⟨rfl, rfl, rfl⟩

theorem throw (e : Error) : Thrifty (MonadExcept.throw e : Session α) :=
  idle (.throw e) fun _ => ⟨rfl, rfl, rfl⟩

theorem get : Thrifty (MonadState.get : Session Generation) :=
  idle .get fun _ => ⟨rfl, rfl, rfl⟩

theorem lift (e : Except Error α) : Thrifty (liftM e : Session α) :=
  idle (.lift e) fun g => by
    rw [Generation.run_lift]
    exact ⟨rfl, rfl, rfl⟩

theorem bind {k : α → Session β} (hs : s.Thrifty) (hk : ∀ a, (k a).Thrifty) :
    (s >>= k).Thrifty := by
  refine ⟨hs.reads.bind fun a => (hk a).reads, fun g => ?_, fun g field hb => ?_⟩
  · have hd := hs.documentTerms g
    rw [Generation.run_bind]
    rcases hr : g.run s with ⟨e | a, g'⟩ <;> rw [hr] at hd
    · exact hd
    · exact ((hk a).documentTerms g').trans hd
  · have hview := (hs.reads g).view
    have hle := hs.scans_le g field hb
    rw [Generation.run_bind]
    rcases hr : g.run s with ⟨e | a, g'⟩ <;> rw [hr] at hview hle
    · exact hle
    · have hle' := (hk a).scans_le g' field (hview ▸ hb)
      dsimp only at hle hle' ⊢
      omega

theorem rethrow (f : Error → Error) (hs : s.Thrifty) :
    Thrifty (MonadExcept.tryCatch s fun e => MonadExcept.throw (f e)) := by
  have hrun (g : Generation) :
      (g.run (MonadExcept.tryCatch s fun e => MonadExcept.throw (f e))).2 = (g.run s).2 := by
    rw [Generation.run_tryCatch]
    rcases g.run s with ⟨e | a, g'⟩ <;> rfl
  refine ⟨hs.reads.tryCatch fun e => .throw (f e), fun g => ?_, fun g field hb => ?_⟩
  · rw [hrun]
    exact hs.documentTerms g
  · rw [hrun]
    exact hs.scans_le g field hb

theorem search (r : SearchRequest) : Thrifty (Session.search r) := by
  refine ⟨.search r, fun g => ?_, fun g field _ => ?_⟩
  · rw [Generation.run_search]
    rfl
  · rw [Generation.run_search, Generation.scans_called, if_neg (by simp)]
    exact Nat.le_refl _

theorem read (d : DocId) (name : String) : Thrifty (Session.read d name) := by
  refine ⟨.read d name, fun g => ?_, fun g field _ => ?_⟩
  · rw [Generation.run_read]
    rfl
  · rw [Generation.run_read, Generation.scans_called, if_neg (by simp)]
    exact Nat.le_refl _

theorem recordUse (name : String) (now : Nat) : Thrifty (Session.recordUse name now) :=
  idle (.recordUse name now) fun _ => ⟨rfl, rfl, rfl⟩

theorem termTable (name : String) : Thrifty (Session.termTable name) := by
  refine ⟨.termTable name, fun g => ?_, fun g field hb => ?_⟩
  · rw [Generation.snd_run_termTable]
    split
    · rfl
    · split <;> rfl
  · rw [Generation.snd_run_termTable]
    split
    · exact Nat.le_refl _
    · rename_i hnone
      by_cases hname : name = field
      · -- the one scan that is made, and the table behind it
        subst hname
        obtain ⟨table, htable⟩ := hb
        rw [htable]
        dsimp only
        rw [Generation.resident_withTerms, eq_false_of_ne_true hnone]
        change (g.called (.scan name)).scans name + 0 ≤ _
        rw [Generation.scans_called, if_pos rfl]
        simp
      · have hscans : (g.called (.scan name)).scans field = g.scans field := by
          rw [Generation.scans_called, if_neg (by simpa using hname), Nat.add_zero]
        split
        · rename_i table _
          change (g.called (.scan name)).scans field + _ ≤ _
          rw [hscans, Generation.resident_withTerms, decide_eq_false (Ne.symm hname),
            Bool.false_or]
          exact Nat.le_refl _
        · rw [hscans]
          exact Nat.le_refl _

theorem numberTable (name : String) (type : SortType) :
    Thrifty (Session.numberTable name type) := by
  refine ⟨.numberTable name type, fun g => ?_, fun g field hb => ?_⟩ <;>
    obtain ⟨numbers, hrun⟩ := g.snd_run_numberTable name type <;> rw [hrun]
  · exact (termTable name).documentTerms g
  · exact (termTable name).scans_le g field hb

theorem closed : Closed fun _ => Thrifty where
  pure := pure
  throw := throw
  lift := lift
  bind := bind
  rethrow := rethrow
  search := search
  read := read
  recordUse := recordUse
  termTable := termTable
  numberTable := numberTable

theorem isCached (name : String) (now : Nat) : Thrifty (Session.isCached name now) :=
  bind (recordUse name now) fun _ => bind get fun _ => pure _

/-- A table that is put there has been paid for elsewhere. -/
theorem setTermTable (name : String) (table : TermTable) :
    Thrifty (Session.setTermTable name table) := by
  refine ⟨.setTermTable name table, fun g => rfl, fun g field _ => ?_⟩
  change g.scans field + _ ≤ g.scans field + ((g.withTerms name table).resident field).toNat
  rw [Generation.resident_withTerms]
  cases g.resident field <;> simp

theorem fieldValues (d : DocId) (fields : List String) :
    Thrifty (Session.fieldValues d fields) := by
  refine bind get fun g => ?_
  cases g.caches.values.get? (d, (TextSet.ofList fields).checksum) with
  | some kept =>
    dsimp only
    split
    · exact pure _
    · exact closed.readValues d _
  | none =>
    refine bind (closed.readValues d _) fun values => bind ?_ fun _ => pure values
    exact idle (.updateCaches _) fun _ => ⟨rfl, rfl, rfl⟩

/-- A term table that was there stays. -/
theorem resident (hs : s.Thrifty) (hc : g.Coherent v) (hr : g.resident field = true) :
    (g.run s).2.resident field = true := by
  have hmono := (hs.reads g).scans_mono field
  have hle := hs.scans_le g field (hc.view ▸ hc.builds hr)
  rw [hr] at hle
  cases h : (g.run s).2.resident field with
  | true => rfl
  | false =>
    rw [h, Bool.toNat_true, Bool.toNat_false] at hle
    omega

end Thrifty

end Session

/-! ## Gathering the terms of all documents -/

namespace Generation

variable {fields : List String}

/-- Gathering leaves the caches alone. -/
theorem caches_gatherFields (g : Generation) (t : DocumentTerms) (fields : List String) :
    (g.run (Session.gatherFields t fields)).2.caches = g.caches := by
  induction fields generalizing g t with
  | nil => rfl
  | cons f rest ih =>
    rw [Session.gatherFields, run_bind, run_scan]
    cases g.view.scan f with
    | error e => rfl
    | ok pairs => exact ih (g.called (.scan f)) (t.addField f pairs)

theorem caches_documentTerms : (g.run Session.documentTerms).2.caches = g.caches := by
  have hcaches := g.caches_gatherFields { documents := g.view.maxDoc.toNat } g.view.fields
  rw [run_documentTerms]
  cases g.documentTerms with
  | some terms => rfl
  | none =>
    dsimp only
    rcases hr : g.run (Session.gatherFields { documents := g.view.maxDoc.toNat } g.view.fields) with
      ⟨e | terms, g'⟩ <;> rw [hr] at hcaches <;> exact hcaches

/-- Where every field can be scanned, each is scanned once. -/
theorem run_gatherFields (hscan : ∀ f ∈ fields, ∃ pairs, g.view.scan f = .ok pairs)
    (t : DocumentTerms) : ∃ t', g.run (Session.gatherFields t fields) =
      (.ok t', { g with calls := (fields.map ViewCall.scan).reverse ++ g.calls }) := by
  induction fields generalizing g t with
  | nil => exact ⟨t, rfl⟩
  | cons f rest ih =>
    obtain ⟨⟨pairs, hpairs⟩, hrest⟩ := List.forall_mem_cons.mp hscan
    obtain ⟨t', ht'⟩ := ih (g := g.called (.scan f)) hrest (t.addField f pairs)
    refine ⟨t', ?_⟩
    rw [Session.gatherFields, run_bind, run_scan, hpairs]
    dsimp only
    rw [ht']
    simp [called]

/-- The terms of all documents are gathered once, at one scan for each time a field is named. -/
theorem scans_documentTerms (hscan : ∀ f ∈ g.view.fields, ∃ pairs, g.view.scan f = .ok pairs)
    (field : String) :
    (g.run Session.documentTerms).2.documentTerms.isSome = true ∧
      (g.run Session.documentTerms).2.scans field = g.scans field +
        if g.documentTerms.isSome then 0 else g.view.fields.count field := by
  rw [run_documentTerms]
  cases hd : g.documentTerms with
  | some terms => exact ⟨by simp [hd], rfl⟩
  | none =>
    obtain ⟨t', ht'⟩ := run_gatherFields hscan { documents := g.view.maxDoc.toNat }
    rw [ht']
    have hcount : (g.view.fields.map ViewCall.scan).count (.scan field) =
        g.view.fields.count field :=
      List.count_map_of_injective _ _ (fun _ _ h => ViewCall.scan.inj h) _
    refine ⟨rfl, ?_⟩
    simp only [scans, List.count_append, List.count_reverse, hcount]
    simp [Nat.add_comm]

end Generation

end FacetedSearch
