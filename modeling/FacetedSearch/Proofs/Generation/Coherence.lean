import FacetedSearch.Proofs.Generation.Session

/-!
# FacetedSearch.Proofs.Generation.Coherence — caches that hold what a fresh build gives

`View.answer` is what a session gives on a fresh generation.  A generation is `Coherent` with its
view when every resident table is the answer of building it.  A session is `Transparent` when every
coherent generation gives its answer and stays coherent; such sessions compose, and `answer` opens
their composition step by step as if there were no caches (`answer_bind` and its neighbours).
-/

namespace FacetedSearch

variable {α β : Type} {v : View} {g : Generation}

/-- A generation over a view that nobody has read yet. -/
def Generation.ofView (number : Nat) (v : View) : Generation := { number, view := v }

/-- What a session gives on a fresh generation. -/
def View.answer (v : View) (s : Session α) : Except Error α := ((Generation.ofView 0 v).run s).1

namespace Generation

/-- Whatever the caches hold is what a fresh generation would build. -/
structure Coherent (v : View) (g : Generation) : Prop where
  view : g.view = v
  terms : ∀ field table, g.caches.terms.get? field = some table →
    v.answer (Session.buildTerms field) = .ok table
  numbers : ∀ field type table, g.caches.numbers.get? (field, type) = some table →
    v.answer (Session.numberTable field type) = .ok table
  values : ∀ d sum kept, g.caches.values.get? (d, sum) = some kept →
    v.answer (Session.readValues d kept.fields) = .ok kept.values
  documentTerms : ∀ terms, g.documentTerms = some terms →
    v.answer Session.documentTerms = .ok terms

/-! ## What keeps a generation coherent -/

namespace Coherent

theorem ofView (number : Nat) (v : View) : (Generation.ofView number v).Coherent v :=
  ⟨rfl, by rintro _ _ ⟨⟩, by rintro _ _ _ ⟨⟩, by rintro _ _ _ ⟨⟩, by rintro _ ⟨⟩⟩

/-- Coherence looks at the view, the tables and nothing else. -/
theorem congr {g' : Generation} (h : g.Coherent v) (hv : g'.view = g.view)
    (ht : g'.caches.terms = g.caches.terms) (hn : g'.caches.numbers = g.caches.numbers)
    (hs : g'.caches.values = g.caches.values) (hd : g'.documentTerms = g.documentTerms) :
    g'.Coherent v := by
  refine ⟨hv.trans h.view, ?_, ?_, ?_, ?_⟩
  · rw [ht]
    exact h.terms
  · rw [hn]
    exact h.numbers
  · rw [hs]
    exact h.values
  · rw [hd]
    exact h.documentTerms

theorem clearCaches (h : g.Coherent v) : g.clearCaches.Coherent v :=
  ⟨h.view, by rintro _ _ ⟨⟩, by rintro _ _ _ ⟨⟩, by rintro _ _ _ ⟨⟩, h.documentTerms⟩

theorem tearDown (h : g.Coherent v) : g.tearDown.Coherent v := by
  rw [Generation.tearDown]
  split
  · exact h.clearCaches.congr rfl rfl rfl rfl rfl
  · exact h

theorem release (h : g.Coherent v) : g.release.Coherent v := by
  have hd : g.decrement.Coherent v := h.congr rfl rfl rfl rfl rfl
  rw [Generation.release]
  split
  · exact hd.tearDown
  · exact hd

theorem tryHold (h : g.Coherent v) : g.tryHold.2.Coherent v := by
  have ha : g.acquire.Coherent v := h.congr rfl rfl rfl rfl rfl
  rw [Generation.tryHold]
  split
  · exact ha.release
  · exact ha

theorem keepTerms (h : g.Coherent v) {field : String} {table : TermTable}
    (hb : v.answer (Session.buildTerms field) = .ok table) :
    Coherent v { g with caches :=
      { g.caches with terms := g.caches.terms.insertNew field table } } := by
  refine ⟨h.view, fun name found hf => ?_, h.numbers, h.values, h.documentTerms⟩
  rcases SortedMap.get?_of_insertNew hf with hold | hnew
  · exact h.terms name found hold
  · cases hnew
    exact hb

theorem keepNumbers (h : g.Coherent v) {field : String} {type : SortType} {table : NumberTable}
    (hb : v.answer (Session.numberTable field type) = .ok table) :
    Coherent v { g with caches :=
      { g.caches with numbers := g.caches.numbers.insertNew (field, type) table } } := by
  refine ⟨h.view, h.terms, fun name t found hf => ?_, h.values, h.documentTerms⟩
  rcases SortedMap.get?_of_insertNew hf with hold | hnew
  · exact h.numbers name t found hold
  · cases hnew
    exact hb

theorem keepValues (h : g.Coherent v) {d : DocId} {sum : UInt32} {fields values : TextSet}
    (hb : v.answer (Session.readValues d fields) = .ok values) :
    Coherent v { g with caches :=
      { g.caches with values := g.caches.values.insertNew (d, sum) { fields, values } } } := by
  refine ⟨h.view, h.terms, h.numbers, fun d' sum' kept hf => ?_, h.documentTerms⟩
  rcases SortedMap.get?_of_insertNew hf with hold | hnew
  · exact h.values d' sum' kept hold
  · cases hnew
    exact hb

end Coherent

end Generation

/-! ## Transparent sessions and their answers -/

/-- Every coherent generation gives the answer of a fresh one and stays coherent, also where the
session fails. -/
def Session.Transparent (v : View) (s : Session α) : Prop :=
  ∀ g : Generation, g.Coherent v → (g.run s).1 = v.answer s ∧ (g.run s).2.Coherent v

namespace View

theorem answer_lift (v : View) (e : Except Error α) : v.answer (liftM e : Session α) = e := by
  rw [answer, Generation.run_lift]

theorem answer_bind {s : Session α} {k : α → Session β} (hs : s.Transparent v)
    (hk : ∀ a, (k a).Transparent v) :
    v.answer (s >>= k) = v.answer s >>= fun a => v.answer (k a) := by
  obtain ⟨-, hc⟩ := hs _ (.ofView 0 v)
  rw [answer, answer, Generation.run_bind]
  rcases hr : (Generation.ofView 0 v).run s with ⟨e | a, g⟩ <;> rw [hr] at hc
  · rfl
  · exact (hk a g hc).1

theorem answer_tryCatch {s : Session α} {k : Error → Session α} (hs : s.Transparent v)
    (hk : ∀ e, (k e).Transparent v) :
    v.answer (tryCatch s k) = tryCatch (v.answer s) fun e => v.answer (k e) := by
  obtain ⟨-, hc⟩ := hs _ (.ofView 0 v)
  rw [answer, answer, Generation.run_tryCatch]
  rcases hr : (Generation.ofView 0 v).run s with ⟨e | a, g⟩ <;> rw [hr] at hc
  · exact (hk e g hc).1
  · rfl

end View

namespace Session.Transparent

theorem pure (a : α) : Transparent v (Pure.pure a) := fun _ h => ⟨rfl, h⟩

theorem throw (e : Error) : Transparent v (MonadExcept.throw e : Session α) := fun _ h => ⟨rfl, h⟩

theorem lift (e : Except Error α) : Transparent v (liftM e : Session α) := fun g h => by
  rw [View.answer_lift, Generation.run_lift]
  exact ⟨rfl, h⟩

theorem bind {s : Session α} {k : α → Session β} (hs : s.Transparent v)
    (hk : ∀ a, (k a).Transparent v) : Transparent v (s >>= k) := fun g h => by
  obtain ⟨ha, hc⟩ := hs g h
  rw [View.answer_bind hs hk, Generation.run_bind, ← ha]
  rcases hr : g.run s with ⟨e | a, g'⟩ <;> rw [hr] at hc
  · exact ⟨rfl, hc⟩
  · exact hk a g' hc

theorem tryCatch {s : Session α} {k : Error → Session α} (hs : s.Transparent v)
    (hk : ∀ e, (k e).Transparent v) : Transparent v (MonadExcept.tryCatch s k) := fun g h => by
  obtain ⟨ha, hc⟩ := hs g h
  rw [View.answer_tryCatch hs hk, Generation.run_tryCatch, ← ha]
  rcases hr : g.run s with ⟨e | a, g'⟩ <;> rw [hr] at hc
  · exact hk e g' hc
  · exact ⟨rfl, hc⟩

end Session.Transparent

/-! ## Calls on the view -/

namespace Generation

/-- The generation after a call on its view. -/
def called (g : Generation) (c : ViewCall) : Generation := { g with calls := c :: g.calls }

theorem Coherent.called (h : g.Coherent v) (c : ViewCall) : (g.called c).Coherent v :=
  h.congr rfl rfl rfl rfl rfl

theorem run_search (g : Generation) (r : SearchRequest) :
    g.run (Session.search r) = (g.view.search r, g.called .search) :=
  run_lift (g.called .search) (g.view.search r)

theorem run_scan (g : Generation) (field : String) :
    g.run (Session.scan field) = (g.view.scan field, g.called (.scan field)) :=
  run_lift (g.called (.scan field)) (g.view.scan field)

theorem run_read (g : Generation) (d : DocId) (field : String) :
    g.run (Session.read d field) = (g.view.read d field, g.called (.read d field)) :=
  run_lift (g.called (.read d field)) (g.view.read d field)

theorem run_buildTerms (g : Generation) (field : String) :
    g.run (Session.buildTerms field) =
      (g.view.scan field >>= TermTable.ofPairs field g.view.maxDoc, g.called (.scan field)) := by
  rw [Session.buildTerms, run_bind, run_scan]
  cases g.view.scan field with
  | error e => rfl
  | ok pairs => exact run_lift (g.called (.scan field)) (TermTable.ofPairs field g.view.maxDoc pairs)

end Generation

theorem View.answer_search (v : View) (r : SearchRequest) :
    v.answer (Session.search r) = v.search r := by
  rw [answer, Generation.run_search]
  rfl

theorem View.answer_buildTerms (v : View) (field : String) :
    v.answer (Session.buildTerms field) = v.scan field >>= TermTable.ofPairs field v.maxDoc := by
  rw [answer, Generation.run_buildTerms]
  rfl

namespace Session.Transparent

theorem search (r : SearchRequest) : Transparent v (Session.search r) := fun g h => by
  rw [View.answer_search, Generation.run_search, h.view]
  exact ⟨rfl, h.called _⟩

theorem scan (field : String) : Transparent v (Session.scan field) := fun g h => by
  rw [View.answer, Generation.run_scan, Generation.run_scan, h.view]
  exact ⟨rfl, h.called _⟩

theorem read (d : DocId) (field : String) : Transparent v (Session.read d field) := fun g h => by
  rw [View.answer, Generation.run_read, Generation.run_read, h.view]
  exact ⟨rfl, h.called _⟩

theorem buildTerms (field : String) : Transparent v (Session.buildTerms field) := fun g h => by
  rw [View.answer_buildTerms, Generation.run_buildTerms, h.view]
  exact ⟨rfl, h.called _⟩

theorem recordUse (field : String) (now : Nat) : Transparent v (Session.recordUse field now) :=
  fun _ h => ⟨rfl, h.congr rfl rfl rfl rfl rfl⟩

end Session.Transparent

/-! ## Tables that are kept -/

namespace Generation

theorem run_termTable (g : Generation) (field : String) :
    g.run (Session.termTable field) = match g.caches.terms.get? field with
      | some table => (.ok table, g)
      | none => match g.run (Session.buildTerms field) with
        | (.ok table, g) => (.ok table,
            { g with caches := { g.caches with terms := g.caches.terms.insertNew field table } })
        | (.error e, g) => (.error e, g) := by
  rw [Session.termTable, run_bind, run_get]
  dsimp only
  cases g.caches.terms.get? field with
  | some table => rfl
  | none =>
    dsimp only
    rw [run_bind]
    rcases g.run (Session.buildTerms field) with ⟨e | table, g'⟩ <;> rfl

end Generation

theorem View.answer_termTable (v : View) (field : String) :
    v.answer (Session.termTable field) = v.answer (Session.buildTerms field) := by
  rw [answer, answer, Generation.run_termTable]
  change Prod.fst (match (Generation.ofView 0 v).run (Session.buildTerms field) with
    | (.ok table, g) => _
    | (.error e, g) => _) = _
  rcases (Generation.ofView 0 v).run (Session.buildTerms field) with ⟨e | table, g⟩ <;> rfl

theorem Session.Transparent.termTable (field : String) :
    Transparent v (Session.termTable field) := fun g h => by
  rw [View.answer_termTable, Generation.run_termTable]
  cases hg : g.caches.terms.get? field with
  | some table => exact ⟨(h.terms field table hg).symm, h⟩
  | none =>
    obtain ⟨ha, hc⟩ := buildTerms field g h
    dsimp only
    rcases hr : g.run (Session.buildTerms field) with ⟨e | table, g'⟩ <;> rw [hr] at ha hc
    · exact ⟨ha, hc⟩
    · exact ⟨ha, hc.keepTerms ha.symm⟩

namespace Generation

theorem run_numberTable (g : Generation) (field : String) (type : SortType) :
    g.run (Session.numberTable field type) = match g.run (Session.termTable field) with
      | (.error e, g) => (.error e, g)
      | (.ok terms, g) => match g.caches.numbers.get? (field, type) with
        | some table => (.ok table, g)
        | none => match NumberTable.ofTerms terms type with
          | .error e => (.error e, g)
          | .ok table => (.ok table, { g with caches :=
              { g.caches with numbers := g.caches.numbers.insertNew (field, type) table } }) := by
  rw [Session.numberTable, run_bind]
  rcases g.run (Session.termTable field) with ⟨e | terms, g'⟩
  · rfl
  · dsimp only
    rw [run_bind, run_get]
    dsimp only
    cases g'.caches.numbers.get? (field, type) with
    | some table => rfl
    | none =>
      dsimp only
      rw [run_bind, run_lift]
      cases NumberTable.ofTerms terms type <;> rfl

/-- Fetching a term table leaves the number tables alone. -/
theorem numbers_termTable (g : Generation) (field : String) :
    (g.run (Session.termTable field)).2.caches.numbers = g.caches.numbers := by
  rw [run_termTable, run_buildTerms]
  cases g.caches.terms.get? field with
  | some table => rfl
  | none => cases g.view.scan field >>= TermTable.ofPairs field g.view.maxDoc <;> rfl

end Generation

theorem View.answer_numberTable (v : View) (field : String) (type : SortType) :
    v.answer (Session.numberTable field type) =
      v.answer (Session.termTable field) >>= fun terms => NumberTable.ofTerms terms type := by
  have hn := (Generation.ofView 0 v).numbers_termTable field
  rw [answer, answer, Generation.run_numberTable]
  rcases hr : (Generation.ofView 0 v).run (Session.termTable field) with ⟨e | terms, g⟩ <;>
    rw [hr] at hn
  · rfl
  · have hg : g.caches.numbers.get? (field, type) = none := by
      rw [hn]
      rfl
    dsimp only
    rw [hg]
    change _ = NumberTable.ofTerms terms type
    dsimp only
    cases NumberTable.ofTerms terms type <;> rfl

theorem Session.Transparent.numberTable (field : String) (type : SortType) :
    Transparent v (Session.numberTable field type) := fun g h => by
  obtain ⟨ha, hc⟩ := termTable field g h
  have hanswer := v.answer_numberTable field type
  rw [Generation.run_numberTable]
  rw [← ha] at hanswer
  rcases hr : g.run (Session.termTable field) with ⟨e | terms, g'⟩ <;> rw [hr] at hc hanswer
  · exact ⟨hanswer.symm, hc⟩
  · change _ = NumberTable.ofTerms terms type at hanswer
    dsimp only
    cases hg : g'.caches.numbers.get? (field, type) with
    | some table => exact ⟨(hc.numbers field type table hg).symm, hc⟩
    | none =>
      dsimp only
      cases hb : NumberTable.ofTerms terms type with
      | error e => exact ⟨(hanswer.trans hb).symm, hc⟩
      | ok table => exact ⟨(hanswer.trans hb).symm, hc.keepNumbers (hanswer.trans hb)⟩

theorem Session.Transparent.closed : Closed fun _ => Transparent v where
  pure := pure
  throw := throw
  lift := lift
  bind := bind
  rethrow f hs := tryCatch hs fun e => throw (f e)
  search := search
  read := read
  recordUse := recordUse
  termTable := termTable
  numberTable := numberTable

theorem View.answer_mapM {f : α → Session β} (hf : ∀ a, (f a).Transparent v) (l : List α) :
    v.answer (l.mapM f) = l.mapM fun a => v.answer (f a) := by
  induction l with
  | nil => rfl
  | cons a rest ih =>
    have hrest := Session.Transparent.closed.mapM hf rest
    rw [List.mapM_cons, List.mapM_cons, answer_bind (hf a) fun b => .bind hrest fun _ => .pure _]
    refine congrArg _ (funext fun b => ?_)
    rw [answer_bind hrest fun _ => .pure _, ih]
    rfl

namespace Generation

theorem run_fieldValues (g : Generation) (d : DocId) (fields : List String) :
    g.run (Session.fieldValues d fields) =
      match g.caches.values.get? (d, (TextSet.ofList fields).checksum) with
      | some kept =>
        if kept.fields == .ofList fields then (.ok kept.values, g)
        else g.run (Session.readValues d (.ofList fields))
      | none => match g.run (Session.readValues d (.ofList fields)) with
        | (.ok values, g) => (.ok values, { g with caches := { g.caches with
            values := g.caches.values.insertNew (d, (TextSet.ofList fields).checksum)
              { fields := .ofList fields, values } } })
        | (.error e, g) => (.error e, g) := by
  rw [Session.fieldValues, run_bind, run_get]
  dsimp only
  cases g.caches.values.get? (d, (TextSet.ofList fields).checksum) with
  | some kept =>
    dsimp only
    split <;> rfl
  | none =>
    dsimp only
    rw [run_bind]
    rcases g.run (Session.readValues d (.ofList fields)) with ⟨e | values, g'⟩ <;> rfl

theorem run_documentTerms (g : Generation) :
    g.run Session.documentTerms = match g.documentTerms with
      | some terms => (.ok terms, g)
      | none => match g.run (Session.gatherFields { documents := g.view.maxDoc.toNat }
          g.view.fields) with
        | (.ok terms, g) => (.ok terms, { g with documentTerms := some terms })
        | (.error e, g) => (.error e, g) := by
  rw [Session.documentTerms, run_bind, run_get]
  dsimp only
  cases g.documentTerms with
  | some terms => rfl
  | none =>
    dsimp only
    rw [run_bind]
    rcases g.run (Session.gatherFields _ g.view.fields) with ⟨e | terms, g'⟩ <;> rfl

end Generation

theorem View.answer_fieldValues (v : View) (d : DocId) (fields : List String) :
    v.answer (Session.fieldValues d fields) = v.answer (Session.readValues d (.ofList fields)) := by
  rw [answer, answer, Generation.run_fieldValues]
  change Prod.fst (match (Generation.ofView 0 v).run (Session.readValues d (.ofList fields)) with
    | (.ok values, g) => _
    | (.error e, g) => _) = _
  rcases (Generation.ofView 0 v).run (Session.readValues d _) with ⟨e | values, g⟩ <;> rfl

theorem View.answer_documentTerms (v : View) :
    v.answer Session.documentTerms =
      v.answer (Session.gatherFields { documents := v.maxDoc.toNat } v.fields) := by
  rw [answer, answer, Generation.run_documentTerms]
  change Prod.fst (match (Generation.ofView 0 v).run
      (Session.gatherFields { documents := v.maxDoc.toNat } v.fields) with
    | (.ok terms, g) => _
    | (.error e, g) => _) = _
  rcases (Generation.ofView 0 v).run
    (Session.gatherFields { documents := v.maxDoc.toNat } v.fields) with ⟨e | terms, g⟩ <;> rfl

namespace Session.Transparent

/-- Where other fields with the same checksum came first, the values are read anew. -/
theorem fieldValues (d : DocId) (fields : List String) :
    Transparent v (Session.fieldValues d fields) := fun g h => by
  obtain ⟨ha, hc⟩ := closed.readValues d (.ofList fields) g h
  rw [View.answer_fieldValues, Generation.run_fieldValues]
  cases hg : g.caches.values.get? (d, (TextSet.ofList fields).checksum) with
  | some kept =>
    dsimp only
    split
    · rename_i he
      refine ⟨?_, h⟩
      rw [← TextSet.beq_iff.mp he]
      exact (h.values d _ kept hg).symm
    · exact ⟨ha, hc⟩
  | none =>
    dsimp only
    rcases hr : g.run (Session.readValues d (.ofList fields)) with ⟨e | values, g'⟩ <;>
      rw [hr] at ha hc
    · exact ⟨ha, hc⟩
    · exact ⟨ha, hc.keepValues ha.symm⟩

theorem documentTerms : Transparent v Session.documentTerms := fun g h => by
  obtain ⟨ha, hc⟩ := closed.gatherFields scan v.fields { documents := v.maxDoc.toNat } g h
  have hanswer := v.answer_documentTerms
  rw [Generation.run_documentTerms, h.view]
  cases hg : g.documentTerms with
  | some terms => exact ⟨(h.documentTerms terms hg).symm, h⟩
  | none =>
    dsimp only
    rcases hr : g.run (Session.gatherFields { documents := v.maxDoc.toNat } v.fields) with
      ⟨e | terms, g'⟩ <;> rw [hr] at ha hc
    · exact ⟨ha.trans hanswer.symm, hc⟩
    · refine ⟨ha.trans hanswer.symm, hc.view, hc.terms, hc.numbers, hc.values, ?_⟩
      rintro _ ⟨⟩
      exact hanswer.trans ha.symm

end Session.Transparent

end FacetedSearch
