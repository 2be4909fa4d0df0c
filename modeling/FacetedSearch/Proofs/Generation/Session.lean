import FacetedSearch.Proofs.Generation.Operation
import FacetedSearch.Reader

/-!
# FacetedSearch.Proofs.Generation.Session — running sessions, and what reading leaves alone

`run_bind` and its neighbours open the run of a session step by step.  A property is `Closed` when
it holds of the steps that sessions are made of and composition keeps it; such a property holds of
every session.  `ReadTo` is the frame of all reading: the caches may change and calls on the view
are recorded, but usage, stage, signal, registration and view stay, and the view is not closed.
Every session has this frame (`Reads`), whether it fails or not.
-/

namespace FacetedSearch

variable {α β : Type}

namespace Generation

/-! ## Running a session step by step -/

theorem run_bind (g : Generation) (s : Session α) (k : α → Session β) :
    g.run (s >>= k) = match g.run s with
      | (.ok a, g') => g'.run (k a)
      | (.error e, g') => (.error e, g') := by
  change (match g.run s with | (r, g') => StateT.run (ExceptT.bindCont k r) g') = _
  rcases g.run s with ⟨_ | _, _⟩ <;> rfl

theorem run_lift (g : Generation) (e : Except Error α) : g.run (liftM e : Session α) = (e, g) := by
  cases e <;> rfl

theorem run_get (g : Generation) : g.run (get : Session Generation) = (.ok g, g) := rfl

theorem run_tryCatch (g : Generation) (s : Session α) (h : Error → Session α) :
    g.run (tryCatch s h) = match g.run s with
      | (.ok a, g') => (.ok a, g')
      | (.error e, g') => g'.run (h e) := by
  simp only [run, tryCatch, tryCatchThe, MonadExceptOf.tryCatch, ExceptT.tryCatch, ExceptT.run,
    ExceptT.mk, StateT.run, bind, StateT.bind]
  rcases s g with ⟨_ | _, _⟩ <;> rfl

/-! ## The frame of reading -/

/-- The second generation is the first after some reading. -/
structure ReadTo (g g' : Generation) : Prop where
  number : g'.number = g.number
  view : g'.view = g.view
  usage : g'.usage = g.usage
  lifecycle : g'.lifecycle = g.lifecycle
  signal : g'.signal = g.signal
  registration : g'.registration = g.registration
  calls : ∃ new, g'.calls = new ++ g.calls ∧ .close ∉ new

theorem ReadTo.refl (g : Generation) : g.ReadTo g :=
  ⟨rfl, rfl, rfl, rfl, rfl, rfl, [], rfl, by simp⟩

theorem ReadTo.trans {g g' g'' : Generation} (h : g.ReadTo g') (h' : g'.ReadTo g'') :
    g.ReadTo g'' := by
  obtain ⟨new, hn, hc⟩ := h.calls
  obtain ⟨newer, hn', hc'⟩ := h'.calls
  refine ⟨h'.number.trans h.number, h'.view.trans h.view, h'.usage.trans h.usage,
    h'.lifecycle.trans h.lifecycle, h'.signal.trans h.signal,
    h'.registration.trans h.registration, newer ++ new, ?_, ?_⟩
  · rw [hn', hn, List.append_assoc]
  · simp [hc, hc']

/-- Nobody reads a released generation, so its view stays closed by the last call. -/
theorem Sound.readTo {g g' : Generation} (h : g.Sound) (hr : g.ReadTo g')
    (hl : g.lifecycle ≠ .released) : g'.Sound := by
  refine ⟨fun hs => ?_, ?_, fun b hb => ?_, fun hs => ?_⟩
  · rw [hr.usage]
    exact h.held_of_superseded (hr.lifecycle ▸ hs)
  · have hc := h.closedLast
    obtain ⟨new, hn, hnew⟩ := hr.calls
    rw [ClosedLast, if_neg hl] at hc
    rw [ClosedLast, if_neg (hr.lifecycle ▸ hl), hn, List.mem_append]
    rintro (hm | hm)
    · exact hnew hm
    · exact hc hm
  · rw [hr.lifecycle]
    exact h.signal_iff b (hr.signal ▸ hb)
  · exact absurd (hr.lifecycle ▸ hs) hl

end Generation

namespace Session

/-! ## Properties that composition keeps -/

/-- A property that holds of the steps sessions are made of, and that composition keeps. -/
structure Closed (P : ∀ ⦃α : Type⦄, Session α → Prop) : Prop where
  pure : ∀ {α : Type} (a : α), P (Pure.pure a : Session α)
  throw : ∀ {α : Type} (e : Error), P (MonadExcept.throw e : Session α)
  lift : ∀ {α : Type} (e : Except Error α), P (liftM e : Session α)
  bind : ∀ {α β : Type} {s : Session α} {k : α → Session β}, P s → (∀ a, P (k a)) → P (s >>= k)
  /-- Telling a failure otherwise. -/
  rethrow : ∀ {α : Type} {s : Session α} (f : Error → Error), P s →
    P (MonadExcept.tryCatch s fun e => MonadExcept.throw (f e))
  search : ∀ r, P (Session.search r)
  read : ∀ d field, P (Session.read d field)
  recordUse : ∀ field now, P (Session.recordUse field now)
  termTable : ∀ field, P (Session.termTable field)
  numberTable : ∀ field type, P (Session.numberTable field type)

/-- A property that holds of what needs number tables and nothing else, and that composition
keeps. -/
structure Derived (P : ∀ ⦃α : Type⦄, Session α → Prop) : Prop where
  pure : ∀ {α : Type} (a : α), P (Pure.pure a : Session α)
  bind : ∀ {α β : Type} {s : Session α} {k : α → Session β}, P s → (∀ a, P (k a)) → P (s >>= k)
  rethrow : ∀ {α : Type} {s : Session α} (f : Error → Error), P s →
    P (MonadExcept.tryCatch s fun e => MonadExcept.throw (f e))
  numberTable : ∀ field type, P (Session.numberTable field type)

section Composition

variable {P : ∀ ⦃α : Type⦄, Session α → Prop}

theorem Derived.mapM (h : Derived P) {f : α → Session β} (hf : ∀ a, P (f a)) (l : List α) :
    P (l.mapM f) := by
  induction l with
  | nil => exact h.pure []
  | cons a rest ih =>
    rw [List.mapM_cons]
    exact h.bind (hf a) fun b => h.bind ih fun bs => h.pure (b :: bs)

namespace Closed

theorem derived (h : Closed P) : Derived P := ⟨h.pure, h.bind, h.rethrow, h.numberTable⟩

theorem mapM (h : Closed P) {f : α → Session β} (hf : ∀ a, P (f a)) (l : List α) :
    P (l.mapM f) :=
  h.derived.mapM hf l

theorem readValues (h : Closed P) (d : DocId) (fields : TextSet) :
    P (Session.readValues d fields) := by
  refine h.bind (h.mapM (h.read d) _) fun values => ?_
  cases TextSet.ofValues values.flatten with
  | ok set => exact h.pure set
  | error _ => exact h.throw _

theorem gatherFields (h : Closed P) (hscan : ∀ field, P (Session.scan field))
    (fields : List String) (terms : DocumentTerms) : P (Session.gatherFields terms fields) := by
  induction fields generalizing terms with
  | nil => exact h.pure terms
  | cons field rest ih => exact h.bind (hscan field) fun pairs => ih (terms.addField field pairs)

theorem warm (h : Closed P) (fields : List String) : P (Reader.warm fields) := by
  induction fields with
  | nil => exact h.pure ()
  | cons field rest ih => exact h.bind (h.termTable field) fun _ => ih

end Closed

end Composition

/-! ## Every session reads and no more -/

/-- The session leaves alone what reading leaves alone, also where it fails. -/
def Reads (s : Session α) : Prop := ∀ g : Generation, g.ReadTo (g.run s).2

namespace Reads

theorem pure (a : α) : Reads (Pure.pure a : Session α) := fun g => .refl g

theorem throw (e : Error) : Reads (MonadExcept.throw e : Session α) := fun g => .refl g

theorem get : Reads (MonadState.get : Session Generation) := fun g => .refl g

theorem lift (e : Except Error α) : Reads (liftM e : Session α) := fun g => by
  rw [Generation.run_lift]
  exact .refl g

theorem bind {s : Session α} {k : α → Session β} (hs : Reads s) (hk : ∀ a, Reads (k a)) :
    Reads (s >>= k) := by
  intro g
  have h := hs g
  rw [Generation.run_bind]
  rcases hr : g.run s with ⟨_ | a, g'⟩ <;> rw [hr] at h
  · exact h
  · exact h.trans (hk a g')

theorem tryCatch {s : Session α} {k : Error → Session α} (hs : Reads s) (hk : ∀ e, Reads (k e)) :
    Reads (MonadExcept.tryCatch s k) := by
  intro g
  have h := hs g
  rw [Generation.run_tryCatch]
  rcases hr : g.run s with ⟨e | a, g'⟩ <;> rw [hr] at h
  · exact h.trans (hk e g')
  · exact h

theorem call {c : ViewCall} (hc : c ≠ .close) : Reads (Session.call c) :=
  bind (fun _ => ⟨rfl, rfl, rfl, rfl, rfl, rfl, [c], rfl, by simpa using hc.symm⟩)
    fun _ => bind get fun g => pure g.view

theorem updateCaches (f : Caches → Caches) : Reads (Session.updateCaches f) := fun _ =>
  ⟨rfl, rfl, rfl, rfl, rfl, rfl, [], rfl, by simp⟩

theorem search (r : SearchRequest) : Reads (Session.search r) :=
  bind (call (by simp)) fun _ => lift _

theorem scan (field : String) : Reads (Session.scan field) :=
  bind (call (by simp)) fun _ => lift _

theorem read (d : DocId) (field : String) : Reads (Session.read d field) :=
  bind (call (by simp)) fun _ => lift _

theorem buildTerms (field : String) : Reads (Session.buildTerms field) :=
  bind (scan field) fun _ => bind get fun _ => lift _

theorem recordUse (field : String) (now : Nat) : Reads (Session.recordUse field now) :=
  updateCaches _

theorem isCached (field : String) (now : Nat) : Reads (Session.isCached field now) :=
  bind (recordUse field now) fun _ => bind get fun _ => pure _

theorem termTable (field : String) : Reads (Session.termTable field) := by
  refine bind get fun g => ?_
  cases g.caches.terms.get? field with
  | some table => exact pure table
  | none => exact bind (buildTerms field) fun table => bind (updateCaches _) fun _ => pure table

theorem setTermTable (field : String) (table : TermTable) :
    Reads (Session.setTermTable field table) :=
  bind (updateCaches _) fun _ => bind get fun _ => pure _

theorem numberTable (field : String) (type : SortType) : Reads (Session.numberTable field type) := by
  refine bind (termTable field) fun terms => bind get fun g => ?_
  cases g.caches.numbers.get? (field, type) with
  | some table => exact pure table
  | none => exact bind (lift _) fun table => bind (updateCaches _) fun _ => pure table

theorem closed : Closed fun _ => Reads where
  pure := pure
  throw := throw
  lift := lift
  bind := bind
  rethrow f hs := tryCatch hs fun e => throw (f e)
  search := search
  read := read
  recordUse := recordUse
  termTable := termTable
  numberTable := numberTable

theorem fieldValues (d : DocId) (fields : List String) : Reads (Session.fieldValues d fields) := by
  refine bind get fun g => ?_
  cases g.caches.values.get? (d, (TextSet.ofList fields).checksum) with
  | some kept =>
    dsimp only
    split
    · exact pure _
    · exact closed.readValues d _
  | none => exact bind (closed.readValues d _) fun values => bind (updateCaches _) fun _ => pure values

theorem documentTerms : Reads Session.documentTerms := by
  refine bind get fun g => ?_
  cases g.documentTerms with
  | some terms => exact pure terms
  | none =>
    refine bind (closed.gatherFields scan _ _) fun terms => bind ?_ fun _ => pure terms
    exact fun _ => ⟨rfl, rfl, rfl, rfl, rfl, rfl, [], rfl, by simp⟩

end Reads

end Session

end FacetedSearch
