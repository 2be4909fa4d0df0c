import FacetedSearch.Proofs.Reader.Diary

/-!
# FacetedSearch.Proofs.Reader.Retention — what generations keep when they drop their caches

Five things are derived from a view and kept: term tables, number tables, stored values, uses of
facet fields, and the terms of all documents.  The first four are the caches.  They are empty after
a low-memory notification and after any act that tears the generation down
(`caches_undergo_of_released`).  The terms of all documents are not among them: no act takes them
away once they have been gathered (`isSome_documentTerms_undergoAll`).  So nothing is left exactly
where they have never been gathered (`bare_after`).  A reader's notification reaches each generation
that has not been released (`lowMemory_after`).
-/

namespace FacetedSearch

variable {v : View} {g : Generation}

/-- The terms of all documents can be gathered: each field can be scanned. -/
def View.Gatherable (v : View) : Prop := ∀ field ∈ v.fields, ∃ pairs, v.scan field = .ok pairs

namespace Generation

/-- Nothing that is derived from the view is kept. -/
structure Bare (g : Generation) : Prop where
  terms : g.caches.terms = ∅
  numbers : g.caches.numbers = ∅
  values : g.caches.values = ∅
  uses : g.caches.uses = ∅
  documentTerms : g.documentTerms = none

/-- Without caches there are the terms of all documents at most. -/
theorem bare_iff (h : g.caches = {}) : g.Bare ↔ ¬ g.documentTerms.isSome = true := by
  rw [Option.not_isSome_iff_eq_none]
  refine ⟨Bare.documentTerms, fun hd => ?_⟩
  refine ⟨?_, ?_, ?_, ?_, hd⟩ <;> rw [h]

/-! ## Acts that tear the generation down -/

theorem caches_tearDown (h : g.lifecycle = .superseded) : g.tearDown.caches = {} := by
  rw [tearDown, if_pos h]
  rfl

/-- A release that tears the generation down leaves no caches. -/
theorem caches_release_of_released (hg : g.lifecycle ≠ .released)
    (hr : g.release.lifecycle = .released) : g.release.caches = {} := by
  rw [lifecycle_release] at hr
  split at hr
  · rename_i hlast
    rw [release_eq_tearDown hlast.1]
    exact caches_tearDown hlast.2
  · exact absurd hr hg

theorem caches_tryHold_of_released (hg : g.lifecycle ≠ .released)
    (hr : g.tryHold.2.lifecycle = .released) : g.tryHold.2.caches = {} := by
  rw [tryHold] at hr ⊢
  split at hr
  · rename_i hrefused
    rw [if_pos hrefused]
    exact caches_release_of_released hg hr
  · exact absurd hr hg

/-- Of the steps of asking for the teardown only the release can tear the generation down, and what
comes after it is about the signal. -/
theorem caches_markForDisposal_of_released {wait : Bool} (hg : g.lifecycle ≠ .released)
    (hr : (g.markForDisposal wait).lifecycle = .released) :
    (g.markForDisposal wait).caches = {} := by
  have hheld : (g.offerSignal wait).acquire.supersede.lifecycle ≠ .released := by
    have hoffer : (g.offerSignal wait).acquire.lifecycle = g.lifecycle :=
      (offerSignal_fields g wait).2.2.1
    rw [lifecycle_supersede, hoffer]
    split
    · decide
    · exact hg
  have hgive (g' : Generation) : (g'.giveSignal wait).caches = g'.caches := by
    rw [giveSignal]
    split <;> rfl
  rw [markForDisposal_eq, (giveSignal_fields _ _).2.2.1] at hr
  rw [markForDisposal_eq, hgive]
  exact caches_release_of_released hheld hr

theorem lifecycle_tryHold_of_held (h : g.tryHold.1 = true) :
    g.tryHold.2.lifecycle = g.lifecycle := by
  rw [tryHold] at h ⊢
  split at h
  · cases h
  · rename_i hhanded
    rw [if_neg hhanded]
    rfl

/-- Of all reading only a warming gives back a hold, and it does not read without one. -/
theorem caches_read_of_released (hg : g.lifecycle ≠ .released) (a : ReadAct v)
    (hr : (g.read a).lifecycle = .released) : (g.read a).caches = {} := by
  have hread {α : Type} {s : Session α} (hs : s.Reads) : (g.run s).2.lifecycle ≠ .released := by
    rw [(hs g).lifecycle]
    exact hg
  cases a with
  | runFacets executor request now =>
    exact absurd hr (hread (Session.Reads.closed.execute executor request now))
  | termTable field => exact absurd hr (hread (.termTable field))
  | numberTable field type => exact absurd hr (hread (.numberTable field type))
  | setTermTable field table _ => exact absurd hr (hread (.setTermTable field table))
  | isCached field now => exact absurd hr (hread (.isCached field now))
  | documentTerms => exact absurd hr (hread .documentTerms)
  | fieldValues d fields => exact absurd hr (hread (.fieldValues d fields))
  | prewarm fields =>
    rw [read] at hr ⊢
    split at hr
    · rename_i hheld
      rw [if_pos hheld]
      refine caches_release_of_released ?_ hr
      rw [(Session.Reads.closed.warm fields _).lifecycle, lifecycle_tryHold_of_held hheld]
      exact hg
    · rename_i hrefused
      rw [if_neg hrefused]
      exact caches_tryHold_of_released hg hr
  | lowMemory => rfl

/-- Whatever act tears a generation down leaves its caches empty. -/
theorem caches_undergo_of_released (hg : g.lifecycle ≠ .released) (a : LifeAct v)
    (hr : (g.undergo a).lifecycle = .released) : (g.undergo a).caches = {} := by
  cases a with
  | read a => exact caches_read_of_released hg a hr
  | acquire => exact absurd hr hg
  | release => exact caches_release_of_released hg hr
  | tryHold => exact caches_tryHold_of_released hg hr
  | mark wait => exact caches_markForDisposal_of_released hg hr

/-! ## The terms of all documents -/

/-- Gathering makes calls, and its outcome is that on a fresh generation over the view. -/
theorem exists_run_gatherFields (g : Generation) (t : DocumentTerms) (fields : List String) :
    ∃ calls, g.run (Session.gatherFields t fields) =
      (g.view.answer (Session.gatherFields t fields), { g with calls }) := by
  induction fields generalizing g t with
  | nil => exact ⟨g.calls, rfl⟩
  | cons field rest ih =>
    rw [View.answer_gatherFields_cons, Session.gatherFields, run_bind, run_scan]
    cases g.view.scan field with
    | error e => exact ⟨_, rfl⟩
    | ok pairs => exact ih (g.called (.scan field)) (t.addField field pairs)

theorem isSome_documentTerms (g : Generation) :
    (g.run Session.documentTerms).2.documentTerms.isSome = true ↔
      g.documentTerms.isSome = true ∨ g.view.Gatherable := by
  have hgathered : (∃ terms, g.view.answer (Session.gatherFields
      { documents := g.view.maxDoc.toNat } g.view.fields) = .ok terms) ↔ g.view.Gatherable :=
    View.exists_gatherFields_iff
  obtain ⟨calls, hrun⟩ :=
    g.exists_run_gatherFields { documents := g.view.maxDoc.toNat } g.view.fields
  rw [run_documentTerms, hrun, ← hgathered]
  cases hd : g.documentTerms with
  | some terms => simp [hd]
  | none =>
    cases g.view.answer (Session.gatherFields _ g.view.fields) with
    | error e => simp
    | ok terms => simp

/-- Gathering adds the terms of all documents where it can, and no other act touches them. -/
theorem isSome_documentTerms_undergo (g : Generation) (a : LifeAct v) :
    (g.undergo a).documentTerms.isSome = true ↔
      g.documentTerms.isSome = true ∨ a.gathers = true ∧ g.view.Gatherable := by
  cases ha : a.gathers with
  | false =>
    rw [(g.charged_undergo "" ha).documentTerms]
    simp
  | true =>
    obtain rfl := LifeAct.eq_of_gathers ha
    rw [undergo, read, isSome_documentTerms]
    simp

theorem isSome_documentTerms_undergoAll (g : Generation) (acts : List (LifeAct v)) :
    (acts.foldl undergo g).documentTerms.isSome = true ↔
      g.documentTerms.isSome = true ∨ (∃ a ∈ acts, a.gathers = true) ∧ g.view.Gatherable := by
  induction acts generalizing g with
  | nil => simp
  | cons a rest ih =>
    have hview : (g.undergo a).view = g.view := (g.undergo_frame "" a).1
    rw [List.foldl_cons, ih, isSome_documentTerms_undergo, hview, List.exists_mem_cons_iff,
      or_and_right, or_assoc]

end Generation

/-- A generation in any state, and any acts on it.  Notified that memory is low it keeps no term
table, no number table, no stored values and no uses, while its usage, its stage and the calls made
on its view stay as they are.  The release of the last hold on a superseded generation tears it
down, and so does asking for the teardown of a generation that nobody holds; whatever act it is
that does, it leaves none of the four either.  The terms of all documents stay in both cases, so
nothing derived from the view is left exactly where they were not there at first and no act has
gathered them since. -/
theorem bare_after (g : Generation) (acts : List (LifeAct g.view)) :
    let h := acts.foldl Generation.undergo g
    let gathered := g.documentTerms.isSome = true ∨
      (∃ a ∈ acts, a.gathers = true) ∧ g.view.Gatherable
    let low := h.undergo (.read .lowMemory : LifeAct g.view)
    (low.caches = {} ∧ (low.Bare ↔ ¬ gathered) ∧
        low.usage = h.usage ∧ low.lifecycle = h.lifecycle ∧ low.calls = h.calls) ∧
      (h.usage = 1 → h.lifecycle = .superseded →
        (h.undergo (.release : LifeAct g.view)).lifecycle = .released) ∧
      (h.usage = 0 → ∀ wait,
        (h.undergo (.mark wait : LifeAct g.view)).lifecycle = .released) ∧
      ∀ a : LifeAct g.view, h.lifecycle ≠ .released → (h.undergo a).lifecycle = .released →
        (h.undergo a).caches = {} ∧ ((h.undergo a).Bare ↔ ¬ gathered) := by
  intro h gathered low
  have hgathered : h.documentTerms.isSome = true ↔ gathered :=
    g.isSome_documentTerms_undergoAll acts
  refine ⟨⟨rfl, ?_, rfl, rfl, rfl⟩, fun hu hs => ?_, fun hu wait => ?_, fun a hlive hr => ?_⟩
  · rw [Generation.bare_iff rfl, ← hgathered]
    rfl
  · rw [Generation.undergo, Generation.lifecycle_release, if_pos ⟨hu, hs⟩]
  · rw [Generation.undergo, Generation.lifecycle_markForDisposal, if_pos hu]
  · have hcaches := Generation.caches_undergo_of_released hlive a hr
    refine ⟨hcaches, ?_⟩
    rw [Generation.bare_iff hcaches, ← hgathered, Generation.isSome_documentTerms_undergo]
    -- gathering is reading, so it is not the act that tears down
    have hno : a.gathers ≠ true := fun ha => by
      obtain rfl := LifeAct.eq_of_gathers ha
      exact hlive ((Session.Reads.documentTerms h).lifecycle ▸ hr)
    simp [hno]

/-- The terms of all documents, once gathered, outlast a low-memory notification, and the teardown
as well. -/
theorem documentTerms_retained :
    let h := (Generation.ofView 0 twoColors).undergo (.read .documentTerms : LifeAct twoColors)
    let low := h.undergo (.read .lowMemory : LifeAct twoColors)
    let down := h.undergo (.mark false : LifeAct twoColors)
    ¬ low.Bare ∧ h.lifecycle = .live ∧ down.lifecycle = .released ∧ ¬ down.Bare := by
  intro h low down
  have hlow : low.documentTerms.isSome = true := by decide
  have hdown : down.documentTerms.isSome = true := by decide
  refine ⟨fun hbare => ?_, rfl, by decide, fun hbare => ?_⟩
  · rw [hbare.documentTerms] at hlow
    cases hlow
  · rw [hbare.documentTerms] at hdown
    cases hdown

/-- Whatever has been done to a reader and its generations: notifying them that memory is low leaves
each generation that has not been released without caches, and otherwise as it was. -/
theorem Reader.lowMemory_after (name : String) (config : Config) (view : View) (deeds : List Deed)
    (number : Nat) (g : Generation) :
    let r := (Diary.after name config view deeds).lending.reader
    r.pool.get? number = some g → g.lifecycle ≠ .released →
      r.lowMemory.2.pool.get? number = some { g with caches := {} } := by
  intro r hg hl
  have hnoted : r.pool.Noted r.next _ := (Diary.kept_after name config view deeds).pool
  have hget := hnoted.keyed.get?_lowMemory number
  rw [if_pos (hnoted.mem_live hg hl), hg] at hget
  exact hget

end FacetedSearch
