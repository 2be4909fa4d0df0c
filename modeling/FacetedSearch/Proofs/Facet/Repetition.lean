import FacetedSearch.Proofs.Generation.Thrift
import FacetedSearch.Proofs.Facet.Session

/-!
# FacetedSearch.Proofs.Facet.Repetition — a facet request that is repeated makes no scan

Which term tables a session fetches is settled by the answers of the view; what is cached does not
matter (`Fetches`).  A session that succeeds leaves all of them, and where they all are it makes no
scan.  The time at which a facet field is used does not matter either, so what is run again at a
later time is a family of sessions (`Repeatable`).  Such families compose, and a facet request is
one of them (`Repeatable.execute`).
-/

namespace FacetedSearch

variable {α β : Type} {v : View} {g g' : Generation} {field : String} {fields : List String}

namespace Session

/-- On a coherent generation the session fetches the term tables of these fields, all of them where
it succeeds, and makes no scan but for them. -/
structure Fetches (v : View) (s : Session α) (fields : List String) : Prop where
  fetched : ∀ (g g' : Generation) (a : α), g.Coherent v → g.run s = (.ok a, g') →
    ∀ field ∈ fields, g'.resident field = true
  silent : ∀ g : Generation, g.Coherent v → (∀ field ∈ fields, g.resident field = true) →
    (g.run s).2.countCalls ViewCall.isScan = g.countCalls ViewCall.isScan

namespace Fetches

variable {s : Session α}

/-- A session that never makes a scan. -/
theorem nothing
    (h : ∀ g : Generation, (g.run s).2.countCalls ViewCall.isScan = g.countCalls ViewCall.isScan) :
    Fetches v s [] :=
  ⟨fun _ _ _ _ _ _ hf => absurd hf List.not_mem_nil, fun g _ _ => h g⟩

theorem search (r : SearchRequest) : Fetches v (Session.search r) [] :=
  nothing fun g => by
    rw [Generation.run_search]
    rfl

theorem read (d : DocId) (name : String) : Fetches v (Session.read d name) [] :=
  nothing fun g => by
    rw [Generation.run_read]
    rfl

theorem termTable (field : String) : Fetches v (Session.termTable field) [field] := by
  refine ⟨fun g g' a _ hrun f hf => ?_, fun g _ hres => ?_⟩
  · obtain rfl := List.mem_singleton.mp hf
    rw [Generation.run_termTable] at hrun
    cases hg : g.caches.terms.get? f with
    | some table =>
      rw [hg] at hrun
      cases hrun
      exact Generation.resident_eq_true_iff.mpr ⟨_, hg⟩
    | none =>
      rw [hg] at hrun
      dsimp only at hrun
      rcases hb : g.run (Session.buildTerms f) with ⟨e | table, g₁⟩ <;> rw [hb] at hrun
      · cases hrun
      · cases hrun
        exact (g₁.resident_withTerms _).trans (by simp)
  · rw [Generation.snd_run_termTable, if_pos (hres field (List.mem_singleton_self field))]

theorem numberTable (field : String) (type : SortType) :
    Fetches v (Session.numberTable field type) [field] := by
  refine ⟨fun g g' a hc hrun f hf => ?_, fun g hc hres => ?_⟩ <;>
    obtain ⟨numbers, hsnd⟩ := g.snd_run_numberTable field type
  · -- the numbers succeeded, so the terms did
    obtain ⟨table, g₁, hterms⟩ : ∃ table g₁, g.run (Session.termTable field) = (.ok table, g₁) := by
      rw [Generation.run_numberTable] at hrun
      rcases hr : g.run (Session.termTable field) with ⟨e | table, g₁⟩
      · rw [hr] at hrun
        cases hrun
      · exact ⟨table, g₁, rfl⟩
    have hres := (termTable field).fetched g g₁ table hc hterms f hf
    rw [hrun, hterms] at hsnd
    obtain rfl : g' = _ := hsnd
    exact hres
  · rw [hsnd]
    exact (termTable field).silent g hc hres

theorem rethrow (f : Error → Error) (h : Fetches v s fields) :
    Fetches v (MonadExcept.tryCatch s fun e => MonadExcept.throw (f e)) fields := by
  refine ⟨fun g g' a hc hrun => ?_, fun g hc hres => ?_⟩
  · rw [Generation.run_tryCatch] at hrun
    rcases hr : g.run s with ⟨e | b, g₁⟩ <;> rw [hr] at hrun <;> cases hrun
    exact h.fetched g g' a hc hr
  · have hs := h.silent g hc hres
    rw [Generation.run_tryCatch]
    rcases hr : g.run s with ⟨e | b, g₁⟩ <;> rw [hr] at hs <;> exact hs

/-- What comes second is given by the answer to what comes first. -/
theorem bind {k : α → Session β} {fields' : List String} (hs : s.Thrifty) (ht : s.Transparent v)
    (hk : ∀ a, (k a).Thrifty) (h : Fetches v s fields)
    (h' : ∀ a, v.answer s = .ok a → Fetches v (k a) fields') :
    Fetches v (s >>= k) (fields ++ fields') := by
  refine ⟨fun g g' b hc hrun f hf => ?_, fun g hc hres => ?_⟩
  · obtain ⟨ha, hc'⟩ := ht g hc
    rw [Generation.run_bind] at hrun
    rcases hr : g.run s with ⟨e | a, g₁⟩ <;> rw [hr] at hrun ha hc'
    · cases hrun
    · dsimp only at hrun
      rcases List.mem_append.mp hf with hf | hf
      · have hres : (g₁.run (k a)).2.resident f = true :=
          (hk a).resident hc' (h.fetched g g₁ a hc hr f hf)
        rw [hrun] at hres
        exact hres
      · exact (h' a ha.symm).fetched g₁ g' b hc' hrun f hf
  · obtain ⟨ha, hc'⟩ := ht g hc
    have hfirst := h.silent g hc fun f hf => hres f (List.mem_append_left _ hf)
    have hkept (f : String) (hf : f ∈ fields') : (g.run s).2.resident f = true :=
      hs.resident hc (hres f (List.mem_append_right _ hf))
    rw [Generation.run_bind]
    rcases hr : g.run s with ⟨e | a, g₁⟩ <;> rw [hr] at ha hc' hfirst hkept
    · exact hfirst
    · exact ((h' a ha.symm).silent g₁ hc' hkept).trans hfirst

end Fetches

/-! ## Families of sessions that differ by the time -/

/-- At every time the session gives the same answer and fetches the same term tables. -/
structure Repeatable (v : View) (s : Nat → Session α) : Prop where
  thrifty : ∀ now, (s now).Thrifty
  transparent : ∀ now, (s now).Transparent v
  answer : ∀ now later, v.answer (s now) = v.answer (s later)
  fetches : ∃ fields, ∀ now, Fetches v (s now) fields

namespace Repeatable

/-- A session that does not look at the time. -/
theorem const {s : Session α} (hs : s.Thrifty) (ht : s.Transparent v) (h : Fetches v s fields) :
    Repeatable v fun _ => s :=
  ⟨fun _ => hs, fun _ => ht, fun _ _ => rfl, fields, fun _ => h⟩

theorem bind {s : Nat → Session α} {k : Nat → α → Session β} (hs : Repeatable v s)
    (hk : ∀ a, Repeatable v fun now => k now a) : Repeatable v fun now => s now >>= k now := by
  have ht (now : Nat) (a : α) : (k now a).Transparent v := (hk a).transparent now
  refine ⟨fun now => (hs.thrifty now).bind fun a => (hk a).thrifty now,
    fun now => (hs.transparent now).bind (ht now), fun now later => ?_, ?_⟩
  · rw [View.answer_bind (hs.transparent now) (ht now),
      View.answer_bind (hs.transparent later) (ht later), hs.answer now later]
    exact congrArg _ (funext fun a => (hk a).answer now later)
  · obtain ⟨fields, hfields⟩ := hs.fetches
    cases ha : v.answer (s 0) with
    | error e =>
      refine ⟨fields ++ [], fun now => .bind (hs.thrifty now) (hs.transparent now)
        (fun a => (hk a).thrifty now) (hfields now) fun a h => ?_⟩
      rw [hs.answer now 0, ha] at h
      cases h
    | ok a =>
      obtain ⟨fields', hfields'⟩ := (hk a).fetches
      refine ⟨fields ++ fields', fun now => .bind (hs.thrifty now) (hs.transparent now)
        (fun a => (hk a).thrifty now) (hfields now) fun b h => ?_⟩
      rw [hs.answer now 0, ha] at h
      cases h
      exact hfields' now

theorem closed : Closed fun _ s => Repeatable v fun _ => s where
  pure a := const (.pure a) (.pure a) (.nothing fun _ => rfl)
  throw e := const (.throw e) (.throw e) (.nothing fun _ => rfl)
  lift e := const (.lift e) (.lift e) (.nothing fun g => by rw [Generation.run_lift])
  bind hs hk := hs.bind hk
  rethrow f hs := by
    obtain ⟨fields, hfields⟩ := hs.fetches
    exact const ((hs.thrifty 0).rethrow f) (Transparent.closed.rethrow f (hs.transparent 0))
      ((hfields 0).rethrow f)
  search r := const (.search r) (.search r) (.search r)
  read d name := const (.read d name) (.read d name) (.read d name)
  recordUse name now := const (.recordUse name now) (.recordUse name now) (.nothing fun _ => rfl)
  termTable name := const (.termTable name) (.termTable name) (.termTable name)
  numberTable name type :=
    const (.numberTable name type) (.numberTable name type) (.numberTable name type)

theorem recordUse (name : String) : Repeatable v fun now => Session.recordUse name now :=
  ⟨.recordUse name, .recordUse name, fun _ _ => rfl, [], fun _ => .nothing fun _ => rfl⟩

theorem mapM {f : Nat → α → Session β} (hf : ∀ a, Repeatable v fun now => f now a) (l : List α) :
    Repeatable v fun now => l.mapM (f now) := by
  induction l with
  | nil => exact closed.pure []
  | cons a rest ih =>
    simp only [List.mapM_cons]
    exact (hf a).bind fun b => ih.bind fun bs => closed.pure (b :: bs)

theorem fetch (name : String) : Repeatable v fun now => FacetExecutor.fetch now name :=
  (recordUse name).bind fun _ => (closed.termTable name).bind fun table => closed.pure (name, table)

theorem execute (executor : FacetExecutor) (request : FacetRequest) :
    Repeatable v fun now => executor.execute request now := by
  simp only [FacetExecutor.execute_eq]
  exact (closed.mapM (fun _ => closed.lift _) request.facets).bind fun prepared =>
    (closed.search request.search).bind fun docs =>
      (mapM fetch (FacetExecutor.fields prepared)).bind fun tables =>
        closed.derived.named executor request prepared docs tables

/-- Run again after a success, the session makes no scan. -/
theorem countCalls_again {s : Nat → Session α} (h : Repeatable v s) (hc : g.Coherent v)
    {now : Nat} {a : α} (hrun : g.run (s now) = (.ok a, g')) (later : Nat) :
    (g'.run (s later)).2.countCalls ViewCall.isScan = g'.countCalls ViewCall.isScan := by
  obtain ⟨fields, hfields⟩ := h.fetches
  have hc' := (h.transparent now g hc).2
  rw [hrun] at hc'
  exact (hfields later).silent g' hc' ((hfields now).fetched g g' a hc hrun)

end Repeatable

end Session

end FacetedSearch
