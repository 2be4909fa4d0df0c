import FacetedSearch.Proofs.Facet.Fault
import FacetedSearch.Proofs.Generation.Coherence
import FacetedSearch.Proofs.Reader.Run

/-!
# FacetedSearch.Proofs.Reader.Refusal — a request is checked before anything happens

A reader `Serves` a generation that is its current one and is handed out; after any operations
there is one (`Standing.serves`).  The facets of a request are checked without a call on its view
(`run_execute_of_error`), and once they pass the first call is the search (`calls_execute`).  The
main result is `runFacets_checks`: an invalid facet leaves the reader as it was.
-/

namespace FacetedSearch

variable {g : Generation} {executor : FacetExecutor} {request : FacetRequest} {now : Nat}

/-! ## Checking the facets -/

namespace Generation

/-- Steps that do not look at the generation leave it alone, whether they fail or not. -/
theorem run_mapM_lift {α β : Type} (g : Generation) (f : α → Except Error β) (l : List α) :
    g.run (l.mapM fun a => (liftM (f a) : Session β)) = (l.mapM f, g) := by
  induction l with
  | nil => rfl
  | cons a rest ih =>
    rw [List.mapM_cons, List.mapM_cons, run_bind, run_lift]
    cases f a with
    | error e => rfl
    | ok b =>
      dsimp only
      rw [run_bind, ih]
      cases rest.mapM f <;> rfl

theorem run_execute_of_error {e : Error}
    (h : request.facets.mapM (fun d => d.prepare executor.declared) = .error e) :
    g.run (executor.execute request now) = (.error e, g) := by
  rw [FacetExecutor.execute_eq, run_bind, run_mapM_lift, h]

theorem calls_execute (g : Generation) (now : Nat) {prepared : List PreparedFacet}
    (h : request.facets.mapM (fun d => d.prepare executor.declared) = .ok prepared) :
    ∃ later, (g.run (executor.execute request now)).2.calls = later ++ .search :: g.calls := by
  have hrest (docs : DocSet) : Session.Reads ((FacetExecutor.fields prepared).mapM
      (FacetExecutor.fetch now) >>= executor.named request prepared docs) :=
    .bind (Session.Reads.closed.mapM (Session.Reads.closed.fetch now) _)
      fun tables => Session.Reads.closed.derived.named executor request prepared docs tables
  rw [FacetExecutor.execute_eq, run_bind, run_mapM_lift, h]
  dsimp only
  rw [run_bind, run_search]
  cases g.view.search request.search with
  | error e => exact ⟨[], rfl⟩
  | ok docs =>
    obtain ⟨later, hlater, -⟩ := (hrest docs (g.called .search)).calls
    exact ⟨later, hlater⟩

/-! ## A live generation is held and given back -/

theorem tryHold_of_live (h : g.lifecycle = .live) : g.tryHold = (true, g.acquire) := by
  have hl : g.acquire.disposalRequested = false := by simp [disposalRequested, acquire, h]
  simp only [tryHold, hl]
  rfl

theorem release_of_live (h : g.lifecycle = .live) : g.release = g.decrement :=
  release_eq_decrement fun hs => by simp [h] at hs

theorem release_acquire_of_live (h : g.lifecycle = .live) : g.acquire.release = g :=
  release_of_live (g := g.acquire) h

end Generation

namespace Pool

variable {p : Pool} {number : Nat} {g' : Generation}

theorem notifier_put (h : g'.registration = g.registration) : (p.put g g').notifier = p.notifier := by
  rw [put, h]
  cases g.registration <;> rfl

/-- A change is undone by putting the former state back. -/
theorem put_put (h : p.get? g.number = some g) (hn : g'.number = g.number)
    (hr : g'.registration = g.registration) : (p.put g g').put g' g = p := by
  refine ext_get? (fun k => ?_) ?_
  · rw [get?_put, get?_put, hn]
    by_cases hk : k = g.number
    · rw [if_pos hk, hk, h]
    · rw [if_neg hk, if_neg hk]
  · rw [notifier_put hr.symm, notifier_put hr]

end Pool

namespace Reader

/-- The current generation of a reader, which is handed out. -/
structure Serves (r : Reader) (g : Generation) : Prop where
  found : r.pool.get? r.current = some g
  number : g.number = r.current
  live : g.lifecycle = .live

variable {r : Reader}

theorem exists_serves_of_has {usage : Nat} (h : r.pool.Has r.current usage .live) :
    ∃ g, r.Serves g := by
  obtain ⟨g, hg, hn, -, hl, -⟩ := h
  exact ⟨g, hg, hn, hl⟩

namespace Serves

theorem checkOut (h : r.Serves g) :
    r.checkOut = (.ok r.current, r.withPool (r.pool.put g g.acquire)) := by
  have hheld : r.pool.tryHold r.current = (true, r.pool.put g g.acquire) := by
    rw [Pool.tryHold, h.found]
    dsimp only
    rw [Generation.tryHold_of_live h.live]
  rw [checkOut_of_held (by rw [hheld]), hheld]

/-- Running facets holds the current generation, reads it and gives it back. -/
theorem runFacets (h : r.Serves g) (executor : FacetExecutor) (request : FacetRequest) (now : Nat)
    {result : Except Error FacetResults} {g' : Generation}
    (hrun : g.acquire.run (executor.execute request now) = (result, g')) :
    r.runFacets executor request now = (result,
      r.withPool (((r.pool.put g g.acquire).put g.acquire g').put g' g'.release)) := by
  have hread : g.acquire.ReadTo g' := by
    have := Session.Reads.closed.execute executor request now g.acquire
    rwa [hrun] at this
  have hheld : (r.pool.put g g.acquire).get? r.current = some g.acquire := by
    rw [Pool.get?_put, if_pos (show r.current = g.acquire.number from h.number.symm)]
  have hback : ((r.pool.put g g.acquire).put g.acquire g').get? r.current = some g' := by
    rw [Pool.get?_put, if_pos (h.number.symm.trans hread.number.symm)]
  rw [Reader.runFacets, h.checkOut]
  dsimp only [Reader.run, Reader.withPool, Reader.release]
  rw [Pool.run, hheld]
  dsimp only
  rw [hrun, Pool.release, Pool.update, hback]

/-- What reads nothing leaves the reader as it was: the hold is given back. -/
theorem runFacets_unread (h : r.Serves g) {result : Except Error FacetResults}
    (hrun : g.acquire.run (executor.execute request now) = (result, g.acquire)) :
    r.runFacets executor request now = (result, r) := by
  have hfound : r.pool.get? g.number = some g := by
    rw [h.number]
    exact h.found
  have hheld : (r.pool.put g g.acquire).get? g.acquire.number = some g.acquire := by
    rw [Pool.get?_put, if_pos rfl]
  have hpool : ((r.pool.put g g.acquire).put g.acquire g.acquire).put g.acquire
      g.acquire.release = r.pool := by
    rw [Generation.release_acquire_of_live h.live, Pool.put_self hheld]
    exact Pool.put_put hfound rfl rfl
  rw [h.runFacets executor request now hrun, hpool]
  rfl

end Serves

end Reader

theorem Standing.serves {l : Lending} {installed : Nat} (h : Standing l installed) :
    ∃ g, l.reader.Serves g := Reader.exists_serves_of_has h.has_current

/-- A reader checks a request before anything else.  Where some facet does not fit the declared
fields the answer is the fault of the first of them, and the reader is the same as before: its view
has been asked for nothing, and every generation has its usage, its stage and its caches.  Where
all of them fit, the view has been asked to search. -/
theorem runFacets_checks {r : Reader} {g : Generation} (h : r.Serves g) (executor : FacetExecutor)
    (request : FacetRequest) (now : Nat) :
    ((∃ d ∈ request.facets, d.Invalid executor.declared) →
      ∃ before d after e, request.facets = before ++ d :: after ∧
        (∀ b ∈ before, ¬ b.Invalid executor.declared) ∧ d.Invalid executor.declared ∧
        d.Fault executor.declared e ∧ e.kind = .configuration ∧
        r.runFacets executor request now = (.error e, r)) ∧
    ((∀ d ∈ request.facets, ¬ d.Invalid executor.declared) →
      ∃ g' later, (r.runFacets executor request now).2.pool.get? r.current = some g' ∧
        g'.calls = later ++ .search :: g.calls) := by
  constructor
  · rintro ⟨d, hd, hinvalid⟩
    cases hchecked : request.facets.mapM fun d => d.prepare executor.declared with
    | ok prepared =>
      exact absurd hinvalid (FacetDefinition.exists_prepare_iff.mp
        (exists_mapM_iff.mp ⟨prepared, hchecked⟩ d hd))
    | error e =>
      obtain ⟨before, d, after, hfacets, hbefore, hd⟩ := mapM_eq_error_iff.mp hchecked
      have hfault := FacetDefinition.prepare_eq_error_iff.mp hd
      exact ⟨before, d, after, e, hfacets,
        fun b hb => FacetDefinition.exists_prepare_iff.mp (hbefore b hb), hfault.invalid, hfault,
        hfault.kind, h.runFacets_unread (Generation.run_execute_of_error hchecked)⟩
  · intro hvalid
    obtain ⟨prepared, hchecked⟩ := exists_mapM_iff.mpr fun d hd =>
      FacetDefinition.exists_prepare_iff.mpr (hvalid d hd)
    rcases hrun : g.acquire.run (executor.execute request now) with ⟨result, g'⟩
    have hread := Session.Reads.closed.execute executor request now g.acquire
    obtain ⟨later, hcalls⟩ := Generation.calls_execute g.acquire now hchecked
    rw [hrun] at hread hcalls
    have hlive : g'.lifecycle = .live := hread.lifecycle.trans h.live
    refine ⟨g'.release, later, ?_, ?_⟩
    · rw [h.runFacets executor request now hrun]
      dsimp only [Reader.withPool]
      rw [Pool.get?_put, Generation.number_release,
        if_pos (h.number.symm.trans hread.number.symm)]
    · rw [Generation.release_of_live hlive]
      exact hcalls

/-- A view that can only be closed. -/
def unreadable : View where
  maxDoc := 1
  fields := ["author", "price"]
  search _ := .error (.reported .resource "search")
  scan field := .error (.reported .resource field)
  read _ field := .error (.reported .resource field)
  close := .ok ()

/-- A reader whose first generation is still held after another was installed. -/
def unreadableReader : Reader :=
  (Lending.after "books" {} unreadable [.checkOut, .install unreadable false 5 []]).reader

/-- A request with two invalid facets behind one that is not. -/
def mixedRequest : FacetRequest where
  search := { query := .all }
  facets := [{ name := "author" },
    { name := "author", aggregation := .sum, aggregationField := some "author" }, {}]

/-- A request whose facets are as they should be. -/
def plainRequest : FacetRequest where
  search := { query := .all }
  facets := [{ name := "author" }]

theorem runFacets_unreadable :
    let executor : FacetExecutor := { maxPageSize := 10, declared := fun _ => some .string }
    ∃ g, unreadableReader.Serves g ∧
      unreadableReader.runFacets executor mixedRequest 7 =
        (.error (.facetNotNumeric "author" .sum "author_Range" .string), unreadableReader) ∧
      ∃ g' later, (unreadableReader.runFacets executor plainRequest 7).2.pool.get?
          unreadableReader.current = some g' ∧ g'.calls = later ++ .search :: g.calls := by
  intro executor
  obtain ⟨g, hg⟩ := (standing "books" {} unreadable
    [.checkOut, .install unreadable false 5 []]).serves
  refine ⟨g, hg, ?_, ?_⟩
  · obtain ⟨-, -, -, e, -, -, -, -, -, hrun⟩ :=
      (runFacets_checks hg executor mixedRequest 7).1 ⟨{}, by simp [mixedRequest], .name rfl⟩
    have hfault : (unreadableReader.runFacets executor mixedRequest 7).1 =
      .error (.facetNotNumeric "author" .sum "author_Range" .string) := by decide +kernel
    have hrun : unreadableReader.runFacets executor mixedRequest 7 = (.error e, unreadableReader) :=
      hrun
    rw [hrun] at hfault
    cases hfault
    exact hrun
  · refine (runFacets_checks hg executor plainRequest 7).2 fun d hd => ?_
    obtain rfl := List.mem_singleton.mp hd
    exact FacetDefinition.exists_prepare_iff.mp ⟨⟨{ name := "author" }, none, []⟩, by decide +kernel⟩

end FacetedSearch
