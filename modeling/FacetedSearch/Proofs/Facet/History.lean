import FacetedSearch.Proofs.Facet.Answer
import Mathlib.Data.List.Induction

/-!
# FacetedSearch.Proofs.Facet.History — what was read before does not show

A history of reading one generation, of any length and with failures, keeps it coherent
(`coherent_after`), so a facet request gives what it gives on a fresh generation over the same view
(`execute_after`).
-/

namespace FacetedSearch

variable {v : View} {g : Generation}

/-! ## Histories of reading -/

/-- One step of reading a generation over a view.  A term table that is put there has been built
from that view. -/
inductive ReadAct (v : View)
  /-- Run the facets of a request. -/
  | runFacets (executor : FacetExecutor) (request : FacetRequest) (now : Nat)
  | termTable (field : String)
  | numberTable (field : String) (type : SortType)
  | setTermTable (field : String) (table : TermTable)
    (built : v.answer (Session.buildTerms field) = .ok table)
  | isCached (field : String) (now : Nat)
  | documentTerms
  | fieldValues (d : DocId) (fields : List String)
  /-- Fetch the term tables of some fields under a hold of its own. -/
  | prewarm (fields : List String)
  | lowMemory

namespace Generation

/-- The generation after one step of reading. -/
def read (g : Generation) : ReadAct v → Generation
  | .runFacets executor request now => (g.run (executor.execute request now)).2
  | .termTable field => (g.run (Session.termTable field)).2
  | .numberTable field type => (g.run (Session.numberTable field type)).2
  | .setTermTable field table _ => (g.run (Session.setTermTable field table)).2
  | .isCached field now => (g.run (Session.isCached field now)).2
  | .documentTerms => (g.run Session.documentTerms).2
  | .fieldValues d fields => (g.run (Session.fieldValues d fields)).2
  | .prewarm fields =>
    if g.tryHold.1 then (g.tryHold.2.run (Reader.warm fields)).2.release else g.tryHold.2
  | .lowMemory => g.clearCaches

theorem Coherent.read (h : g.Coherent v) (a : ReadAct v) : (g.read a).Coherent v := by
  cases a with
  | runFacets executor request now =>
    exact (Session.Transparent.closed.execute executor request now g h).2
  | termTable field => exact (Session.Transparent.termTable field g h).2
  | numberTable field type => exact (Session.Transparent.numberTable field type g h).2
  | setTermTable field table built => exact h.keepTerms built
  | isCached field now => exact (Session.Transparent.recordUse field now g h).2
  | documentTerms => exact (Session.Transparent.documentTerms g h).2
  | fieldValues d fields => exact (Session.Transparent.fieldValues d fields g h).2
  | prewarm fields =>
    rw [Generation.read]
    split
    · exact (Session.Transparent.closed.warm fields _ h.tryHold).2.release
    · exact h.tryHold
  | lowMemory => exact h.clearCaches

/-- After any history every table that is there is what a fresh build gives. -/
theorem coherent_after (v : View) (number : Nat) (acts : List (ReadAct v)) :
    (acts.foldl Generation.read (ofView number v)).Coherent v := by
  induction acts using List.reverseRecOn with
  | nil => exact .ofView number v
  | append_singleton acts a ih =>
    rw [List.foldl_append]
    exact ih.read a

end Generation

/-- Caches do not show.  After any history of reading a generation, failures included, a facet
request gives the results or the error that it gives on a fresh generation over the same view. -/
theorem execute_after (v : View) (number fresh : Nat) (acts : List (ReadAct v))
    (executor : FacetExecutor) (request : FacetRequest) (now later : Nat) :
    ((acts.foldl Generation.read (Generation.ofView number v)).run
        (executor.execute request later)).1 =
      ((Generation.ofView fresh v).run (executor.execute request now)).1 := by
  have hafter := Session.Transparent.closed.execute executor request later _
    (Generation.coherent_after v number acts)
  have hfresh := Session.Transparent.closed.execute executor request now _ (.ofView fresh v)
  rw [hafter.1, hfresh.1, View.answer_execute, View.answer_execute]

end FacetedSearch
