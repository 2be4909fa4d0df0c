import FacetedSearch.Proofs.Generation.Operation
import Mathlib.Logic.Relation

/-!
# FacetedSearch.Proofs.Generation.Interleaving — one generation among many parties

Parties try to hold a generation, drop what they hold and ask for the teardown, and their atomic
steps interleave in any order.  `Move` cuts the operations into these steps; a party that nobody
interrupts runs the operations as they are (`steps_tryHold`, `steps_release`, `steps_mark`).
Whatever the order, usage counts the parties that have counted themselves (`Tallied.step`), and the
view is closed once, on release (`closed_once`).

Giving back the last hold and tearing down are two steps, and between them the generation may be
taken again and superseded: then it is released while somebody holds it (`released_while_held`).
This is the only way.  Unless it is superseded at such a moment, nobody holds a generation that is
released (`unreleased_while_held`).  Signals are left out; no step depends on them.
-/

namespace FacetedSearch

open Relation (ReflTransGen)

/-! ## Parties and their steps -/

/-- Where a party is in its operations. -/
inductive Point
  /-- Between two operations, and without a hold. -/
  | idle
  /-- Counted, and about to look whether the generation is still handed out. -/
  | checking
  /-- In possession of a handle that it has not begun to drop. -/
  | holding
  /-- Counted, and about to supersede the generation. -/
  | marking
  /-- About to give back its hold. -/
  | releasing
  /-- About to tear the generation down, after giving back the last hold. -/
  | tearing
deriving DecidableEq

/-- Whether a party at this point is counted in the usage. -/
def Point.counted : Point → Bool
  | .idle | .tearing => false
  | .checking | .holding | .marking | .releasing => true

/-- One atomic step of a party: from where to where it goes, and what becomes of the generation. -/
inductive Move (g : Generation) : Point → Point → Generation → Prop
  /-- Begin to take a hold. -/
  | enter : Move g .idle .checking g.acquire
  | take (h : g.disposalRequested = false) : Move g .checking .holding g
  | refuse (h : g.disposalRequested = true) : Move g .checking .releasing g
  /-- Begin to drop the handle. -/
  | drop : Move g .holding .releasing g
  /-- Begin to ask for the teardown. -/
  | mark : Move g .idle .marking g.acquire
  | supersede : Move g .marking .releasing g.supersede
  | giveBack (h : g.usage ≠ 1) : Move g .releasing .idle g.decrement
  | giveBackLast (h : g.usage = 1) : Move g .releasing .tearing g.decrement
  | tearDown : Move g .tearing .idle g.tearDown

namespace Move

variable {g g' : Generation} {p p' : Point}

/-- A step counts its party in or out, and nobody else. -/
theorem usage (h : Move g p p' g') (hp : p.counted = true → 0 < g.usage) :
    g'.usage + (if p.counted then 1 else 0) = g.usage + if p'.counted then 1 else 0 := by
  cases h with
  | enter | take | refuse | drop | mark => rfl
  | supersede => rw [Generation.usage_supersede]; rfl
  | giveBack | giveBackLast => exact Nat.sub_add_cancel (hp rfl)
  | tearDown => rw [Generation.usage_tearDown]; rfl

theorem closedLast (h : Move g p p' g') (hc : g.ClosedLast) : g'.ClosedLast := by
  cases h with
  | enter | take | refuse | drop | mark | giveBack | giveBackLast => exact hc
  | supersede => exact hc.supersede
  | tearDown => exact hc.tearDown

end Move

/-- A generation and the parties around it. -/
structure Shared where
  generation : Generation
  parties : List Point

namespace Shared

variable {s s' : Shared}

/-- A new generation and some parties that have not begun. -/
def start (number : Nat) (view : View) (registration : Option Nat) (parties : Nat) : Shared where
  generation := { number, view, registration }
  parties := List.replicate parties .idle

/-- One of the parties takes a step. -/
inductive Step : Shared → Shared → Prop
  | move {g g' : Generation} {p p' : Point} (before after : List Point) (h : Move g p p' g') :
    Step ⟨g, before ++ p :: after⟩ ⟨g', before ++ p' :: after⟩

/-- A step that does not supersede the generation while some party is about to tear it down. -/
def Calm (s s' : Shared) : Prop :=
  s.Step s' ∧ (s.generation.lifecycle = .live → s'.generation.lifecycle ≠ .live →
    .tearing ∉ s.parties)

/-! ## Operations without interruption -/

section Alone

variable (g : Generation) (before after : List Point)

theorem steps_giveBack : ReflTransGen Step ⟨g, before ++ .releasing :: after⟩
    ⟨g.release, before ++ .idle :: after⟩ := by
  rw [Generation.release]
  split
  · rename_i h
    exact (ReflTransGen.single (.move before after (.giveBackLast h))).tail
      (.move before after .tearDown)
  · rename_i h
    exact .single (.move before after (.giveBack h))

theorem steps_release : ReflTransGen Step ⟨g, before ++ .holding :: after⟩
    ⟨g.release, before ++ .idle :: after⟩ :=
  (steps_giveBack g before after).head (.move before after .drop)

theorem steps_tryHold : ReflTransGen Step ⟨g, before ++ .idle :: after⟩
    ⟨g.tryHold.2, before ++ (if g.tryHold.1 then .holding else .idle) :: after⟩ := by
  rw [Generation.tryHold]
  split
  · rename_i h
    exact ((steps_giveBack g.acquire before after).head (.move before after (.refuse h))).head
      (.move before after .enter)
  · rename_i h
    rw [Bool.not_eq_true] at h
    exact (ReflTransGen.single (.move before after .enter)).tail (.move before after (.take h))

theorem steps_mark : ReflTransGen Step ⟨g, before ++ .idle :: after⟩
    ⟨g.markForDisposal false, before ++ .idle :: after⟩ :=
  ((steps_giveBack g.acquire.supersede before after).head (.move before after .supersede)).head
    (.move before after .mark)

end Alone

/-! ## What holds in any order -/

/-- Usage counts the parties that have counted themselves, and the view is closed on release. -/
structure Tallied (s : Shared) : Prop where
  usage : s.generation.usage = s.parties.countP Point.counted
  closedLast : s.generation.ClosedLast

theorem tallied_start (number : Nat) (view : View) (registration : Option Nat) (parties : Nat) :
    (start number view registration parties).Tallied where
  usage := by
    refine (List.countP_eq_zero.mpr fun p hp => ?_).symm
    rw [List.eq_of_mem_replicate hp]
    decide
  closedLast := (Generation.sound_fresh number view registration).closedLast

theorem Tallied.step (h : s.Tallied) (hs : s.Step s') : s'.Tallied := by
  cases hs with
  | @move g g' p p' before after hm =>
    have hu : g.usage = (before ++ p :: after).countP Point.counted := h.usage
    rw [List.countP_append, List.countP_cons] at hu
    have hmove := hm.usage fun hp => by
      rw [hu, if_pos hp]
      omega
    refine ⟨?_, hm.closedLast h.closedLast⟩
    rw [List.countP_append, List.countP_cons]
    dsimp only
    omega

/-- However many parties there are and whatever order their steps come in, the view is closed once
if the generation is released, and not otherwise. -/
theorem closed_once {number : Nat} {view : View} {registration : Option Nat} {parties : Nat}
    (h : ReflTransGen Step (start number view registration parties) s) :
    s.generation.countCalls ViewCall.isClose =
      if s.generation.lifecycle = .released then 1 else 0 := by
  have htallied : s.Tallied := by
    induction h with
    | refl => exact tallied_start number view registration parties
    | tail _ hs ih => exact ih.step hs
  exact htallied.closedLast.countCalls_close

/-! ## Released while held -/

/-- A generation is released while a party holds it: one has given back the last hold and not torn
it down yet, when another takes a hold and a third supersedes the generation. -/
theorem released_while_held :
    ∃ s, ReflTransGen Step (start 0 (View.ofIndex {}) none 3) s ∧ .holding ∈ s.parties ∧
      s.generation.lifecycle = .released ∧ .close ∈ s.generation.calls := by
  have hlast : ReflTransGen Step (start 0 (View.ofIndex {}) none 3)
      ⟨(start 0 (View.ofIndex {}) none 3).generation, [.tearing, .idle, .idle]⟩ :=
    ((steps_tryHold _ [] [.idle, .idle]).tail (.move [] [.idle, .idle] .drop)).tail
      (.move [] [.idle, .idle] (.giveBackLast rfl))
  have hmarked : ReflTransGen Step (start 0 (View.ofIndex {}) none 3)
      ⟨(start 0 (View.ofIndex {}) none 3).generation.acquire.supersede,
        [.tearing, .holding, .idle]⟩ :=
    (hlast.trans (steps_tryHold _ [.tearing] [.idle])).trans (steps_mark _ [.tearing, .holding] [])
  exact ⟨_, hmarked.tail (.move [] [.holding, .idle] .tearDown), by decide, by decide, by decide⟩

/-! ## Calm steps -/

/-- Nobody holds a released generation, or a superseded one that some party is about to tear
down. -/
def Guarded (s : Shared) : Prop :=
  s.generation.lifecycle ≠ .live →
    s.generation.lifecycle = .released ∨ .tearing ∈ s.parties → .holding ∉ s.parties

theorem mem_of_ne {before after : List Point} {p p' q : Point} (h : q ∈ before ++ p' :: after)
    (hq : q ≠ p') : q ∈ before ++ p :: after := by
  rw [List.mem_append, List.mem_cons] at h ⊢
  exact h.imp_right fun h => .inr (h.resolve_left hq)

/-- A step that leaves the stage as it is keeps the guard, unless it takes a hold or gives back the
last one. -/
theorem Guarded.move (h : s.Guarded) (hl : s'.generation.lifecycle = s.generation.lifecycle)
    {before after : List Point} {p p' : Point} (hs : s.parties = before ++ p :: after)
    (hs' : s'.parties = before ++ p' :: after) (ht : .tearing ≠ p') (hh : .holding ≠ p') :
    s'.Guarded := by
  intro hne hr hm
  rw [hs'] at hr hm
  rw [hl] at hne hr
  refine h hne (hr.imp_right fun hr => ?_) ?_ <;> rw [hs]
  · exact mem_of_ne hr ht
  · exact mem_of_ne hm hh

theorem Guarded.step (h : s.Guarded) (ht : s.Tallied) (hs : s.Calm s') : s'.Guarded := by
  obtain ⟨hs, hcalm⟩ := hs
  cases hs with
  | @move g g' p p' before after hm =>
    cases hm with
    | enter | mark | refuse | drop | giveBack => exact h.move rfl rfl rfl (by decide) (by decide)
    | take hd =>
      have hlive : g.lifecycle = .live := Decidable.not_not.mp (of_decide_eq_false hd)
      exact fun hne => absurd hlive hne
    | supersede =>
      by_cases hl : g.lifecycle = .live
      · intro hne hr
        have hsup : g.supersede.lifecycle = .superseded := by
          rw [Generation.lifecycle_supersede, if_pos hl]
        rcases hr with hr | hr
        · exact absurd (hsup.symm.trans hr) (by decide)
        · exact absurd (mem_of_ne hr (by decide)) (hcalm hl hne)
      · have hsame : g.supersede = g := by rw [Generation.supersede, if_neg hl]
        exact h.move (congrArg _ hsame) rfl rfl (by decide) (by decide)
    | giveBackLast hu =>
      -- the last hold was that of this party, so no other is left
      intro _ _ hm
      have hcount : (before ++ Point.releasing :: after).countP Point.counted = 1 :=
        ht.usage.symm.trans hu
      have hnone : (before ++ Point.tearing :: after).countP Point.counted = 0 := by
        rw [List.countP_append, List.countP_cons_of_pos rfl] at hcount
        rw [List.countP_append, List.countP_cons_of_neg (by decide)]
        omega
      exact absurd rfl (List.countP_eq_zero.mp hnone .holding hm)
    | tearDown =>
      by_cases hl : g.lifecycle = .superseded
      · intro _ _ hm
        have hne : g.lifecycle ≠ .live := by
          rw [hl]
          decide
        exact h hne (.inr (by simp)) (mem_of_ne hm (by decide))
      · have hsame : g.tearDown = g := Generation.tearDown_of_ne hl
        exact h.move (congrArg _ hsame) rfl rfl (by decide) (by decide)

/-- However many parties there are and whatever order their steps come in: unless the generation is
superseded while some party is about to tear it down, it is not released, and its view not closed,
as long as a party holds it. -/
theorem unreleased_while_held {number : Nat} {view : View} {registration : Option Nat}
    {parties : Nat} (h : ReflTransGen Calm (start number view registration parties) s)
    (hheld : .holding ∈ s.parties) :
    s.generation.lifecycle ≠ .released ∧ .close ∉ s.generation.calls := by
  have hboth : s.Tallied ∧ s.Guarded := by
    clear hheld
    induction h with
    | refl => exact ⟨tallied_start number view registration parties, fun hne => absurd rfl hne⟩
    | tail _ hs ih => exact ⟨ih.1.step hs.1, ih.2.step ih.1 hs⟩
  have hlast := hboth.1.closedLast
  have hne : s.generation.lifecycle ≠ .released := fun hr =>
    hboth.2 (by rw [hr]; decide) (.inl hr) hheld
  rw [Generation.ClosedLast, if_neg hne] at hlast
  exact ⟨hne, hlast⟩

/-- One party keeps its hold while another supersedes the generation. -/
theorem superseded_while_held :
    let g : Generation := (start 0 (View.ofIndex {}) none 2).generation.acquire.supersede
    ReflTransGen Calm (start 0 (View.ofIndex {}) none 2) ⟨g, [.holding, .idle]⟩ ∧
      Point.holding ∈ [Point.holding, .idle] ∧ g.lifecycle ≠ .released ∧ .close ∉ g.calls := by
  intro g
  have hheld : ReflTransGen Calm (start 0 (View.ofIndex {}) none 2)
      ⟨(start 0 (View.ofIndex {}) none 2).generation.acquire, [.holding, .idle]⟩ :=
    (ReflTransGen.single ⟨.move [] [.idle] .enter, fun hl hne => absurd hl hne⟩).tail
      ⟨.move [] [.idle] (.take rfl), fun hl hne => absurd hl hne⟩
  have hcalm : ReflTransGen Calm (start 0 (View.ofIndex {}) none 2) ⟨g, [.holding, .idle]⟩ :=
    ((hheld.tail ⟨.move [.holding] [] .mark, fun hl hne => absurd hl hne⟩).tail
      ⟨.move [.holding] [] .supersede, fun _ _ => by decide⟩).tail
        ⟨.move [.holding] [] (.giveBack (by decide)), fun hl hne => absurd hl hne⟩
  exact ⟨hcalm, by decide, unreleased_while_held hcalm (by decide)⟩

end Shared

end FacetedSearch
