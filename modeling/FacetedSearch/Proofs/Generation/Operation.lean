import FacetedSearch.Generation.Pool

/-!
# FacetedSearch.Proofs.Generation.Operation — what each operation does to a generation

Every operation is told by what it does to the usage, the stage and the registration
(`usage_release`, `lifecycle_release`, …).  `Sound` says what holds of a generation at any time:
a superseded one is held, the view is closed by the last call on it and only on release, and the
signal is given and the registration given up exactly then.  Every operation keeps it.
-/

namespace FacetedSearch

namespace Generation

variable {g : Generation}

/-! ## Tearing down and giving back -/

theorem tearDown_of_ne (h : g.lifecycle ≠ .superseded) : g.tearDown = g := by
  rw [tearDown, if_neg h]

/-- A release only counts down, unless it is the last one on a superseded generation. -/
theorem release_eq_decrement (h : ¬ (g.usage = 1 ∧ g.lifecycle = .superseded)) :
    g.release = g.decrement := by
  rw [release]
  by_cases hu : g.usage = 1
  · rw [if_pos hu]
    exact tearDown_of_ne fun hs => h ⟨hu, hs⟩
  · rw [if_neg hu]

theorem release_eq_tearDown (hu : g.usage = 1) : g.release = g.decrement.tearDown := by
  rw [release, if_pos hu]

theorem number_tearDown : g.tearDown.number = g.number := by
  rw [tearDown]; split <;> rfl

theorem usage_tearDown : g.tearDown.usage = g.usage := by
  rw [tearDown]; split <;> rfl

theorem lifecycle_tearDown :
    g.tearDown.lifecycle = if g.lifecycle = .superseded then .released else g.lifecycle := by
  rw [tearDown]; split <;> simp_all

theorem number_release : g.release.number = g.number := by
  rw [release]; split
  · exact number_tearDown
  · rfl

theorem usage_release : g.release.usage = g.usage - 1 := by
  rw [release]; split
  · exact usage_tearDown
  · rfl

theorem lifecycle_release : g.release.lifecycle =
    if g.usage = 1 ∧ g.lifecycle = .superseded then .released else g.lifecycle := by
  by_cases h : g.usage = 1 ∧ g.lifecycle = .superseded
  · have hd : g.decrement.lifecycle = .superseded := h.2
    rw [if_pos h, release_eq_tearDown h.1, lifecycle_tearDown, if_pos hd]
  · rw [if_neg h, release_eq_decrement h]; rfl

theorem number_tryHold : g.tryHold.2.number = g.number := by
  rw [tryHold]
  split
  · exact number_release
  · rfl

/-- A registration is given up only on release. -/
theorem registration_release (h : g.release.lifecycle ≠ .released) :
    g.release.registration = g.registration := by
  rw [lifecycle_release] at h
  have hc : ¬ (g.usage = 1 ∧ g.lifecycle = .superseded) := fun hc => h (if_pos hc)
  rw [release_eq_decrement hc]; rfl

/-- Nobody stops waiting for the teardown. -/
theorem isSome_signal_release : g.release.signal.isSome = g.signal.isSome := by
  by_cases hc : g.usage = 1 ∧ g.lifecycle = .superseded
  · have hd : g.decrement.lifecycle = .superseded := hc.2
    rw [release_eq_tearDown hc.1, tearDown, if_pos hd]
    exact Option.isSome_map
  · rw [release_eq_decrement hc]; rfl

/-! ## Asking for the teardown -/

theorem lifecycle_supersede :
    g.supersede.lifecycle = if g.lifecycle = .live then .superseded else g.lifecycle := by
  rw [supersede]; split <;> rfl

theorem usage_supersede : g.supersede.usage = g.usage := by
  rw [supersede]; split <;> rfl

theorem number_supersede : g.supersede.number = g.number := by
  rw [supersede]; split <;> rfl

/-- Make sure that there is a signal, for one who waits. -/
def offerSignal (g : Generation) (wait : Bool) : Generation :=
  if wait then { g with signal := some (g.signal.getD false) } else g

/-- Give the signal of a released generation, to one who waits. -/
def giveSignal (g : Generation) (wait : Bool) : Generation :=
  if wait && decide (g.lifecycle = .released) then { g with signal := some true } else g

/-- Supersede under a hold of one's own: the first and the last step of asking for the teardown
are about the signal only. -/
theorem markForDisposal_eq (g : Generation) (wait : Bool) :
    g.markForDisposal wait =
      ((g.offerSignal wait).acquire.supersede.release).giveSignal wait := rfl

theorem offerSignal_fields (g : Generation) (wait : Bool) :
    (g.offerSignal wait).number = g.number ∧ (g.offerSignal wait).usage = g.usage ∧
      (g.offerSignal wait).lifecycle = g.lifecycle ∧
      (g.offerSignal wait).registration = g.registration ∧
      (g.offerSignal wait).calls = g.calls := by
  rw [offerSignal]; split <;> exact ⟨rfl, rfl, rfl, rfl, rfl⟩

theorem giveSignal_fields (g : Generation) (wait : Bool) :
    (g.giveSignal wait).number = g.number ∧ (g.giveSignal wait).usage = g.usage ∧
      (g.giveSignal wait).lifecycle = g.lifecycle ∧
      (g.giveSignal wait).registration = g.registration ∧
      (g.giveSignal wait).calls = g.calls := by
  rw [giveSignal]; split <;> exact ⟨rfl, rfl, rfl, rfl, rfl⟩

theorem number_markForDisposal (wait : Bool) : (g.markForDisposal wait).number = g.number := by
  rw [markForDisposal_eq, (giveSignal_fields _ _).1, number_release, number_supersede]
  exact (offerSignal_fields g wait).1

theorem usage_markForDisposal (wait : Bool) : (g.markForDisposal wait).usage = g.usage := by
  rw [markForDisposal_eq, (giveSignal_fields _ _).2.1, usage_release, usage_supersede]
  exact (offerSignal_fields g wait).2.1

/-- Asking for the teardown of a generation that nobody holds tears it down. -/
theorem lifecycle_markForDisposal (wait : Bool) : (g.markForDisposal wait).lifecycle =
    if g.usage = 0 then .released else if g.lifecycle = .live then .superseded else g.lifecycle := by
  have hu : (g.offerSignal wait).acquire.usage = g.usage + 1 :=
    congrArg (· + 1) (offerSignal_fields g wait).2.1
  have hl : (g.offerSignal wait).acquire.lifecycle = g.lifecycle :=
    (offerSignal_fields g wait).2.2.1
  rw [markForDisposal_eq, (giveSignal_fields _ _).2.2.1, lifecycle_release, usage_supersede,
    lifecycle_supersede, hu, hl]
  by_cases h0 : g.usage = 0
  · cases hs : g.lifecycle <;> simp [h0]
  · cases hs : g.lifecycle <;> simp [h0]

theorem registration_markForDisposal {wait : Bool}
    (h : (g.markForDisposal wait).lifecycle ≠ .released) :
    (g.markForDisposal wait).registration = g.registration := by
  rw [markForDisposal_eq, (giveSignal_fields _ _).2.2.1] at h
  rw [markForDisposal_eq, (giveSignal_fields _ _).2.2.2.1, registration_release h, supersede]
  split <;> exact (offerSignal_fields g wait).2.2.2.1

theorem isSome_signal_markForDisposal (wait : Bool) :
    (g.markForDisposal wait).signal.isSome = (g.signal.isSome || wait) := by
  have hr : (g.offerSignal wait).acquire.supersede.release.signal.isSome =
      (g.signal.isSome || wait) := by
    rw [isSome_signal_release, supersede]
    cases wait <;> split <;> simp [offerSignal, acquire]
  rw [markForDisposal_eq, giveSignal]
  split <;> rename_i hw
  · simp only [Bool.and_eq_true] at hw
    simp [hw.1]
  · exact hr

/-! ## What holds of a generation at any time -/

/-- The view has not been closed before the release, and nothing has been asked of it since. -/
def ClosedLast (g : Generation) : Prop :=
  if g.lifecycle = .released then ∃ earlier, g.calls = .close :: earlier ∧ .close ∉ earlier
  else .close ∉ g.calls

/-- What holds of a generation whatever has been done to it. -/
structure Sound (g : Generation) : Prop where
  held_of_superseded : g.lifecycle = .superseded → 0 < g.usage
  closedLast : g.ClosedLast
  signal_iff : ∀ b, g.signal = some b → (b = true ↔ g.lifecycle = .released)
  unregistered : g.lifecycle = .released → g.registration = none

theorem sound_fresh (number : Nat) (view : View) (registration : Option Nat) :
    Sound { number, view, registration } where
  held_of_superseded h := by cases h
  closedLast := by simp [ClosedLast]
  signal_iff b h := by cases h
  unregistered h := by cases h

/-- The view has been closed once if the generation is released, else never. -/
theorem ClosedLast.countCalls_close (h : g.ClosedLast) :
    g.countCalls ViewCall.isClose = if g.lifecycle = .released then 1 else 0 := by
  have none_of (calls : List ViewCall) (hc : .close ∉ calls) : calls.countP ViewCall.isClose = 0 := by
    refine List.countP_eq_zero.mpr fun c hm => ?_
    cases c with
    | close => exact absurd hm hc
    | _ => simp [ViewCall.isClose]
  rw [ClosedLast] at h
  rw [countCalls]
  split <;> rename_i hs
  · rw [if_pos hs] at h
    obtain ⟨earlier, he, hc⟩ := h
    rw [he, List.countP_cons, none_of earlier hc]; rfl
  · rw [if_neg hs] at h
    exact none_of _ h

theorem Sound.countCalls_close (h : g.Sound) :
    g.countCalls ViewCall.isClose = if g.lifecycle = .released then 1 else 0 :=
  h.closedLast.countCalls_close

/-- Nothing is asked of a view after it has been closed. -/
theorem Sound.eq_nil_of_calls (h : g.Sound) (later earlier : List ViewCall)
    (hc : g.calls = later ++ .close :: earlier) : later = [] := by
  have hlast := h.closedLast
  rw [ClosedLast] at hlast
  split at hlast
  · obtain ⟨before, hb, hn⟩ := hlast
    rw [hb] at hc
    cases later with
    | nil => rfl
    | cons c rest =>
      obtain ⟨-, hrest⟩ := List.cons.inj hc
      exact absurd (by rw [hrest]; simp) hn
  · exact absurd (by rw [hc]; simp) hlast

theorem Sound.withView (h : g.Sound) (view : View) : ({ g with view } : Generation).Sound :=
  ⟨h.held_of_superseded, h.closedLast, h.signal_iff, h.unregistered⟩

theorem Sound.acquire (h : g.Sound) : g.acquire.Sound where
  held_of_superseded _ := Nat.succ_pos _
  closedLast := h.closedLast
  signal_iff := h.signal_iff
  unregistered := h.unregistered

theorem Sound.clearCaches (h : g.Sound) : g.clearCaches.Sound :=
  ⟨h.held_of_superseded, h.closedLast, h.signal_iff, h.unregistered⟩

/-- Here the invariant that a superseded generation is held is not needed: the one who tears it
down has just given back the last hold. -/
theorem sound_tearDown (hs : g.lifecycle = .superseded) (hc : g.ClosedLast) : g.tearDown.Sound := by
  rw [ClosedLast, if_neg (by simp [hs])] at hc
  have hl : g.tearDown.lifecycle = .released := by rw [lifecycle_tearDown, if_pos hs]
  refine ⟨fun h => ?_, ?_, fun b hb => ?_, fun _ => ?_⟩
  · rw [hl] at h; cases h
  · rw [ClosedLast, if_pos hl]
    exact ⟨g.calls, by rw [tearDown, if_pos hs], hc⟩
  · rw [tearDown, if_pos hs] at hb
    obtain ⟨_, -, rfl⟩ := Option.map_eq_some_iff.mp hb
    simp [hl]
  · rw [tearDown, if_pos hs]

theorem ClosedLast.tearDown (h : g.ClosedLast) : g.tearDown.ClosedLast := by
  by_cases hs : g.lifecycle = .superseded
  · exact (sound_tearDown hs h).closedLast
  · rw [tearDown_of_ne hs]
    exact h

theorem ClosedLast.supersede (h : g.ClosedLast) : g.supersede.ClosedLast := by
  rw [Generation.supersede]
  split
  · rename_i hl
    rw [ClosedLast, if_neg (by simp [hl])] at h
    rw [ClosedLast, if_neg (by simp)]
    exact h
  · exact h

theorem Sound.release (h : g.Sound) : g.release.Sound := by
  by_cases hc : g.usage = 1 ∧ g.lifecycle = .superseded
  · rw [release_eq_tearDown hc.1]
    exact sound_tearDown hc.2 h.closedLast
  · rw [release_eq_decrement hc]
    refine ⟨fun hs => ?_, h.closedLast, h.signal_iff, h.unregistered⟩
    have hs : g.lifecycle = .superseded := hs
    have hpos := h.held_of_superseded hs
    have hne : g.usage ≠ 1 := fun hu => hc ⟨hu, hs⟩
    show 0 < g.usage - 1
    omega

/-- A generation that is still handed out is held by one more; any other is left as it was. -/
theorem Sound.tryHold_eq (h : g.Sound) :
    g.tryHold = if g.lifecycle = .live then (true, g.acquire) else (false, g) := by
  have hl : g.acquire.lifecycle = g.lifecycle := rfl
  by_cases hs : g.lifecycle = .live
  · simp [tryHold, disposalRequested, hl, hs]
  · -- the refused hold is given back, and was not the last one
    have hback : g.acquire.release = g := by
      rw [release_eq_decrement]
      · rfl
      · rintro ⟨hu, hp⟩
        have hpos := h.held_of_superseded hp
        have hu : g.usage + 1 = 1 := hu
        omega
    simp [tryHold, disposalRequested, hl, hs, hback]

theorem Sound.tryHold (h : g.Sound) : g.tryHold.2.Sound := by
  rw [h.tryHold_eq]
  split
  · exact h.acquire
  · exact h

/-- Whoever supersedes a generation has to hold it. -/
theorem Sound.supersede (h : g.Sound) (hu : 0 < g.usage) : g.supersede.Sound := by
  rw [Generation.supersede]
  by_cases hl : g.lifecycle = .live
  · have hc := h.closedLast.supersede
    rw [Generation.supersede, if_pos hl] at hc
    rw [if_pos hl]
    refine ⟨fun _ => hu, hc, fun b hb => ?_, fun h => by cases h⟩
    have hb := h.signal_iff b hb
    simp only [hl, reduceCtorEq, iff_false] at hb ⊢
    exact hb
  · rw [if_neg hl]
    exact h

/-- The signal that is made for one who waits has not been given yet, so the generation may not
be released already. -/
theorem Sound.offerSignal (h : g.Sound) (hr : g.lifecycle ≠ .released) (wait : Bool) :
    (g.offerSignal wait).Sound := by
  rw [Generation.offerSignal]
  split
  · refine ⟨h.held_of_superseded, h.closedLast, fun b hb => ?_, h.unregistered⟩
    cases hs : g.signal with
    | none =>
      rw [hs] at hb
      cases hb
      simp [hr]
    | some c =>
      rw [hs] at hb
      cases hb
      exact h.signal_iff _ hs
  · exact h

/-- The signal of a released generation that nobody waited for is given at once. -/
theorem Sound.markForDisposal (h : g.Sound) (wait : Bool) : (g.markForDisposal wait).Sound := by
  rw [markForDisposal_eq]
  by_cases hr : g.lifecycle = .released
  · -- nothing but the signal changes
    have hstay : (g.offerSignal wait).acquire.supersede.release = g.offerSignal wait := by
      have hl : (g.offerSignal wait).acquire.lifecycle = .released :=
        (offerSignal_fields g wait).2.2.1.trans hr
      rw [Generation.supersede, if_neg (by simp [hl]), release_eq_decrement (by simp [hl])]
      rfl
    rw [hstay]
    cases wait with
    | false => exact h
    | true =>
      have hs : (g.offerSignal true).lifecycle = .released := hr
      rw [giveSignal, if_pos (by simp [hs])]
      refine ⟨h.held_of_superseded, h.closedLast, fun b hb => ?_, h.unregistered⟩
      cases hb
      simp [hs]
  · have hm : (g.offerSignal wait).acquire.supersede.release.Sound :=
      ((h.offerSignal hr wait).acquire.supersede (Nat.succ_pos _)).release
    rw [giveSignal]
    split <;> rename_i hw
    · simp only [Bool.and_eq_true, decide_eq_true_eq] at hw
      refine ⟨hm.held_of_superseded, hm.closedLast, fun b hb => ?_, hm.unregistered⟩
      cases hb
      simp [hw.2]
    · exact hm

end Generation

end FacetedSearch
