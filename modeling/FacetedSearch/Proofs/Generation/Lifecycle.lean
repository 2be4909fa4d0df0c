import FacetedSearch.Proofs.Generation.Pool
import Mathlib.Data.List.Induction

/-!
# FacetedSearch.Proofs.Generation.Lifecycle — one generation under any acts in any order

`Ledger` follows a list of acts by counting alone: how many holds they leave, whether one of them
asked for the teardown, and whether no hold was left at that time or later.  `Follows` ties a
generation to the ledger of the acts done to it; each act keeps the tie (`Follows.act`), so every
list of acts does (`follows_after`).  The main result is `lifecycle_after`: usage, stage, closing,
registration and signal of a generation after any list of acts.
-/

namespace FacetedSearch

/-- What is done to one generation. -/
inductive Act
  /-- Count a hold. -/
  | acquire
  /-- Give back a hold, by dropping a handle or without one. -/
  | release
  /-- Try to get a handle. -/
  | tryHold
  /-- Ask for the teardown, and for a signal if one waits for it. -/
  | mark (wait : Bool)
  /-- Tell the generation that memory is low. -/
  | clear
  /-- Tell everyone who is registered that memory is low. -/
  | broadcast
deriving DecidableEq

/-- One act on the generation of a number. -/
def Pool.act (number : Nat) (p : Pool) : Act → Pool
  | .acquire => p.update number Generation.acquire
  | .release => p.release number
  | .tryHold => (p.tryHold number).2
  | .mark wait => p.markForDisposal number wait
  | .clear => p.update number Generation.clearCaches
  | .broadcast => p.lowMemory.2

/-- The pool of one new generation, registered with a notifier or not, after some acts on it. -/
def Pool.after (notifier : Notifier Nat) (number : Nat) (view : View) (register : Bool)
    (acts : List Act) : Pool :=
  acts.foldl (Pool.act number) (Pool.openGeneration { notifier } number view register)

/-- How far a stage is from the first. -/
def Lifecycle.rank : Lifecycle → Nat
  | .live => 0
  | .superseded => 1
  | .released => 2

/-- What a list of acts comes to. -/
structure Ledger where
  /-- The holds that are out: one more for each that was counted or got, one less for each that
  was given back, and never below zero. -/
  holds : Nat := 0
  /-- Whether the teardown has been asked for. -/
  requested : Bool := false
  /-- Whether no hold was out when the teardown was asked for, or after some act since. -/
  drained : Bool := false

namespace Ledger

/-- Count one act. -/
def count (l : Ledger) : Act → Ledger
  | .acquire => { l with holds := l.holds + 1 }
  | .release => { l with holds := l.holds - 1 }
  | .tryHold => if l.requested then l else { l with holds := l.holds + 1 }
  | .mark _ => { l with requested := true }
  | .clear | .broadcast => l

/-- Count one act, and note whether no hold is out after it. -/
def enter (l : Ledger) (a : Act) : Ledger :=
  { l.count a with
    drained := l.drained || ((l.count a).requested && decide ((l.count a).holds = 0)) }

/-- What a list of acts comes to. -/
def ofActs (acts : List Act) : Ledger := acts.foldl enter {}

/-- The stage of a generation with this ledger. -/
def stage (l : Ledger) : Lifecycle :=
  if l.drained then .released else if l.requested then .superseded else .live

@[simp] theorem ofActs_nil : ofActs [] = {} := rfl

theorem ofActs_concat (acts : List Act) (a : Act) :
    ofActs (acts ++ [a]) = (ofActs acts).enter a := by
  simp [ofActs]

theorem requested_ofActs (acts : List Act) :
    (ofActs acts).requested = true ↔ ∃ wait, Act.mark wait ∈ acts := by
  induction acts using List.reverseRecOn with
  | nil => simp
  | append_singleton acts a ih =>
    rw [ofActs_concat]
    simp only [enter, List.mem_append, List.mem_singleton, exists_or, ← ih]
    cases a with
    | mark wait => simp [count]
    | tryHold =>
      rw [count]
      split <;> simp
    | _ => simp [count]

/-- A drained ledger has been drained after some first part of its acts. -/
theorem drained_ofActs (acts : List Act) :
    (ofActs acts).drained = true ↔
      ∃ done, done <+: acts ∧ (∃ wait, Act.mark wait ∈ done) ∧ (ofActs done).holds = 0 := by
  induction acts using List.reverseRecOn with
  | nil => simp
  | append_singleton acts a ih =>
    have hq := requested_ofActs (acts ++ [a])
    rw [ofActs_concat] at hq ⊢
    simp only [enter, Bool.or_eq_true, Bool.and_eq_true, decide_eq_true_eq, ih] at hq ⊢
    constructor
    · rintro (⟨done, hp, hd⟩ | ⟨hr, h0⟩)
      · exact ⟨done, hp.trans (List.prefix_append _ _), hd⟩
      · exact ⟨acts ++ [a], List.prefix_rfl, hq.mp hr, by rw [ofActs_concat]; exact h0⟩
    · rintro ⟨done, hp, hm, h0⟩
      rcases List.prefix_concat_iff.mp hp with rfl | hp
      · right
        rw [ofActs_concat] at h0
        exact ⟨hq.mpr hm, h0⟩
      · exact .inl ⟨done, hp, hm, h0⟩

theorem requested_of_drained {acts : List Act} (h : (ofActs acts).drained = true) :
    (ofActs acts).requested = true := by
  obtain ⟨done, hp, ⟨wait, hm⟩, -⟩ := (drained_ofActs acts).mp h
  exact (requested_ofActs acts).mpr ⟨wait, hp.subset hm⟩

theorem requested_mono {acts later : List Act} (hp : acts <+: later)
    (h : (ofActs acts).requested = true) : (ofActs later).requested = true := by
  obtain ⟨wait, hm⟩ := (requested_ofActs acts).mp h
  exact (requested_ofActs later).mpr ⟨wait, hp.subset hm⟩

theorem drained_mono {acts later : List Act} (hp : acts <+: later)
    (h : (ofActs acts).drained = true) : (ofActs later).drained = true := by
  obtain ⟨done, hd, hrest⟩ := (drained_ofActs acts).mp h
  exact (drained_ofActs later).mpr ⟨done, hd.trans hp, hrest⟩

theorem stage_eq_released_iff (l : Ledger) : l.stage = .released ↔ l.drained = true := by
  rw [stage]
  split
  · simp [*]
  · split <;> simp [*]

theorem stage_eq_live_iff (acts : List Act) :
    (ofActs acts).stage = .live ↔ (ofActs acts).requested = false := by
  rw [stage]
  split
  · rename_i hd
    simp [requested_of_drained hd]
  · split <;> simp [*]

/-- More acts never lead back to an earlier stage. -/
theorem rank_stage_le {acts later : List Act} (hp : acts <+: later) :
    (ofActs acts).stage.rank ≤ (ofActs later).stage.rank := by
  rw [stage]
  split
  · rename_i hd
    have hs := (stage_eq_released_iff _).mpr (drained_mono hp hd)
    exact Nat.le_of_eq (congrArg Lifecycle.rank hs.symm)
  · split
    · rename_i hr
      have hs : (ofActs later).stage ≠ .live := by
        rw [Ne, stage_eq_live_iff, requested_mono hp hr]
        simp
      cases hl : (ofActs later).stage with
      | live => exact absurd hl hs
      | superseded => decide
      | released => decide
    · exact Nat.zero_le _

end Ledger

/-! ## A generation follows the ledger of its acts -/

/-- The pool has a generation of this number that is as the acts done to it tell, and lists it
under its registration until it is released. -/
structure Follows (number : Nat) (registration : Option Nat) (acts : List Act) (p : Pool)
    (g : Generation) : Prop where
  keyed : p.Keyed
  found : p.get? number = some g
  sound : g.Sound
  usage : g.usage = (Ledger.ofActs acts).holds
  lifecycle : g.lifecycle = (Ledger.ofActs acts).stage
  registration_eq : g.lifecycle ≠ .released → g.registration = registration
  listed : ∀ id, registration = some id →
    p.notifier.handlers.get? id = if g.lifecycle = .released then none else some number
  signal : Act.mark true ∈ acts → g.signal.isSome

namespace Follows

variable {number : Nat} {registration : Option Nat} {acts : List Act} {p : Pool} {g : Generation}

theorem fresh (notifier : Notifier Nat) (number : Nat) (view : View) (register : Bool) :
    ∃ g, Follows number (if register then some notifier.next else none) []
      (Pool.openGeneration { notifier } number view register) g := by
  have hget := Pool.get?_openGeneration { notifier } number view register
  refine ⟨_, ⟨fun k g hg => ?_, (hget number).trans (if_pos rfl), Generation.sound_fresh _ _ _,
    rfl, rfl, fun _ => rfl, fun id hid => ?_, by simp⟩⟩
  · rw [hget] at hg
    split at hg
    · rename_i hk
      cases hg
      exact hk.symm
    · cases hg
  · cases register with
    | false => cases hid
    | true =>
      cases hid
      exact (SortedMap.get?_insert).trans (if_pos rfl)

/-- An operation that leaves the generation as the longer list of acts tells keeps the tie. -/
theorem update (h : Follows number registration acts p g) (a : Act)
    {f : Generation → Generation} (hn : ∀ g, (f g).number = g.number) (hs : (f g).Sound)
    (hu : (f g).usage = (Ledger.ofActs (acts ++ [a])).holds)
    (hl : (f g).lifecycle = (Ledger.ofActs (acts ++ [a])).stage)
    (hr : (f g).lifecycle ≠ .released → g.lifecycle ≠ .released ∧ (f g).registration = g.registration)
    (hg : g.signal.isSome ∨ a = .mark true → (f g).signal.isSome) :
    Follows number registration (acts ++ [a]) (p.update number f) (f g) where
  keyed := h.keyed.update hn
  found := by rw [h.keyed.get?_update hn, if_pos rfl, h.found]; rfl
  sound := hs
  usage := hu
  lifecycle := hl
  registration_eq hne := (hr hne).2.trans (h.registration_eq (hr hne).1)
  listed id hid := by
    rw [Pool.notifier_update h.found]
    have hlist := h.listed id hid
    by_cases hne : (f g).lifecycle = .released
    · rw [if_pos hne, hs.unregistered hne]
      by_cases hg : g.lifecycle = .released
      · rw [h.sound.unregistered hg]
        rw [if_pos hg] at hlist
        exact hlist
      · rw [h.registration_eq hg, hid]
        exact SortedMap.get?_erase.trans (if_pos rfl)
    · obtain ⟨hg, he⟩ := hr hne
      rw [if_neg hne, he, h.registration_eq hg, hid]
      rw [if_neg hg] at hlist
      exact hlist
  signal hm := by
    rcases List.mem_append.mp hm with hm | hm
    · exact hg (.inl (h.signal hm))
    · exact hg (.inr (List.mem_singleton.mp hm).symm)

/-- A superseded generation is held, so a ledger without holds has been drained before. -/
theorem drained_of_idle (h : Follows number registration acts p g)
    (hr : (Ledger.ofActs acts).requested = true) (h0 : (Ledger.ofActs acts).holds = 0) :
    (Ledger.ofActs acts).drained = true := by
  by_contra hd
  have hl : g.lifecycle = .superseded := by rw [h.lifecycle, Ledger.stage, if_neg hd, if_pos hr]
  have hpos := h.sound.held_of_superseded hl
  rw [h.usage, h0] at hpos
  exact Nat.lt_irrefl 0 hpos

/-- An act that counts nothing changes nothing in the ledger. -/
theorem ofActs_concat_of_count (h : Follows number registration acts p g) {a : Act}
    (hc : (Ledger.ofActs acts).count a = Ledger.ofActs acts) :
    Ledger.ofActs (acts ++ [a]) = Ledger.ofActs acts := by
  rw [Ledger.ofActs_concat, Ledger.enter, hc]
  have hd := h.drained_of_idle
  cases hs : Ledger.ofActs acts with
  | mk holds requested drained =>
    rw [hs] at hd
    simp only [Ledger.mk.injEq, Bool.or_eq_left_iff_imp, Bool.and_eq_true, decide_eq_true_eq,
      true_and]
    exact fun ⟨hr, h0⟩ => hd hr h0

theorem acquire (h : Follows number registration acts p g) :
    Follows number registration (acts ++ [.acquire]) (p.act number .acquire) g.acquire := by
  refine h.update .acquire (fun _ => rfl) h.sound.acquire ?_ ?_ (fun hne => ⟨hne, rfl⟩) ?_
  · rw [Ledger.ofActs_concat]
    exact congrArg (· + 1) h.usage
  · rw [Ledger.ofActs_concat]
    refine h.lifecycle.trans ?_
    simp [Ledger.stage, Ledger.enter, Ledger.count]
  · rintro (hs | hs)
    · exact hs
    · cases hs

theorem release (h : Follows number registration acts p g) :
    Follows number registration (acts ++ [.release]) (p.act number .release) g.release := by
  have hu := h.usage
  have hl := h.lifecycle
  have hpos := h.sound.held_of_superseded
  refine h.update .release (fun _ => Generation.number_release) h.sound.release ?_ ?_ ?_ ?_
  · rw [Generation.usage_release, hu, Ledger.ofActs_concat]; rfl
  · -- the last hold drains a ledger on which the teardown has been asked for
    rw [Generation.lifecycle_release, Ledger.ofActs_concat]
    rw [hl, hu] at hpos ⊢
    cases hd : (Ledger.ofActs acts).drained <;> cases hr : (Ledger.ofActs acts).requested <;>
      simp [Ledger.stage, Ledger.enter, Ledger.count, hd, hr] at hpos ⊢
    by_cases h1 : (Ledger.ofActs acts).holds = 1
    · simp [h1]
    · have h2 : ¬ (Ledger.ofActs acts).holds - 1 = 0 := by omega
      simp [h1, h2]
  · intro hne
    refine ⟨fun hg => hne ?_, Generation.registration_release hne⟩
    rw [Generation.lifecycle_release, hg]
    simp
  · rw [Generation.isSome_signal_release]
    rintro (hs | hs)
    · exact hs
    · cases hs

theorem mark (h : Follows number registration acts p g) (wait : Bool) :
    Follows number registration (acts ++ [.mark wait]) (p.act number (.mark wait))
      (g.markForDisposal wait) := by
  have hu := h.usage
  have hl := h.lifecycle
  refine h.update (.mark wait) (fun _ => Generation.number_markForDisposal wait)
    (h.sound.markForDisposal wait) ?_ ?_ ?_ ?_
  · rw [Generation.usage_markForDisposal, hu, Ledger.ofActs_concat]; rfl
  · rw [Generation.lifecycle_markForDisposal, Ledger.ofActs_concat, hl, hu]
    cases hd : (Ledger.ofActs acts).drained <;> cases hr : (Ledger.ofActs acts).requested <;>
      by_cases h0 : (Ledger.ofActs acts).holds = 0 <;>
      simp [Ledger.stage, Ledger.enter, Ledger.count, hd, hr, h0]
  · intro hne
    refine ⟨fun hg => hne ?_, Generation.registration_markForDisposal hne⟩
    rw [Generation.lifecycle_markForDisposal, hg]
    simp
  · rw [Generation.isSome_signal_markForDisposal]
    rintro (hs | hs)
    · simp [hs]
    · cases hs
      simp

/-- An act that counts nothing, and changes the generation in its caches at most, keeps the tie. -/
theorem quiet (h : Follows number registration acts p g) {a : Act} {p' : Pool} {g' : Generation}
    (hc : (Ledger.ofActs acts).count a = Ledger.ofActs acts) (ha : a ≠ .mark true)
    (hk : p'.Keyed) (hf : p'.get? number = some g') (hn : p'.notifier = p.notifier)
    (hg : g' = g ∨ g' = g.clearCaches) : Follows number registration (acts ++ [a]) p' g' := by
  have hsignal : Act.mark true ∈ acts ++ [a] → g.signal.isSome := by
    intro hm
    rcases List.mem_append.mp hm with hm | hm
    · exact h.signal hm
    · exact absurd (List.mem_singleton.mp hm).symm ha
  have hu := h.usage
  have hl := h.lifecycle
  rw [← h.ofActs_concat_of_count hc] at hu hl
  have hlist := h.listed
  rw [← hn] at hlist
  rcases hg with rfl | rfl
  · exact ⟨hk, hf, h.sound, hu, hl, h.registration_eq, hlist, hsignal⟩
  · exact ⟨hk, hf, h.sound.clearCaches, hu, hl, h.registration_eq, hlist, hsignal⟩

theorem live_iff (h : Follows number registration acts p g) :
    g.lifecycle = .live ↔ (Ledger.ofActs acts).requested = false := by
  rw [h.lifecycle, Ledger.stage_eq_live_iff]

/-- A hold is refused exactly after the teardown has been asked for, and then nothing changes. -/
theorem tryHold_eq (h : Follows number registration acts p g) :
    ((p.tryHold number).1 = true ↔ (Ledger.ofActs acts).requested = false) ∧
      ((p.tryHold number).1 = false → (p.tryHold number).2 = p) := by
  rw [← h.live_iff, Pool.fst_tryHold h.found, Pool.snd_tryHold, h.sound.tryHold_eq]
  by_cases hl : g.lifecycle = .live
  · simp [hl]
  · refine ⟨by simp [hl], fun _ => ?_⟩
    have hself : g.tryHold.2 = g := by rw [h.sound.tryHold_eq, if_neg hl]
    exact Pool.update_eq_self h.found (h.keyed number g h.found) hself

theorem tryHold (h : Follows number registration acts p g) :
    ∃ g', Follows number registration (acts ++ [.tryHold]) (p.act number .tryHold) g' := by
  by_cases hl : g.lifecycle = .live
  · have hq := h.live_iff.mp hl
    have hheld : g.tryHold.2 = g.acquire := by rw [h.sound.tryHold_eq, if_pos hl]
    refine ⟨g.tryHold.2, ?_⟩
    rw [Pool.act, Pool.snd_tryHold]
    refine h.update .tryHold (fun _ => Generation.number_tryHold) h.sound.tryHold ?_ ?_ ?_ ?_
    · rw [hheld, Ledger.ofActs_concat, Ledger.enter, Ledger.count, if_neg (by simp [hq])]
      exact congrArg (· + 1) h.usage
    · rw [hheld, Ledger.ofActs_concat]
      refine h.lifecycle.trans ?_
      simp [Ledger.stage, Ledger.enter, Ledger.count, hq]
    · rw [hheld]
      exact fun hne => ⟨hne, rfl⟩
    · rw [hheld]
      rintro (hs | hs)
      · exact hs
      · cases hs
  · have hq : (Ledger.ofActs acts).requested = true := by
      rw [← Bool.not_eq_false, ← h.live_iff]
      exact hl
    have hrefused : (p.tryHold number).1 = false := by
      rw [← Bool.not_eq_true, h.tryHold_eq.1, hq]
      simp
    have hsame : p.act number .tryHold = p := h.tryHold_eq.2 hrefused
    rw [hsame]
    exact ⟨g, h.quiet (if_pos hq) (by simp) h.keyed h.found rfl (.inl rfl)⟩

theorem act (h : Follows number registration acts p g) (a : Act) :
    ∃ g', Follows number registration (acts ++ [a]) (p.act number a) g' := by
  cases a with
  | acquire => exact ⟨_, h.acquire⟩
  | release => exact ⟨_, h.release⟩
  | tryHold => exact h.tryHold
  | mark wait => exact ⟨_, h.mark wait⟩
  | clear =>
    have hn : ∀ g : Generation, g.clearCaches.number = g.number := fun _ => rfl
    have hf : (p.act number .clear).get? number = some g.clearCaches := by
      rw [Pool.act, h.keyed.get?_update hn, if_pos rfl, h.found]; rfl
    exact ⟨_, h.quiet rfl (by simp) (h.keyed.update hn) hf (Pool.notifier_update_eq fun _ => rfl)
      (.inr rfl)⟩
  | broadcast =>
    have hf := h.keyed.get?_lowMemory number
    rw [h.found] at hf
    by_cases hm : number ∈ p.notifier.live fun _ => true
    · rw [if_pos hm] at hf
      exact ⟨_, h.quiet rfl (by simp) h.keyed.lowMemory hf (Pool.notifier_lowMemory p) (.inr rfl)⟩
    · rw [if_neg hm] at hf
      exact ⟨_, h.quiet rfl (by simp) h.keyed.lowMemory hf (Pool.notifier_lowMemory p) (.inl rfl)⟩

end Follows

theorem follows_after (notifier : Notifier Nat) (number : Nat) (view : View) (register : Bool)
    (acts : List Act) : ∃ g, Follows number (if register then some notifier.next else none) acts
      (Pool.after notifier number view register acts) g := by
  induction acts using List.reverseRecOn with
  | nil => exact Follows.fresh notifier number view register
  | append_singleton acts a ih =>
    obtain ⟨g, hg⟩ := ih
    rw [Pool.after, List.foldl_append]
    exact hg.act a

/-- A generation opened over any view, with a notifier or without, after any acts in any order.
Its usage counts the holds.  It is handed out as long as nobody asked for the teardown, and a
refused hold changes nothing.  Its stage only moves forward; it is released once no hold is out
when the teardown is asked for or after some later act, and stays so.  Its view has been closed
once then and never before, its registration lasts until then, and every signal tells just that. -/
theorem lifecycle_after (notifier : Notifier Nat) (number : Nat) (view : View) (register : Bool)
    (acts : List Act) :
    let after := Pool.after notifier number view register
    ∃ g, (after acts).get? number = some g ∧
      g.usage = (Ledger.ofActs acts).holds ∧
      (((after acts).tryHold number).1 = true ↔ ∀ wait, Act.mark wait ∉ acts) ∧
      (((after acts).tryHold number).1 = false → ((after acts).tryHold number).2 = after acts) ∧
      (∀ later, ∃ g', (after (acts ++ later)).get? number = some g' ∧
        g.lifecycle.rank ≤ g'.lifecycle.rank) ∧
      (g.lifecycle ≠ .live ↔ ∃ wait, Act.mark wait ∈ acts) ∧
      (g.lifecycle = .released ↔ ∃ done, done <+: acts ∧ (∃ wait, Act.mark wait ∈ done) ∧
        ∃ d, (after done).get? number = some d ∧ d.usage = 0) ∧
      g.countCalls ViewCall.isClose = (if g.lifecycle = .released then 1 else 0) ∧
      (register = true → ((after acts).notifier.handlers.get? notifier.next = some number ↔
        g.lifecycle ≠ .released)) ∧
      (Act.mark true ∈ acts → ∃ complete, g.signal = some complete ∧
        (complete = true ↔ g.lifecycle = .released)) := by
  intro after
  have hafter := follows_after notifier number view register
  obtain ⟨g, hg⟩ := hafter acts
  have hlive : g.lifecycle ≠ .live ↔ ∃ wait, Act.mark wait ∈ acts := by
    rw [Ne, hg.live_iff, Bool.not_eq_false, Ledger.requested_ofActs]
  refine ⟨g, hg.found, hg.usage, ?_, hg.tryHold_eq.2, fun later => ?_, hlive, ?_,
    hg.sound.countCalls_close, ?_, fun hm => ?_⟩
  · rw [hg.tryHold_eq.1, ← hg.live_iff, ← not_exists, ← hlive, Ne, not_not]
  · obtain ⟨g', hg'⟩ := hafter (acts ++ later)
    refine ⟨g', hg'.found, ?_⟩
    rw [hg.lifecycle, hg'.lifecycle]
    exact Ledger.rank_stage_le (List.prefix_append _ _)
  · rw [hg.lifecycle, Ledger.stage_eq_released_iff, Ledger.drained_ofActs]
    refine exists_congr fun done => and_congr_right fun _ => and_congr_right fun _ => ?_
    obtain ⟨d, hd⟩ := hafter done
    rw [← hd.usage]
    constructor
    · exact fun h0 => ⟨d, hd.found, h0⟩
    · rintro ⟨d', hd', h0⟩
      rw [show d = d' from Option.some.inj (hd.found.symm.trans hd')]
      exact h0
  · rintro rfl
    have hlist := hg.listed notifier.next rfl
    show (Pool.after notifier number view true acts).notifier.handlers.get? notifier.next = _ ↔ _
    rw [hlist]
    split <;> simp [*]
  · obtain ⟨complete, hc⟩ := Option.isSome_iff_exists.mp (hg.signal hm)
    exact ⟨complete, hc, hg.sound.signal_iff complete hc⟩

end FacetedSearch
