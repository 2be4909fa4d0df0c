import FacetedSearch.Proofs.Generation.Session

/-!
# FacetedSearch.Proofs.Generation.Pool — operations on one generation among others

An operation on one generation of a pool leaves every other one alone (`get?_update`), and a
low-memory notification clears the caches of the registered ones (`get?_lowMemory`).  `Pool.Has`
tells what matters for the life of one generation, its usage and its stage; one lemma for each
operation says what the pool has afterwards, and that it is the same but for that generation.
-/

namespace FacetedSearch

namespace Pool

variable {p : Pool} {number : Nat} {g : Generation}

/-! ## Looking up after a change -/

theorem ext_get? {q : Pool} (h : ∀ k, p.get? k = q.get? k) (hn : p.notifier = q.notifier) :
    p = q := by
  cases p
  cases q
  obtain rfl := SortedMap.ext_get? h
  obtain rfl := hn
  rfl

theorem get?_put (p : Pool) (former g : Generation) (k : Nat) :
    (p.put former g).get? k = if k = g.number then some g else p.get? k := SortedMap.get?_insert

theorem put_self (h : p.get? g.number = some g) : p.put g g = p := by
  have hg : p.generations.insert g.number g = p.generations := by
    refine SortedMap.ext_get? fun k => ?_
    rw [SortedMap.get?_insert]
    split
    · rename_i hk
      rw [hk]
      exact h.symm
    · rfl
  cases hr : g.registration <;> simp [put, hg, hr]

theorem get?_openGeneration (p : Pool) (number : Nat) (view : View) (register : Bool) (k : Nat) :
    (p.openGeneration number view register).get? k =
      if k = number then
        some { number, view, registration := if register then some p.notifier.next else none }
      else p.get? k := by
  rw [openGeneration]
  split <;> exact SortedMap.get?_insert

theorem get?_update {f : Generation → Generation} (h : p.get? number = some g)
    (hn : (f g).number = number) (k : Nat) :
    (p.update number f).get? k = if k = number then some (f g) else p.get? k := by
  rw [update, h]
  show (p.put g (f g)).get? k = _
  rw [get?_put, hn]

theorem update_eq_self {f : Generation → Generation} (h : p.get? number = some g)
    (hn : g.number = number) (hf : f g = g) : p.update number f = p := by
  rw [update, h]
  show p.put g (f g) = p
  rw [hf]
  exact put_self (hn.symm ▸ h)

theorem fst_tryHold (h : p.get? number = some g) : (p.tryHold number).1 = g.tryHold.1 := by
  rw [tryHold, h]

theorem snd_tryHold (p : Pool) (number : Nat) :
    (p.tryHold number).2 = p.update number fun g => g.tryHold.2 := by
  rw [tryHold, update]
  cases p.get? number <;> rfl

theorem snd_run {α : Type} (p : Pool) (number : Nat) (s : Session α) (missing : Except Error α) :
    (p.run number s missing).2 = p.update number fun g => (g.run s).2 := by
  rw [run, update]
  cases p.get? number <;> rfl

/-- Every generation is listed under its own number. -/
def Keyed (p : Pool) : Prop := ∀ k g, p.get? k = some g → g.number = k

/-- An operation that keeps the number of a generation changes that generation and no other. -/
theorem Keyed.get?_update (h : p.Keyed) {f : Generation → Generation}
    (hf : ∀ g, (f g).number = g.number) (k : Nat) :
    (p.update number f).get? k = if k = number then (p.get? k).map f else p.get? k := by
  cases hg : p.get? number with
  | none =>
    rw [update, hg]
    show p.get? k = _
    split
    · rename_i hk
      rw [hk, hg]; rfl
    · rfl
  | some g =>
    rw [Pool.get?_update hg ((hf g).trans (h number g hg))]
    split
    · rename_i hk
      rw [hk, hg]; rfl
    · rfl

theorem Keyed.update (h : p.Keyed) {f : Generation → Generation}
    (hf : ∀ g, (f g).number = g.number) : (p.update number f).Keyed := by
  intro k g hg
  rw [h.get?_update hf] at hg
  split at hg
  · obtain ⟨g', hg', rfl⟩ := Option.map_eq_some_iff.mp hg
    rw [hf, h k g' hg']
  · exact h k g hg

theorem Keyed.put (h : p.Keyed) (former g : Generation) : (p.put former g).Keyed := by
  intro k g' hg'
  rw [get?_put] at hg'
  split at hg'
  · cases hg'
    exact Eq.symm ‹_›
  · exact h k g' hg'

theorem Keyed.openGeneration (h : p.Keyed) (number : Nat) (view : View) (register : Bool) :
    (p.openGeneration number view register).Keyed := by
  intro k g hg
  rw [get?_openGeneration] at hg
  split at hg
  · cases hg
    exact Eq.symm ‹_›
  · exact h k g hg

/-- A generation may be listed more than once; clearing its caches again changes nothing. -/
theorem Keyed.get?_foldl_clear (h : p.Keyed) (numbers : List Nat) (k : Nat) :
    (numbers.foldl (fun p n => p.update n Generation.clearCaches) p).get? k =
      if k ∈ numbers then (p.get? k).map Generation.clearCaches else p.get? k := by
  induction numbers generalizing p with
  | nil => simp
  | cons n rest ih =>
    have hn : ∀ g : Generation, g.clearCaches.number = g.number := fun _ => rfl
    simp only [List.foldl_cons, ih (h.update hn), h.get?_update hn, List.mem_cons]
    by_cases hk : k = n
    · subst hk
      by_cases hm : k ∈ rest
      · cases p.get? k <;> simp [hm, Generation.clearCaches]
      · simp [hm]
    · simp [hk]

/-- A low-memory notification clears the caches of the registered generations. -/
theorem Keyed.get?_lowMemory (h : p.Keyed) (k : Nat) :
    p.lowMemory.2.get? k =
      if k ∈ p.notifier.live fun _ => true then (p.get? k).map Generation.clearCaches
      else p.get? k := h.get?_foldl_clear _ k

theorem Keyed.lowMemory (h : p.Keyed) : p.lowMemory.2.Keyed := by
  intro k g hg
  rw [h.get?_lowMemory] at hg
  split at hg
  · obtain ⟨g', hg', rfl⟩ := Option.map_eq_some_iff.mp hg
    exact h k g' hg'
  · exact h k g hg

/-! ## The notifier -/

theorem notifier_update (h : p.get? number = some g) (f : Generation → Generation) :
    (p.update number f).notifier = match g.registration, (f g).registration with
      | some id, none => p.notifier.deregister id
      | _, _ => p.notifier := by
  rw [update, h]; rfl

theorem notifier_update_eq {f : Generation → Generation}
    (hf : ∀ g, (f g).registration = g.registration) :
    (p.update number f).notifier = p.notifier := by
  cases hg : p.get? number with
  | none => rw [update, hg]
  | some g =>
    rw [notifier_update hg, hf]
    cases g.registration <;> rfl

/-- Two changes, of which the first leaves number and registration alone, are one. -/
theorem update_update {f f' : Generation → Generation} (h : p.get? number = some g)
    (hn : (f g).number = number) (hr : (f g).registration = g.registration)
    (hn' : (f' (f g)).number = number) :
    (p.update number f).update number f' = p.update number fun g => f' (f g) := by
  have hfound : (p.update number f).get? number = some (f g) :=
    (get?_update h hn number).trans (if_pos rfl)
  refine ext_get? (fun k => ?_) ?_
  · rw [get?_update hfound hn', get?_update (f := fun g => f' (f g)) h hn', get?_update h hn]
    split <;> rfl
  · rw [notifier_update hfound, notifier_update h, notifier_update h, hr]
    cases g.registration <;> rfl

theorem notifier_lowMemory (p : Pool) : p.lowMemory.2.notifier = p.notifier := by
  have hfold (numbers : List Nat) (q : Pool) :
      (numbers.foldl (fun p n => p.update n Generation.clearCaches) q).notifier = q.notifier := by
    induction numbers generalizing q with
    | nil => rfl
    | cons n rest ih =>
      rw [List.foldl_cons, ih]
      exact notifier_update_eq fun _ => rfl
  exact hfold _ p

/-! ## The life of one generation -/

/-- The pool has a sound generation of this number, with this usage and in this stage. -/
def Has (p : Pool) (number usage : Nat) (stage : Lifecycle) : Prop :=
  ∃ g, p.get? number = some g ∧ g.number = number ∧ g.usage = usage ∧ g.lifecycle = stage ∧ g.Sound

/-- The second pool differs from the first in the generation of this number at most. -/
def SameBut (number : Nat) (p q : Pool) : Prop := ∀ k, k ≠ number → q.get? k = p.get? k

theorem SameBut.refl (number : Nat) (p : Pool) : SameBut number p p := fun _ _ => rfl

theorem SameBut.trans {q r : Pool} (h : SameBut number p q) (h' : SameBut number q r) :
    SameBut number p r := fun k hk => (h' k hk).trans (h k hk)

namespace Has

variable {usage : Nat} {stage : Lifecycle}

theorem congr {q : Pool} (h : p.Has number usage stage) (hq : q.get? number = p.get? number) :
    q.Has number usage stage := by
  obtain ⟨g, hg, hrest⟩ := h
  exact ⟨g, hq.trans hg, hrest⟩

theorem openGeneration (p : Pool) (number : Nat) (view : View) (register : Bool) :
    (p.openGeneration number view register).Has number 0 .live ∧
      SameBut number p (p.openGeneration number view register) := by
  have hget := get?_openGeneration p number view register
  exact ⟨⟨_, (hget number).trans (if_pos rfl), rfl, rfl, rfl, Generation.sound_fresh _ _ _⟩,
    fun k hk => (hget k).trans (if_neg hk)⟩

/-- An operation on one generation, by what it does to the usage and the stage. -/
theorem update (h : p.Has number usage stage) {f : Generation → Generation} {usage' : Nat}
    {stage' : Lifecycle} (hf : ∀ g : Generation, g.Sound → g.usage = usage → g.lifecycle = stage →
      (f g).number = g.number ∧ (f g).usage = usage' ∧ (f g).lifecycle = stage' ∧ (f g).Sound) :
    (p.update number f).Has number usage' stage' ∧ SameBut number p (p.update number f) := by
  obtain ⟨g, hg, hn, hu, hl, hs⟩ := h
  obtain ⟨hn', hu', hl', hs'⟩ := hf g hs hu hl
  have hget := get?_update hg (hn'.trans hn)
  exact ⟨⟨f g, (hget number).trans (if_pos rfl), hn'.trans hn, hu', hl', hs'⟩,
    fun k hk => (hget k).trans (if_neg hk)⟩

theorem tryHold (h : p.Has number usage .live) :
    (p.tryHold number).1 = true ∧ (p.tryHold number).2.Has number (usage + 1) .live ∧
      SameBut number p (p.tryHold number).2 := by
  obtain ⟨g, hg, -, -, hl, hs⟩ := id h
  rw [snd_tryHold]
  refine ⟨?_, h.update fun g hs hu hl => ?_⟩
  · rw [fst_tryHold hg, hs.tryHold_eq, if_pos hl]
  · rw [hs.tryHold_eq, if_pos hl]
    exact ⟨rfl, congrArg (· + 1) hu, hl, hs.acquire⟩

theorem release (h : p.Has number usage stage) :
    (p.release number).Has number (usage - 1)
        (if usage = 1 ∧ stage = .superseded then .released else stage) ∧
      SameBut number p (p.release number) :=
  h.update fun g hs hu hl => ⟨Generation.number_release, by rw [Generation.usage_release, hu],
    by rw [Generation.lifecycle_release, hu, hl], hs.release⟩

theorem markForDisposal (h : p.Has number usage .live) (wait : Bool) :
    (p.markForDisposal number wait).Has number usage
        (if usage = 0 then .released else .superseded) ∧
      SameBut number p (p.markForDisposal number wait) :=
  h.update fun g hs hu hl => ⟨Generation.number_markForDisposal wait,
    (Generation.usage_markForDisposal wait).trans hu,
    by rw [Generation.lifecycle_markForDisposal, hu, if_pos hl], hs.markForDisposal wait⟩

/-- A session reads the generation, and it does not matter whether it fails. -/
theorem run {α : Type} {s : Session α} (hs : s.Reads) (h : p.Has number usage stage)
    (hstage : stage ≠ .released) (missing : Except Error α) :
    (p.run number s missing).2.Has number usage stage ∧
      SameBut number p (p.run number s missing).2 := by
  rw [snd_run]
  refine h.update fun g hg hu hl => ?_
  have hr := hs g
  exact ⟨hr.number, hr.usage.trans hu, hr.lifecycle.trans hl, hg.readTo hr (hl ▸ hstage)⟩

theorem lowMemory (hk : p.Keyed) (h : p.Has number usage stage) :
    p.lowMemory.2.Has number usage stage := by
  obtain ⟨g, hg, hn, hu, hl, hs⟩ := h
  have hget := hk.get?_lowMemory number
  rw [hg] at hget
  split at hget
  · exact ⟨g.clearCaches, hget, hn, hu, hl, hs.clearCaches⟩
  · exact ⟨g, hget, hn, hu, hl, hs⟩

end Has

end Pool

end FacetedSearch
