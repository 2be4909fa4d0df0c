import FacetedSearch.Proofs.Generation.Pool

/-!
# FacetedSearch.Proofs.Reader.Installing — warmings as runs of steps

`Advances` says all that a step of a warming can do.  An installation is a run of such steps with
the teardown of the former generation asked for in between: it waits until it is told that its own
warming is done, and never longer than the settings allow (`await_eq`, `install_eq`).
-/

namespace FacetedSearch.Reader

variable {r : Reader}

/-! ## One step -/

/-- What becomes of a reader in a step of the warming of a generation. -/
inductive Advances (r : Reader) (number : Nat) : Reader → Prop
  /-- The step is not due. -/
  | idle : Advances r number r
  | fetched (w : Warming) (field : String) (found : r.warmings.get? number = some w)
    (untried : field ∈ w.untried) (untold : w.told = false) :
    Advances r number
      { r with
        pool := r.pool.update number fun g => (g.run (Session.termTable field)).2
        warmings := r.warmings.insert number
          { w with
            untried := w.untried.erase field
            failed := w.failed || !(r.run number (Session.termTable field)).1.isOk } }
  | told (w : Warming) (found : r.warmings.get? number = some w)
    (done : w.untried = [] ∨ w.failed = true) :
    Advances r number { r with warmings := r.warmings.insert number { w with told := true } }
  | gaveBack (w : Warming) (found : r.warmings.get? number = some w) (told : w.told = true) :
    Advances r number
      { r with pool := r.pool.release number, warmings := r.warmings.erase number }

theorem advances (r : Reader) (number : Nat) (step : WarmingStep) :
    Advances r number (r.advance number step) := by
  unfold advance
  cases hw : r.warmings.get? number with
  | none => exact .idle
  | some w =>
    cases step with
    | fetch field =>
      dsimp only
      split
      · rename_i hdue
        have hfetched := Advances.fetched w field hw hdue.1 hdue.2
        rw [← Pool.snd_run r.pool number _ (.error (.noLiveGeneration r.name 0))] at hfetched
        exact hfetched
      · exact .idle
    | tell =>
      dsimp only
      split
      · exact .told w hw ‹_›
      · exact .idle
    | giveBack =>
      dsimp only
      split
      · exact .gaveBack w hw ‹_›
      · exact .idle

/-- The second reader has the name and the settings of the first, and the same current generation. -/
structure Beside (r r' : Reader) : Prop where
  name : r'.name = r.name
  config : r'.config = r.config
  current : r'.current = r.current
  next : r'.next = r.next

theorem Beside.refl (r : Reader) : Beside r r := ⟨rfl, rfl, rfl, rfl⟩

theorem Beside.trans {r' r'' : Reader} (h : Beside r r') (h' : Beside r' r'') : Beside r r'' :=
  ⟨h'.name.trans h.name, h'.config.trans h.config, h'.current.trans h.current,
    h'.next.trans h.next⟩

theorem beside_startWarming (r : Reader) (old new now : Nat) :
    Beside r (r.startWarming old new now) := by
  rw [startWarming]
  split
  · exact .refl r
  · rcases r.pool.tryHold new with ⟨_ | _, pool⟩ <;> exact ⟨rfl, rfl, rfl, rfl⟩

theorem beside_advance (r : Reader) (number : Nat) (step : WarmingStep) :
    Beside r (r.advance number step) := by
  have hstep := r.advances number step
  generalize r.advance number step = r' at hstep ⊢
  cases hstep <;> exact ⟨rfl, rfl, rfl, rfl⟩

theorem keyed_advance (h : r.pool.Keyed) (number : Nat) (step : WarmingStep) :
    (r.advance number step).pool.Keyed := by
  have hstep := r.advances number step
  generalize r.advance number step = r' at hstep ⊢
  cases hstep with
  | idle => exact h
  | fetched w field => exact h.update fun g => (Session.Reads.termTable field g).number
  | told => exact h
  | gaveBack => exact h.update fun _ => Generation.number_release

/-- A warming changes its own generation and no other. -/
theorem get?_advance_of_ne (h : r.pool.Keyed) {number k : Nat} (hk : k ≠ number)
    (step : WarmingStep) : (r.advance number step).pool.get? k = r.pool.get? k ∧
      (r.advance number step).warmings.get? k = r.warmings.get? k := by
  have hupdate {f : Generation → Generation} (hf : ∀ g, (f g).number = g.number) :
      (r.pool.update number f).get? k = r.pool.get? k := (h.get?_update hf k).trans (if_neg hk)
  have hinsert (w : Warming) : (r.warmings.insert number w).get? k = r.warmings.get? k :=
    SortedMap.get?_insert_ne hk
  have hstep := r.advances number step
  generalize r.advance number step = r' at hstep ⊢
  cases hstep with
  | idle => exact ⟨rfl, rfl⟩
  | fetched w field =>
    exact ⟨hupdate fun g => (Session.Reads.termTable field g).number, hinsert _⟩
  | told => exact ⟨rfl, hinsert _⟩
  | gaveBack =>
    exact ⟨hupdate fun _ => Generation.number_release, SortedMap.get?_erase.trans (if_neg hk)⟩

/-- What reading and giving back a hold keep of a generation, a warming keeps of it. -/
theorem advance_keeps {P : Generation → Prop}
    (hread : ∀ g field, P g → P (g.run (Session.termTable field)).2)
    (hrelease : ∀ g : Generation, P g → P g.release) (hkeyed : r.pool.Keyed) {k : Nat}
    (h : ∃ g, r.pool.get? k = some g ∧ P g) (number : Nat) (step : WarmingStep) :
    ∃ g, (r.advance number step).pool.get? k = some g ∧ P g := by
  obtain ⟨g, hg, hp⟩ := h
  by_cases hk : k = number
  · subst hk
    have hstep := r.advances k step
    generalize r.advance k step = r' at hstep ⊢
    cases hstep with
    | idle => exact ⟨g, hg, hp⟩
    | fetched w field =>
      have hnumber := (Session.Reads.termTable field g).number.trans (hkeyed k g hg)
      exact ⟨_, (Pool.get?_update hg hnumber k).trans (if_pos rfl), hread g field hp⟩
    | told => exact ⟨g, hg, hp⟩
    | gaveBack =>
      have hnumber := (Generation.number_release (g := g)).trans (hkeyed k g hg)
      exact ⟨_, (Pool.get?_update hg hnumber k).trans (if_pos rfl), hrelease g hp⟩
  · exact ⟨g, (get?_advance_of_ne hkeyed hk step).1.trans hg, hp⟩

/-! ## Many steps -/

/-- What every step keeps is kept by a run of steps. -/
theorem proceed_keeps {P : Reader → Prop}
    (hstep : ∀ r number step, P r → P (r.advance number step)) (events : List WarmingEvent)
    (h : P r) : P (r.proceed events) := by
  induction events generalizing r with
  | nil => exact h
  | cons e rest ih => exact ih (hstep r e.number e.step h)

/-- What reading and giving back a hold keep of a generation, warmings keep of it. -/
theorem proceed_keeps_of_read {P : Generation → Prop}
    (hread : ∀ g field, P g → P (g.run (Session.termTable field)).2)
    (hrelease : ∀ g : Generation, P g → P g.release) (hkeyed : r.pool.Keyed) {k : Nat}
    (h : ∃ g, r.pool.get? k = some g ∧ P g) (events : List WarmingEvent) :
    ∃ g, (r.proceed events).pool.get? k = some g ∧ P g :=
  (proceed_keeps (P := fun r => r.pool.Keyed ∧ ∃ g, r.pool.get? k = some g ∧ P g)
    (fun _ number step hr => ⟨keyed_advance hr.1 number step,
      advance_keeps hread hrelease hr.1 hr.2 number step⟩) events ⟨hkeyed, h⟩).2

theorem beside_proceed (r : Reader) (events : List WarmingEvent) : Beside r (r.proceed events) :=
  proceed_keeps (fun _ number step h => h.trans (beside_advance _ number step)) events (.refl r)

/-- Waiting takes the first of some steps, all in time.  It ends when it is told that the warming is
done, when nothing else happens, or when the next step is too late. -/
theorem await_eq (r : Reader) (number : Nat) (events : List WarmingEvent) :
    ∃ before after, events = before ++ after ∧ r.await number events = (r.proceed before, after) ∧
      (∀ e ∈ before, e.elapsed ≤ r.config.prewarmWait) ∧
      ((r.proceed before).isWarming number = true →
        ∀ e ∈ after.head?, r.config.prewarmWait < e.elapsed) := by
  induction events generalizing r with
  | nil => exact ⟨[], [], rfl, rfl, by simp, by simp⟩
  | cons e rest ih =>
    rw [await]
    split
    · rename_i hwait
      obtain ⟨before, after, hsplit, hawait, hearly, hlate⟩ := ih (r.advance e.number e.step)
      rw [(r.beside_advance e.number e.step).config] at hearly hlate
      refine ⟨e :: before, after, by rw [hsplit, List.cons_append], hawait, ?_, hlate⟩
      exact List.forall_mem_cons.mpr ⟨hwait.2, hearly⟩
    · rename_i hover
      refine ⟨[], e :: rest, rfl, rfl, by simp, fun hwarming e' he' => ?_⟩
      obtain rfl : e = e' := Option.some.inj he'
      exact Nat.lt_of_not_le fun hle => hover ⟨hwarming, hle⟩

/-- An installation, step by step.  The teardown of the former generation is asked for when waiting
is over. -/
theorem install_eq (r : Reader) (view : View) (wait : Bool) (now : Nat)
    (events : List WarmingEvent) :
    let opened := (r.openGeneration view).startWarming r.current r.next now
    ∃ before after, events = before ++ after ∧
      r.install view wait now events =
        ((opened.proceed before).markForDisposal r.current wait).proceed after ∧
      (∀ e ∈ before, e.elapsed ≤ r.config.prewarmWait) ∧
      ((opened.proceed before).isWarming r.next = true →
        ∀ e ∈ after.head?, r.config.prewarmWait < e.elapsed) := by
  intro opened
  obtain ⟨before, after, hsplit, hawait, hearly, hlate⟩ := opened.await_eq r.next events
  have hconfig : opened.config = r.config := (beside_startWarming (r.openGeneration view) ..).config
  rw [hconfig] at hearly hlate
  refine ⟨before, after, hsplit, ?_, hearly, hlate⟩
  rw [install]
  dsimp only
  rw [hawait]

/-! ## To the end -/

variable {number : Nat} {w : Warming}

theorem advance_giveBack (hw : r.warmings.get? number = some w) (htold : w.told = true) :
    r.advance number .giveBack =
      { r with pool := r.pool.release number, warmings := r.warmings.erase number } := by
  unfold advance
  rw [hw]
  exact if_pos htold

/-- Once all fields have been tried, or one has failed, a warming can tell and give back its hold. -/
theorem proceed_end (hw : r.warmings.get? number = some w)
    (hdone : w.untried = [] ∨ w.failed = true) :
    r.proceed [⟨0, number, .tell⟩, ⟨0, number, .giveBack⟩] =
      { r with pool := r.pool.release number, warmings := r.warmings.erase number } := by
  have htell : r.advance number .tell =
      { r with warmings := r.warmings.insert number { w with told := true } } := by
    unfold advance
    rw [hw]
    exact if_pos hdone
  change (r.advance number .tell).advance number .giveBack = _
  rw [htell, advance_giveBack SortedMap.get?_insert_self rfl,
    SortedMap.erase_insert]

theorem advance_fetch {field : String} (hw : r.warmings.get? number = some w)
    (huntried : field ∈ w.untried) (huntold : w.told = false) :
    r.advance number (.fetch field) =
      { r with
        pool := r.pool.update number fun g => (g.run (Session.termTable field)).2
        warmings := r.warmings.insert number
          { w with
            untried := w.untried.erase field
            failed := w.failed || !(r.run number (Session.termTable field)).1.isOk } } := by
  have hrun := Pool.snd_run r.pool number (Session.termTable field)
    (.error (.noLiveGeneration r.name 0))
  unfold advance
  rw [hw, ← hrun]
  exact if_pos ⟨huntried, huntold⟩

/-- Fetching goes on with the other fields where the first can be fetched. -/
theorem update_warm_cons (hk : r.pool.Keyed) (number : Nat) (field : String) (rest : List String) :
    (r.pool.update number fun g => (g.run (warm (field :: rest))).2) =
      if (r.run number (Session.termTable field)).1.isOk then
        (r.pool.update number fun g => (g.run (Session.termTable field)).2).update number fun g =>
          (g.run (warm rest)).2
      else r.pool.update number fun g => (g.run (Session.termTable field)).2 := by
  cases hg : r.pool.get? number with
  | none =>
    have hsame (f : Generation → Generation) : r.pool.update number f = r.pool := by
      rw [Pool.update, hg]
    rw [hsame, hsame, hsame, ite_self]
  | some g =>
    have hread := Session.Reads.termTable field g
    have hrest := Session.Reads.closed.warm rest (g.run (Session.termTable field)).2
    have hnumber := hread.number.trans (hk number g hg)
    have hwarm : (g.run (warm (field :: rest))).2 =
        if (g.run (Session.termTable field)).1.isOk then
          ((g.run (Session.termTable field)).2.run (warm rest)).2
        else (g.run (Session.termTable field)).2 := by
      rw [warm, Generation.run_bind]
      rcases g.run (Session.termTable field) with ⟨_ | _, _⟩ <;> rfl
    have hok : (r.run number (Session.termTable field)).1 = (g.run (Session.termTable field)).1 := by
      rw [Reader.run, Pool.run, hg]
    have hcongr {f f' : Generation → Generation} (hf : f g = f' g) :
        r.pool.update number f = r.pool.update number f' := by
      simp only [Pool.update, hg, hf]
    rw [hok]
    split
    · rename_i hfetch
      rw [if_pos hfetch] at hwarm
      rw [Pool.update_update hg hnumber hread.registration (hrest.number.trans hnumber)]
      exact hcongr hwarm
    · rename_i hfail
      rw [if_neg hfail] at hwarm
      exact hcongr hwarm

/-- A warming that fetches its fields in their order, as far as it can, comes to its end. -/
theorem exists_end (hk : r.pool.Keyed) (hw : r.warmings.get? number = some w)
    (huntold : w.told = false) :
    ∃ events, r.proceed events =
      { r with
        pool := (r.pool.update number fun g => (g.run (warm w.untried)).2).release number
        warmings := r.warmings.erase number } := by
  obtain ⟨untried, failed, told⟩ := w
  obtain rfl : told = false := huntold
  induction untried generalizing r failed with
  | nil =>
    have hsame : (r.pool.update number fun g => (g.run (warm [])).2) = r.pool := by
      cases hg : r.pool.get? number with
      | none => rw [Pool.update, hg]
      | some g => exact Pool.update_eq_self hg (hk number g hg) rfl
    rw [hsame]
    exact ⟨_, proceed_end hw (.inl rfl)⟩
  | cons field rest ih =>
    have hpool := update_warm_cons hk number field rest
    have hkeyed : Pool.Keyed (r.pool.update number fun g => (g.run (Session.termTable field)).2) :=
      hk.update fun g => (Session.Reads.termTable field g).number
    generalize hpool' : (r.pool.update number fun g => (g.run (Session.termTable field)).2) = pool
      at hpool hkeyed
    have hfetch (failed' : Bool)
        (hfailed : (failed || !(r.run number (Session.termTable field)).1.isOk) = failed') :
        r.advance number (.fetch field) = { r with
          pool, warmings := r.warmings.insert number { untried := rest, failed := failed' } } := by
      rw [advance_fetch hw List.mem_cons_self rfl, List.erase_cons_head, hfailed, hpool']
    cases hok : (r.run number (Session.termTable field)).1.isOk with
    | true =>
      obtain ⟨events, hevents⟩ := ih (r := { r with
        pool, warmings := r.warmings.insert number { untried := rest, failed } }) hkeyed failed
        SortedMap.get?_insert_self
      refine ⟨⟨0, number, .fetch field⟩ :: events, ?_⟩
      change (r.advance number (.fetch field)).proceed events = _
      rw [hfetch failed (by simp [hok]), hevents, SortedMap.erase_insert, hpool, if_pos hok]
    | false =>
      refine ⟨[⟨0, number, .fetch field⟩, ⟨0, number, .tell⟩, ⟨0, number, .giveBack⟩], ?_⟩
      change (r.advance number (.fetch field)).proceed _ = _
      rw [hfetch true (by simp [hok]), proceed_end SortedMap.get?_insert_self (.inr rfl),
        SortedMap.erase_insert, hpool, if_neg (by simp [hok])]

/-- Letting a warming run to its end is a run of its steps, and it is over then. -/
theorem exists_settle (hk : r.pool.Keyed) (number : Nat) :
    (∃ events, r.proceed events = r.settle number) ∧
      (r.settle number).warmings.contains number = false := by
  rw [settle]
  cases hw : r.warmings.get? number with
  | none =>
    refine ⟨⟨[], rfl⟩, ?_⟩
    rw [SortedMap.contains, hw]
    rfl
  | some w =>
    have hover : (r.warmings.erase number).contains number = false := by
      rw [SortedMap.contains, SortedMap.get?_erase, if_pos rfl]
      rfl
    refine ⟨?_, hover⟩
    dsimp only
    cases htold : w.told with
    | true => exact ⟨[⟨0, number, .giveBack⟩], advance_giveBack hw htold⟩
    | false =>
      obtain ⟨events, hevents⟩ := exists_end hk hw htold
      rw [← Pool.snd_run r.pool number _ (.error (.noLiveGeneration r.name 0))] at hevents
      exact ⟨events, hevents⟩

end FacetedSearch.Reader
