import FacetedSearch.Proofs.Reader.Diary

/-!
# FacetedSearch.Proofs.Reader.Warming — the tables that a new generation starts with

`Warmed` says how a generation stands to its warming at any time: fetching changes nothing besides
term tables and calls, the generation is held just as long as the warming is not over, and if all
tables can be built then what is missing has not been tried.  Every step keeps it
(`Reader.Warms.advance`).  What was lately used is read off the diary of the former generation,
whatever its history; a release would have lost it, but then the generation is live no more.

An installation that has been told that the warming is done finds all tables there.  The hold need
not have been given back by then, since telling comes first: there is an installation that leaves
the new generation held (`held_after_install`).
-/

namespace FacetedSearch

variable {v : View} {g g' : Generation} {fields : List String}

/-! ## Fetching one table -/

namespace Generation

theorem frame_termTable (g : Generation) (field : String) :
    ∃ terms calls, (g.run (Session.termTable field)).2 =
      { g with caches := { g.caches with terms }, calls } := by
  rw [snd_run_termTable]
  split
  · exact ⟨g.caches.terms, g.calls, rfl⟩
  · split <;> exact ⟨_, _, rfl⟩

theorem resident_termTable (g : Generation) (name field : String) :
    (g.run (Session.termTable name)).2.resident field =
      (g.resident field || decide (field = name) && g.fetches name) := by
  rw [snd_run_termTable, fetches]
  cases hname : g.resident name with
  | true =>
    rw [if_pos rfl]
    by_cases hf : field = name
    · simp [hf, hname]
    · simp [hf]
  | false =>
    rw [if_neg Bool.false_ne_true]
    cases g.view.answer (Session.buildTerms name) with
    | ok table =>
      dsimp only
      rw [resident_withTerms]
      simp [called, resident, Except.isOk, Except.toBool, Bool.or_comm]
    | error e => simp [called, resident, Except.isOk, Except.toBool]

theorem fetches_of_builds {field : String} (h : g.view.Builds field) : g.fetches field = true := by
  obtain ⟨table, htable⟩ := h
  rw [fetches, htable]
  exact Bool.or_true _

/-- Superseded, and released as soon as nobody holds it. -/
def Retired (g : Generation) : Prop :=
  g.lifecycle = if g.usage = 0 then .released else .superseded

theorem Retired.read (h : g.Retired) (field : String) :
    (g.run (Session.termTable field)).2.Retired := by
  have hread := Session.Reads.termTable field g
  rw [Retired, hread.lifecycle, hread.usage]
  exact h

theorem Retired.release (h : g.Retired) : g.release.Retired := by
  rw [Retired] at h
  rw [Retired, lifecycle_release, usage_release, h]
  rcases g.usage with _ | _ | n <;> simp

theorem retired_markForDisposal (h : g.lifecycle = .live) (wait : Bool) :
    (g.markForDisposal wait).Retired := by
  rw [Retired, lifecycle_markForDisposal, usage_markForDisposal, if_pos h]

end Generation

/-! ## A generation and its warming -/

/-- A generation that was opened to be warmed with some fields, and what is left of the warming. -/
structure Warmed (opened : Generation) (fields : List String) (left : Option Warming)
    (g : Generation) : Prop where
  /-- The hold of the warming aside, only term tables and calls have been added. -/
  frame : ∃ terms calls, g = { opened with
    usage := left.isSome.toNat, caches := { opened.caches with terms }, calls }
  coherent : g.Coherent opened.view
  resident : ∀ field, g.resident field = true → field ∈ fields
  untried : ∀ w ∈ left, ∀ field ∈ w.untried, field ∈ fields
  /-- Where all tables can be built, those that are missing have not been tried. -/
  missing : (∀ field ∈ fields, opened.view.Builds field) →
    (∀ w ∈ left, w.failed = false ∧ (w.told = true → w.untried = [])) ∧
      ∀ field ∈ fields, g.resident field = true ∨ ∃ w ∈ left, field ∈ w.untried
  unasked : fields = [] → g = opened ∧ left = none

namespace Warmed

variable {opened : Generation} {left : Option Warming} {w : Warming}

theorem lifecycle_eq (h : Warmed opened fields left g) : g.lifecycle = opened.lifecycle := by
  obtain ⟨terms, calls, hframe⟩ := h.frame
  rw [hframe]

theorem usage_eq (h : Warmed opened fields left g) : g.usage = if left.isSome then 1 else 0 := by
  obtain ⟨terms, calls, hframe⟩ := h.frame
  rw [hframe]
  cases left <;> rfl

theorem ne_nil (h : Warmed opened fields (some w) g) : fields ≠ [] := fun hnil => by
  cases (h.unasked hnil).2

/-- A generation that was just opened, and a warming that holds it for some fields. -/
theorem fresh (number : Nat) (view : View) (registration : Option Nat) (hfields : fields ≠ []) :
    let opened : Generation := { number, view, registration }
    Warmed opened fields (some { untried := fields }) opened.acquire := by
  intro opened
  refine ⟨⟨∅, [], rfl⟩, ?_, fun field hr => ?_, fun w hw => ?_, fun _ => ⟨fun w hw => ?_, ?_⟩,
    fun hnil => absurd hnil hfields⟩
  · exact (Generation.Coherent.ofView number view).congr rfl rfl rfl rfl rfl
  · cases hr
  · cases hw
    exact fun _ => id
  · cases hw
    exact ⟨rfl, fun htold => absurd htold Bool.false_ne_true⟩
  · exact fun field hf => .inr ⟨_, rfl, hf⟩

/-- Where there is nothing to fetch, there is no warming. -/
theorem idle (number : Nat) (view : View) (registration : Option Nat) :
    let opened : Generation := { number, view, registration }
    Warmed opened [] none opened := by
  intro opened
  refine ⟨⟨∅, [], rfl⟩, ?_, fun field hr => ?_, fun w hw => ?_, fun _ => ⟨fun w hw => ?_, ?_⟩,
    fun _ => ⟨rfl, rfl⟩⟩
  · exact (Generation.Coherent.ofView number view).congr rfl rfl rfl rfl rfl
  · cases hr
  · cases hw
  · cases hw
  · exact fun field hf => absurd hf List.not_mem_nil

theorem fetched (h : Warmed opened fields (some w) g) {field : String} (hf : field ∈ w.untried)
    (huntold : w.told = false) :
    Warmed opened fields
      (some { w with
        untried := w.untried.erase field
        failed := w.failed || !(g.run (Session.termTable field)).1.isOk })
      (g.run (Session.termTable field)).2 := by
  have hresident := g.resident_termTable field
  have hok := g.isOk_termTable field
  obtain ⟨terms, calls, hframe⟩ := h.frame
  obtain ⟨terms', calls', htable⟩ := g.frame_termTable field
  refine ⟨⟨terms', calls', ?_⟩, (Session.Transparent.termTable field g h.coherent).2,
    fun name hr => ?_, fun w' hw' name hname => ?_, fun hbuilds => ?_,
    fun hnil => absurd hnil h.ne_nil⟩
  · rw [htable, hframe]
    rfl
  · rw [hresident, Bool.or_eq_true, Bool.and_eq_true, decide_eq_true_eq] at hr
    rcases hr with hr | ⟨rfl, -⟩
    · exact h.resident name hr
    · exact h.untried w rfl name hf
  · cases hw'
    exact h.untried w rfl name (List.mem_of_mem_erase hname)
  · have hfetches : g.fetches field = true := by
      refine Generation.fetches_of_builds ?_
      rw [h.coherent.view]
      exact hbuilds field (h.untried w rfl field hf)
    obtain ⟨hunfailed, hmissing⟩ := h.missing hbuilds
    refine ⟨fun w' hw' => ?_, fun name hname => ?_⟩
    · cases hw'
      rw [hok, hfetches, (hunfailed w rfl).1]
      exact ⟨rfl, fun htold => absurd (huntold.symm.trans htold) Bool.false_ne_true⟩
    · rw [hresident, hfetches]
      by_cases he : name = field
      · exact .inl (by simp [he])
      · rcases hmissing name hname with hr | ⟨w', hw', hm⟩
        · exact .inl (by simp [hr])
        · cases hw'
          exact .inr ⟨_, rfl, (List.mem_erase_of_ne he).mpr hm⟩

theorem told (h : Warmed opened fields (some w) g) (hdone : w.untried = [] ∨ w.failed = true) :
    Warmed opened fields (some { w with told := true }) g := by
  refine ⟨h.frame, h.coherent, h.resident, fun w' hw' => ?_, fun hbuilds => ?_,
    fun hnil => absurd hnil h.ne_nil⟩
  · cases hw'
    exact h.untried w rfl
  · obtain ⟨hunfailed, hmissing⟩ := h.missing hbuilds
    refine ⟨fun w' hw' => ?_, fun field hf => ?_⟩
    · cases hw'
      refine ⟨(hunfailed w rfl).1, fun _ => hdone.resolve_right ?_⟩
      rw [(hunfailed w rfl).1]
      exact Bool.false_ne_true
    · rcases hmissing field hf with hr | ⟨w', hw', hm⟩
      · exact .inl hr
      · cases hw'
        exact .inr ⟨_, rfl, hm⟩

/-- Giving back the hold of a live generation changes nothing else. -/
theorem gaveBack (h : Warmed opened fields (some w) g) (hlive : opened.lifecycle = .live)
    (htold : w.told = true) : Warmed opened fields none g.release := by
  have hback : g.release = g.decrement := Generation.release_of_live (h.lifecycle_eq.trans hlive)
  obtain ⟨terms, calls, hframe⟩ := h.frame
  rw [hback]
  refine ⟨⟨terms, calls, ?_⟩, h.coherent.congr rfl rfl rfl rfl rfl, h.resident,
    fun w' hw' => ?_, fun hbuilds => ⟨fun w' hw' => ?_, fun field hf => ?_⟩,
    fun hnil => absurd hnil h.ne_nil⟩
  · rw [hframe]
    rfl
  · cases hw'
  · cases hw'
  · obtain ⟨hunfailed, hmissing⟩ := h.missing hbuilds
    rcases hmissing field hf with hr | ⟨w', hw', hm⟩
    · exact .inl hr
    · cases hw'
      rw [(hunfailed w rfl).2 htold] at hm
      cases hm

/-- The tables of a generation: those that its view gives, and for the fields it was warmed with. -/
theorem get?_terms (h : Warmed opened fields left g) {field : String} {table : TermTable}
    (ht : g.caches.terms.get? field = some table) :
    field ∈ fields ∧ opened.view.answer (Session.buildTerms field) = .ok table :=
  ⟨h.resident field (Generation.resident_eq_true_iff.mpr ⟨table, ht⟩),
    h.coherent.terms field table ht⟩

/-- Once it has been told that the warming is done, no table is missing that could be built. -/
theorem get?_terms_of_built (h : Warmed opened fields left g)
    (htold : ∀ w ∈ left, w.told = true) (hbuilds : ∀ field ∈ fields, opened.view.Builds field)
    {field : String} (hf : field ∈ fields) {table : TermTable}
    (hbuilt : opened.view.answer (Session.buildTerms field) = .ok table) :
    g.caches.terms.get? field = some table := by
  obtain ⟨hunfailed, hmissing⟩ := h.missing hbuilds
  have hresident : g.resident field = true := by
    rcases hmissing field hf with hr | ⟨w, hw, hm⟩
    · exact hr
    · rw [(hunfailed w hw).2 (htold w hw)] at hm
      cases hm
  obtain ⟨found, hfound⟩ := Generation.resident_eq_true_iff.mp hresident
  rw [hfound, ← Except.ok.inj ((h.coherent.terms field found hfound).symm.trans hbuilt)]

end Warmed

/-! ## Installing -/

namespace Reader

variable {r : Reader} {opened : Generation}

/-- The reader has a generation that was opened to be warmed with some fields. -/
def Warms (r : Reader) (opened : Generation) (fields : List String) : Prop :=
  r.pool.Keyed ∧ ∃ g, r.pool.get? opened.number = some g ∧
    Warmed opened fields (r.warmings.get? opened.number) g

theorem Warms.advance (h : r.Warms opened fields) (hlive : opened.lifecycle = .live) (number : Nat)
    (step : WarmingStep) : (r.advance number step).Warms opened fields := by
  obtain ⟨hkeyed, g, hg, hwarmed⟩ := h
  refine ⟨keyed_advance hkeyed number step, ?_⟩
  by_cases hn : opened.number = number
  · subst hn
    have hstep := r.advances opened.number step
    generalize r.advance opened.number step = r' at hstep ⊢
    cases hstep with
    | idle => exact ⟨g, hg, hwarmed⟩
    | fetched w field found untried untold =>
      have hnumber := (Session.Reads.termTable field g).number.trans (hkeyed _ g hg)
      have hrun : (r.run opened.number (Session.termTable field)).1 =
          (g.run (Session.termTable field)).1 := by rw [Reader.run, Pool.run, hg]
      rw [found] at hwarmed
      refine ⟨_, (Pool.get?_update hg hnumber _).trans (if_pos rfl), ?_⟩
      rw [SortedMap.get?_insert_self, hrun]
      exact hwarmed.fetched untried untold
    | told w found done =>
      rw [found] at hwarmed
      refine ⟨g, hg, ?_⟩
      rw [SortedMap.get?_insert_self]
      exact hwarmed.told done
    | gaveBack w found told =>
      have hnumber := (Generation.number_release (g := g)).trans (hkeyed _ g hg)
      rw [found] at hwarmed
      refine ⟨_, (Pool.get?_update hg hnumber _).trans (if_pos rfl), ?_⟩
      rw [SortedMap.get?_erase, if_pos rfl]
      exact hwarmed.gaveBack hlive told
  · obtain ⟨hpool, hwarmings⟩ := get?_advance_of_ne hkeyed hn step
    rw [hpool, hwarmings]
    exact ⟨g, hg, hwarmed⟩

theorem Warms.proceed (h : r.Warms opened fields) (hlive : opened.lifecycle = .live)
    (events : List WarmingEvent) : (r.proceed events).Warms opened fields :=
  proceed_keeps (P := fun r => r.Warms opened fields)
    (fun _ number step hr => hr.advance hlive number step) events h

/-- Asking for the teardown of another generation makes no difference to the warming. -/
theorem Warms.markForDisposal (h : r.Warms opened fields) {number : Nat}
    (hne : opened.number ≠ number) (wait : Bool) :
    (r.markForDisposal number wait).Warms opened fields := by
  obtain ⟨hkeyed, g, hg, hwarmed⟩ := h
  have hnumber (g : Generation) : (g.markForDisposal wait).number = g.number :=
    Generation.number_markForDisposal wait
  exact ⟨hkeyed.update hnumber, g,
    (hkeyed.get?_update hnumber _).trans ((if_neg hne).trans hg), hwarmed⟩

theorem get?_startWarming_of_ne (h : r.pool.Keyed) {new k : Nat} (hk : k ≠ new) (old now : Nat) :
    (r.startWarming old new now).pool.get? k = r.pool.get? k := by
  have hheld := (h.get?_update (fun _ => Generation.number_tryHold) k).trans (if_neg hk)
  rw [← Pool.snd_tryHold] at hheld
  rw [startWarming]
  split
  · rfl
  · rcases ht : r.pool.tryHold new with ⟨_ | _, pool⟩ <;> rw [ht] at hheld <;> exact hheld

/-- A generation is warmed from its opening on. -/
theorem warms_startWarming (hkeyed : r.pool.Keyed) (view : View)
    (hunwarmed : r.warmings.get? r.next = none) {former : Generation} {number : Nat}
    (hne : number ≠ r.next) (hformer : r.pool.get? number = some former) (now : Nat) :
    ((r.openGeneration view).startWarming number r.next now).Warms
      { number := r.next, view, registration := some r.pool.notifier.next }
      (former.usedFields now r.config.prewarmMaxAge) := by
  let opened : Generation :=
    { number := r.next, view, registration := some r.pool.notifier.next }
  let fields := former.usedFields now r.config.prewarmMaxAge
  have hget (k : Nat) : (r.openGeneration view).pool.get? k =
      if k = r.next then some opened else r.pool.get? k := Pool.get?_openGeneration ..
  have hopened : (r.openGeneration view).pool.get? r.next = some opened :=
    (hget r.next).trans (if_pos rfl)
  have hkeyed' : (r.openGeneration view).pool.Keyed := hkeyed.openGeneration r.next view true
  have hfields : (r.openGeneration view).usedFields number now = fields := by
    rw [usedFields, hget, if_neg hne, hformer]
    rfl
  have hlive : opened.tryHold = (true, opened.acquire) := Generation.tryHold_of_live rfl
  have hhold : (r.openGeneration view).pool.tryHold r.next =
      (true, (r.openGeneration view).pool.put opened opened.acquire) := by
    rw [Pool.tryHold, hopened]
    dsimp only
    rw [hlive]
  rw [startWarming, hfields, hhold]
  split
  · rename_i hnil
    have hnil : fields = [] := List.isEmpty_iff.mp hnil
    refine ⟨hkeyed', opened, hopened, ?_⟩
    rw [show former.usedFields now r.config.prewarmMaxAge = [] from hnil]
    change Warmed opened [] (r.warmings.get? r.next) opened
    rw [hunwarmed]
    exact .idle r.next view _
  · rename_i hsome
    have hsome : fields ≠ [] := fun hnil => hsome (List.isEmpty_iff.mpr hnil)
    refine ⟨hkeyed'.put opened opened.acquire, opened.acquire,
      (Pool.get?_put ..).trans (if_pos rfl), ?_⟩
    change Warmed opened fields ((r.warmings.insert r.next { untried := fields }).get? r.next) _
    rw [SortedMap.get?_insert_self]
    exact .fresh r.next view _ hsome

/-- An installation leaves the new generation to its warming.  The former one is live while the
installation waits; from then on it is released as soon as nobody holds it. -/
theorem warms_install (hkeyed : r.pool.Keyed) (hunwarmed : r.warmings.get? r.next = none)
    (hne : r.current ≠ r.next) {former : Generation} (hformer : r.pool.get? r.current = some former)
    (hlive : former.lifecycle = .live) (view : View) (wait : Bool) (now : Nat)
    (events : List WarmingEvent) :
    (r.install view wait now events).current = r.next ∧
      (r.install view wait now events).Warms
        { number := r.next, view, registration := some r.pool.notifier.next }
        (former.usedFields now r.config.prewarmMaxAge) ∧
      ∃ old, (r.install view wait now events).pool.get? r.current = some old ∧ old.Retired := by
  let started := (r.openGeneration view).startWarming r.current r.next now
  have hthere : started.pool.get? r.current = some former :=
    (get?_startWarming_of_ne (hkeyed.openGeneration r.next view true) hne r.current now).trans
      ((Pool.get?_openGeneration ..).trans ((if_neg hne).trans hformer))
  obtain ⟨before, after, -, hinstall, -⟩ := r.install_eq view wait now events
  have hinstall : r.install view wait now events =
    ((started.proceed before).markForDisposal r.current wait).proceed after := hinstall
  have hstarted := warms_startWarming hkeyed view hunwarmed hne hformer now
  have hwaited := hstarted.proceed rfl before
  have hmarked := hwaited.markForDisposal hne.symm wait
  rw [hinstall]
  refine ⟨?_, hmarked.proceed rfl after, ?_⟩
  · rw [(beside_proceed _ after).current]
    exact (beside_proceed started before).current.trans (beside_startWarming ..).current
  -- While it waits, giving back a hold leaves the former generation live.
  · obtain ⟨g, hg, hlive⟩ := proceed_keeps_of_read (P := fun g => g.lifecycle = .live)
      (fun g field h => (Session.Reads.termTable field g).lifecycle.trans h)
      (fun _ h => (congrArg _ (Generation.release_of_live h)).trans h)
      hstarted.1 ⟨former, hthere, hlive⟩ before
    have hmark := (hwaited.1.get?_update (fun _ => Generation.number_markForDisposal wait)
      r.current).trans ((if_pos rfl).trans (congrArg _ hg))
    exact proceed_keeps_of_read (fun _ field h => h.read field) (fun _ h => h.release) hmarked.1
      ⟨_, hmark, Generation.retired_markForDisposal hlive wait⟩ after

end Reader

namespace Diary

/-- A view is installed over the current generation of a reader, whatever has been done to the
reader and to its generations, if only that generation is still live, and warmings go on during the
installation and after it.  The new generation becomes current and live whether its tables can be
built or not, and the former one is superseded, and released as soon as nobody holds it.  The term
tables of the new generation are those that its view gives, and belong to fields whose use on the
former generation, since the caches of that were last cleared, is young enough.  If all uses are,
and the tables of those fields can be built, then none of the fields is missing once it has been
told that the warming is done.  Nothing else is cached.  Nobody but the warming holds the new
generation: telling comes before giving back, so the hold can outlast an installation that has waited
for the warming, but there is always a way to its end. -/
theorem warm_after_install (name : String) (config : Config) (first : View) (deeds : List Deed)
    (view : View) (wait : Bool) (now : Nat) (events later : List WarmingEvent)
    {former : Generation} :
    let d := after name config first deeds
    let r := d.lending.reader
    let r' := (r.install view wait now events).proceed later
    let uses := d.uses r.current
    r.pool.get? r.current = some former → former.lifecycle = .live →
    r'.current = r.next ∧ r.current < r.next ∧
    ∃ old new, r'.pool.get? r.current = some old ∧ r'.pool.get? r'.current = some new ∧
      old.lifecycle = (if old.usage = 0 then .released else .superseded) ∧
      new.lifecycle = .live ∧ new.view = view ∧
      new.usage = (if r'.warmings.contains r'.current then 1 else 0) ∧
      new.caches.numbers = ∅ ∧ new.caches.values = ∅ ∧ new.caches.uses = ∅ ∧
      (config.prewarmMaxAge = 0 →
        new.caches.terms = ∅ ∧ new.calls = [] ∧ r'.warmings.contains r'.current = false) ∧
      (∀ field table, new.caches.terms.get? field = some table →
        view.answer (Session.buildTerms field) = .ok table ∧
          ∃ time, (field, time) ∈ uses ∧ now - time < config.prewarmMaxAge) ∧
      (r'.isWarming r'.current = false →
        (∀ field time, (field, time) ∈ uses →
          now - time < config.prewarmMaxAge ∧ view.Builds field) →
        ∀ field table, new.caches.terms.get? field = some table ↔
          (∃ time, (field, time) ∈ uses) ∧
            view.answer (Session.buildTerms field) = .ok table) ∧
      ∃ more, (r'.proceed more).warmings.contains r'.current = false := by
  intro d r r' uses hformer hlive
  have hkept : r.Noted config d.uses := kept_after name config first deeds
  -- A release would have lost the uses, but the former generation is still live.
  have hnoted : former.caches.uses = lastUses uses := by
    refine ((hkept.pool.accounted r.current former hformer).unreleased ?_).2
    rw [hlive]
    decide
  obtain ⟨hcurrent, hwarms, hold⟩ := Reader.warms_install hkept.pool.keyed
    (hkept.unwarmed r.next (Nat.le_refl _)) (Nat.ne_of_lt hkept.current_lt) hformer hlive view wait
    now events
  rw [hkept.config_eq] at hwarms
  let opened : Generation :=
    { number := r.next, view, registration := some r.pool.notifier.next }
  let fields := former.usedFields now config.prewarmMaxAge
  have hfields (field : String) : field ∈ fields ↔
      ∃ time, (field, time) ∈ uses ∧ now - time < config.prewarmMaxAge :=
    Generation.mem_usedFields hnoted now config.prewarmMaxAge
  obtain ⟨old, hold, hretired⟩ := Reader.proceed_keeps_of_read
    (fun _ field h => h.read field) (fun _ h => h.release) hwarms.1 hold later
  obtain ⟨hkeyed, new, hnew, hwarmed⟩ := hwarms.proceed rfl later
  have hcurrent' : r'.current = r.next := (Reader.beside_proceed _ later).current.trans hcurrent
  have hnew : r'.pool.get? r.next = some new := hnew
  have hwarmed : Warmed opened fields (r'.warmings.get? r.next) new := hwarmed
  obtain ⟨terms, calls, hframe⟩ := hwarmed.frame
  rw [hcurrent']
  refine ⟨rfl, hkept.current_lt, old, new, hold, hnew, hretired, hwarmed.lifecycle_eq, ?_,
    hwarmed.usage_eq, ?_, ?_, ?_, fun hzero => ?_, fun field table htable => ?_,
    fun hdone hyoung field table => ⟨fun htable => ?_, fun ⟨⟨time, huse⟩, hbuilt⟩ => ?_⟩, ?_⟩
  iterate 4
    · rw [hframe]
  · have hnone : fields = [] := by
      change former.usedFields now config.prewarmMaxAge = []
      rw [hzero]
      exact former.usedFields_zero now
    obtain ⟨hsame, hnever⟩ := hwarmed.unasked hnone
    rw [hsame, SortedMap.contains, hnever]
    exact ⟨rfl, rfl, rfl⟩
  · obtain ⟨hf, hbuilt⟩ := hwarmed.get?_terms htable
    exact ⟨hbuilt, (hfields field).mp hf⟩
  · obtain ⟨hf, hbuilt⟩ := hwarmed.get?_terms htable
    obtain ⟨time, huse, -⟩ := (hfields field).mp hf
    exact ⟨⟨time, huse⟩, hbuilt⟩
  · refine hwarmed.get?_terms_of_built (fun w hw => ?_) (fun other hother => ?_) ?_ hbuilt
    · rw [Reader.isWarming, Option.mem_def.mp hw] at hdone
      simpa using hdone
    · obtain ⟨time, huse, -⟩ := (hfields other).mp hother
      exact (hyoung other time huse).2
    · exact (hfields field).mpr ⟨time, huse, (hyoung field time huse).1⟩
  · obtain ⟨⟨more, hmore⟩, hover⟩ := Reader.exists_settle hkeyed r.next
    exact ⟨more, by rw [hmore]; exact hover⟩

/-- The use of a size is forgotten when memory is low; a facet request over the colors comes after
that.  The generation that it ran on is still held when the next one is installed, whose warming has
its one table within the wait, and gives back its hold when the installation is over. -/
theorem warm_after_install_twoColors :
    let executor : FacetExecutor := { maxPageSize := 10, declared := fun _ => none }
    let request : FacetRequest := { search := { query := .all }, facets := [{ name := "color" }] }
    let d := after "colors" {} twoColors
      [.recordUse 0 "size" 3, .reader .lowMemory, .reader (.runFacets executor request 5),
        .reader .checkOut]
    let installed := (d.lending.reader.install twoColors true 8
      [⟨0, 1, .fetch "color"⟩, ⟨2, 1, .tell⟩]).proceed [⟨0, 1, .giveBack⟩]
    d.uses 0 = [("color", 5)] ∧ ∃ old new, installed.pool.get? 0 = some old ∧
      installed.pool.get? 1 = some new ∧ old.lifecycle = .superseded ∧ new.lifecycle = .live ∧
      new.usage = 0 ∧
      ∀ field table, new.caches.terms.get? field = some table ↔
        field = "color" ∧ twoColors.answer (Session.buildTerms field) = .ok table := by
  intro executor request d installed
  have hcurrent : d.lending.reader.current = 0 := by decide +kernel
  have hnext : d.lending.reader.next = 1 := by decide +kernel
  have huses : d.uses 0 = [("color", 5)] := by decide +kernel
  have hheld : (d.lending.reader.pool.get? 0).map Generation.lifecycle = some .live := by
    decide +kernel
  have hreleased : (installed.pool.get? 0).map Generation.usage = some 1 := by decide +kernel
  have hover : installed.warmings.contains 1 = false := by decide +kernel
  have hdone : installed.isWarming 1 = false := by decide +kernel
  obtain ⟨former, hformer, hlive⟩ := Option.map_eq_some_iff.mp hheld
  rw [← hcurrent] at hformer
  obtain ⟨hinstalled, -, old, new, hold, hnew, hstage, hlive', -, husage, -, -, -, -, -, hall, -⟩ :=
    warm_after_install "colors" {} twoColors [.recordUse 0 "size" 3, .reader .lowMemory,
      .reader (.runFacets executor request 5), .reader .checkOut] twoColors true 8
      [⟨0, 1, .fetch "color"⟩, ⟨2, 1, .tell⟩] [⟨0, 1, .giveBack⟩] hformer hlive
  have hinstalled : installed.current = 1 := hinstalled.trans hnext
  have hold : installed.pool.get? d.lending.reader.current = some old := hold
  have hnew : installed.pool.get? installed.current = some new := hnew
  have husage : new.usage = if installed.warmings.contains installed.current then 1 else 0 := husage
  rw [hcurrent] at hold
  rw [hinstalled] at hnew husage
  rw [hover] at husage
  rw [hold] at hreleased
  rw [Option.some.inj hreleased, if_neg Nat.one_ne_zero] at hstage
  have huses' : d.uses d.lending.reader.current = [("color", 5)] := hcurrent.symm ▸ huses
  have hcolor : twoColors.Builds "color" := ⟨_, rfl⟩
  have hyoung : ∀ field time, (field, time) ∈ d.uses d.lending.reader.current →
      8 - time < 600000 ∧ twoColors.Builds field := by
    rw [huses']
    intro field time huse
    cases List.mem_singleton.mp huse
    exact ⟨by decide, hcolor⟩
  refine ⟨huses, old, new, hold, hnew, hstage, hlive', husage, fun field table => ?_⟩
  have hiff : _ ↔ (∃ time, (field, time) ∈ d.uses d.lending.reader.current) ∧ _ :=
    hall (hinstalled.symm ▸ hdone) hyoung field table
  rw [hiff, huses']
  simp

/-- Waiting for a warming is over when it has told that it is done.  It gives back its hold after
that, so an installation that has waited can leave a generation held that nobody has checked out. -/
theorem held_after_install :
    let d := after "colors" {} twoColors [.recordUse 0 "color" 3]
    let installed := d.lending.reader.install twoColors false 8
      [⟨0, 1, .fetch "color"⟩, ⟨2, 1, .tell⟩]
    d.uses 0 = [("color", 3)] ∧ (d.lending.reader.pool.get? 0).map Generation.lifecycle = some .live ∧
      8 - 3 < d.lending.reader.config.prewarmMaxAge ∧ 2 ≤ d.lending.reader.config.prewarmWait ∧
      installed.current = 1 ∧ installed.isWarming 1 = false ∧
      (installed.pool.get? 1).map (fun g => (g.lifecycle, g.caches.terms.keys, g.usage)) =
        some (.live, ["color"], 1) := by
  decide +kernel

end Diary

end FacetedSearch
