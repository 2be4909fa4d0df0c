import FacetedSearch.Proofs.Facet.ScanCount
import FacetedSearch.Proofs.Reader.Use

/-!
# FacetedSearch.Proofs.Reader.Diary — the uses noted since the caches were cleared

A `Diary` goes along with a reader and notes, for each generation, every use of a facet field, until
memory is low and the notes are thrown away.  A generation that has not been released is registered,
so it clears its caches whenever the notes are thrown away; and the last uses that it keeps are
those of the diary (`kept_after`).
-/

namespace FacetedSearch

variable {v : View} {g g' g'' : Generation} {l l' l'' : List (String × Nat)}

/-! ## One generation -/

namespace Generation

/-- Until it is released the second generation has the registration of the first, and where the
first keeps the last of some uses the second keeps the last of some others. -/
structure Keeps (l l' : List (String × Nat)) (g g' : Generation) : Prop where
  number : g'.number = g.number
  registration : g'.registration = g.registration ∨ g'.registration = none
  unreleased : g'.lifecycle ≠ .released →
    g.lifecycle ≠ .released ∧ g'.registration = g.registration ∧
      (g.caches.uses = lastUses l → g'.caches.uses = lastUses l')

namespace Keeps

theorem of_eq (hn : g'.number = g.number) (hr : g'.registration = g.registration)
    (hl : g'.lifecycle = g.lifecycle) (hu : g'.caches.uses = g.caches.uses) : Keeps l l g g' :=
  ⟨hn, .inl hr, fun h => ⟨hl ▸ h, hr, hu.trans⟩⟩

theorem refl (g : Generation) : Keeps l l g g := of_eq rfl rfl rfl rfl

theorem trans (h : Keeps l l' g g') (h' : Keeps l' l'' g' g'') : Keeps l l'' g g'' := by
  refine ⟨h'.number.trans h.number, ?_, fun hl => ?_⟩
  · rcases h'.registration with hr | hr
    · rw [hr]
      exact h.registration
    · exact .inr hr
  · obtain ⟨hl', hr', hu'⟩ := h'.unreleased hl
    obtain ⟨hl, hr, hu⟩ := h.unreleased hl'
    exact ⟨hl, hr'.trans hr, hu' ∘ hu⟩

/-- Reading adds to the uses. -/
theorem run {α : Type} {s : Session α} (hs : s.Reads) (later : List (String × Nat)) (g : Generation)
    (hu : (g.run s).2.caches.uses = later.foldl noteUse g.caches.uses) :
    Keeps l (l ++ later) g (g.run s).2 := by
  have hr := hs g
  refine ⟨hr.number, .inl hr.registration, fun hl => ⟨hr.lifecycle ▸ hl, hr.registration, ?_⟩⟩
  intro hlast
  rw [hu, hlast, lastUses_append]

/-- A session that notes no use. -/
theorem discreet {α : Type} {s : Session α} (hs : s.Reads) (hd : s.Discreet) (g : Generation) :
    Keeps l l g (g.run s).2 :=
  of_eq (hs g).number (hs g).registration (hs g).lifecycle (hd g)

theorem acquire (g : Generation) : Keeps l l g g.acquire := of_eq rfl rfl rfl rfl

theorem decrement (g : Generation) : Keeps l l g g.decrement := of_eq rfl rfl rfl rfl

theorem withView (g : Generation) (view : View) : Keeps l l g { g with view } :=
  of_eq rfl rfl rfl rfl

theorem offerSignal (g : Generation) (wait : Bool) : Keeps l l g (g.offerSignal wait) := by
  rw [Generation.offerSignal]
  split <;> exact of_eq rfl rfl rfl rfl

theorem giveSignal (g : Generation) (wait : Bool) : Keeps l l g (g.giveSignal wait) := by
  rw [Generation.giveSignal]
  split <;> exact of_eq rfl rfl rfl rfl

theorem clearCaches (g : Generation) : Keeps l [] g g.clearCaches :=
  ⟨rfl, .inl rfl, fun h => ⟨h, rfl, fun _ => rfl⟩⟩

theorem supersede (g : Generation) : Keeps l l g g.supersede := by
  rw [Generation.supersede]
  split
  · rename_i hlive
    refine ⟨rfl, .inl rfl, fun _ => ⟨?_, rfl, id⟩⟩
    rw [hlive]
    decide
  · exact refl g

theorem tearDown (g : Generation) : Keeps l l g g.tearDown := by
  rw [Generation.tearDown]
  split
  · exact ⟨rfl, .inr rfl, fun h => absurd rfl h⟩
  · exact refl g

theorem release (g : Generation) : Keeps l l g g.release := by
  rw [Generation.release]
  split
  · exact (decrement g).trans (tearDown _)
  · exact decrement g

theorem tryHold (g : Generation) : Keeps l l g g.tryHold.2 := by
  rw [Generation.tryHold]
  split
  · exact (acquire g).trans (release _)
  · exact acquire g

theorem markForDisposal (g : Generation) (wait : Bool) : Keeps l l g (g.markForDisposal wait) := by
  rw [markForDisposal_eq]
  exact ((((offerSignal g wait).trans (acquire _)).trans (supersede _)).trans (release _)).trans
    (giveSignal _ wait)

end Keeps

/-- The uses of a generation since its caches were cleared, after one act. -/
def usesAfter (g : Generation) (uses : List (String × Nat)) : LifeAct v → List (String × Nat)
  | .read (.runFacets executor request now) =>
    uses ++ (executor.used request g).map fun field => (field, now)
  | .read (.isCached field now) => uses ++ [(field, now)]
  | .read .lowMemory => []
  | _ => uses

theorem keeps_undergo (g : Generation) (uses : List (String × Nat)) (a : LifeAct v) :
    Keeps uses (g.usesAfter uses a) g (g.undergo a) := by
  cases a with
  | read a =>
    cases a with
    | runFacets executor request now =>
      exact .run (Session.Reads.closed.execute executor request now) _ g
        (executor.uses_execute request now g)
    | termTable field => exact .discreet (.termTable field) (.termTable field) g
    | numberTable field type => exact .discreet (.numberTable field type) (.numberTable field type) g
    | setTermTable field table _ =>
      exact .discreet (.setTermTable field table) (.setTermTable field table) g
    | isCached field now => exact .run (.isCached field now) _ g rfl
    | documentTerms => exact .discreet .documentTerms .documentTerms g
    | fieldValues d fields => exact .discreet (.fieldValues d fields) (.fieldValues d fields) g
    | prewarm fields =>
      rw [undergo, Generation.read]
      split
      · exact ((Keeps.tryHold g).trans
          (.discreet (Session.Reads.closed.warm fields) (.warm fields) _)).trans (.release _)
      · exact .tryHold g
    | lowMemory => exact .clearCaches g
  | acquire => exact .acquire g
  | release => exact .release g
  | tryHold => exact .tryHold g
  | mark wait => exact .markForDisposal g wait

end Generation

/-! ## Generations that share a notifier -/

/-- A generation of a number: the notifier lists it under its registration, and until it is released
it has one and keeps the last of its uses. -/
structure Accounted (notifier : Notifier Nat) (number : Nat) (uses : List (String × Nat))
    (g : Generation) : Prop where
  number_eq : g.number = number
  listed : ∀ id, g.registration = some id → notifier.handlers.get? id = some number
  unreleased : g.lifecycle ≠ .released →
    (∃ id, g.registration = some id) ∧ g.caches.uses = lastUses uses

namespace Accounted

variable {notifier notifier' : Notifier Nat} {number : Nat}

/-- A generation stays accounted for if its registration, where it keeps it, stays listed. -/
theorem of_keeps (h : Accounted notifier number l g) (hk : g.Keeps l l' g')
    (hlist : ∀ id, g'.registration = some id →
      notifier'.handlers.get? id = notifier.handlers.get? id) :
    Accounted notifier' number l' g' := by
  refine ⟨hk.number.trans h.number_eq, fun id hr => ?_, fun hl => ?_⟩
  · rw [hlist id hr]
    refine h.listed id ?_
    rcases hk.registration with heq | hgone
    · rw [← heq, hr]
    · rw [hgone] at hr
      cases hr
  · obtain ⟨hl, hr, hu⟩ := hk.unreleased hl
    obtain ⟨hregistered, huses⟩ := h.unreleased hl
    rw [hr]
    exact ⟨hregistered, hu huses⟩

theorem congr (h : Accounted notifier number l g)
    (hlist : ∀ id, g.registration = some id →
      notifier'.handlers.get? id = notifier.handlers.get? id) : Accounted notifier' number l g :=
  h.of_keeps (.refl g) hlist

end Accounted

namespace Pool

variable {p : Pool} {next number : Nat} {uses : Nat → List (String × Nat)}

/-- Generations with numbers below a next one, each of which is accounted for with its uses. -/
structure Noted (p : Pool) (next : Nat) (uses : Nat → List (String × Nat)) : Prop where
  absent : ∀ k, next ≤ k → p.get? k = none
  blank : ∀ k, p.get? k = none → uses k = []
  issued : ∀ id k, p.notifier.handlers.get? id = some k → id < p.notifier.next
  accounted : ∀ k g, p.get? k = some g → Accounted p.notifier k (uses k) g

/-- A change takes a generation off the notifier where it gives up its registration. -/
theorem handlers_update {f : Generation → Generation} (hg : p.get? number = some g)
    (hr : (f g).registration = g.registration ∨ (f g).registration = none) :
    (p.update number f).notifier.next = p.notifier.next ∧
      ∀ id, (p.update number f).notifier.handlers.get? id =
        if g.registration = some id ∧ (f g).registration = none then none
        else p.notifier.handlers.get? id := by
  rw [notifier_update hg]
  cases hformer : g.registration with
  | none => exact ⟨rfl, fun id => by simp⟩
  | some former =>
    rw [hformer] at hr
    rcases hr with hr | hr <;> rw [hr]
    · exact ⟨rfl, fun id => by simp⟩
    · refine ⟨rfl, fun id => SortedMap.get?_erase.trans ?_⟩
      simp [eq_comm]

namespace Noted

theorem keyed (h : p.Noted next uses) : p.Keyed := fun k g hg => (h.accounted k g hg).number_eq

/-- A change of one generation, with what it adds to its uses. -/
theorem update (h : p.Noted next uses) {f : Generation → Generation} {after : List (String × Nat)}
    (hf : ∀ g, p.get? number = some g → g.Keeps (uses number) after (f g))
    (hnone : p.get? number = none → after = []) :
    (p.update number f).Noted next (Function.update uses number after) := by
  cases hg : p.get? number with
  | none =>
    have hsame : Function.update uses number after = uses := by
      rw [hnone hg, ← h.blank number hg, Function.update_eq_self]
    rw [hsame, Pool.update, hg]
    exact h
  | some g =>
    have hkeeps := hf g hg
    have hformer := h.accounted number g hg
    have hget := get?_update hg (hkeeps.number.trans hformer.number_eq)
    obtain ⟨hnext, hhandlers⟩ := handlers_update hg hkeeps.registration
    refine ⟨fun k hk => ?_, fun k hk => ?_, fun id k hid => ?_, fun k g' hk => ?_⟩
    · have habsent := h.absent k hk
      rw [hget, if_neg, habsent]
      rintro rfl
      rw [hg] at habsent
      cases habsent
    · rw [hget] at hk
      split at hk
      · cases hk
      · rename_i hne
        rw [Function.update_of_ne hne]
        exact h.blank k hk
    · rw [hhandlers] at hid
      rw [hnext]
      split at hid
      · cases hid
      · exact h.issued id k hid
    · rw [hget] at hk
      split at hk
      · rename_i heq
        cases hk
        rw [heq, Function.update_self]
        exact hformer.of_keeps hkeeps fun id hr => by rw [hhandlers, if_neg (by simp [hr])]
      · rename_i hne
        have hother := h.accounted k g' hk
        rw [Function.update_of_ne hne]
        refine hother.congr fun id hr => ?_
        rw [hhandlers, if_neg]
        rintro ⟨hid, -⟩
        exact hne (Option.some.inj ((hother.listed id hr).symm.trans (hformer.listed id hid)))

/-- A change of one generation that adds nothing to its uses. -/
theorem quiet (h : p.Noted next uses) {f : Generation → Generation}
    (hf : ∀ g : Generation, g.Keeps (uses number) (uses number) (f g)) :
    (p.update number f).Noted next uses := by
  have hupdate := h.update (fun g _ => hf g) (h.blank number)
  rwa [Function.update_eq_self] at hupdate

theorem openGeneration (h : p.Noted next uses) (view : View) :
    (p.openGeneration next view true).Noted (next + 1) uses := by
  have hget := get?_openGeneration p next view true
  have hhandlers (id : Nat) : (p.openGeneration next view true).notifier.handlers.get? id =
      if id = p.notifier.next then some next else p.notifier.handlers.get? id :=
    SortedMap.get?_insert
  refine ⟨fun k hk => ?_, fun k hk => ?_, fun id k hid => ?_, fun k g hk => ?_⟩
  · rw [hget, if_neg (by omega)]
    exact h.absent k (by omega)
  · rw [hget] at hk
    split at hk
    · cases hk
    · exact h.blank k hk
  · rw [hhandlers] at hid
    split at hid
    · rename_i heq
      rw [heq]
      exact Nat.lt_succ_self _
    · exact Nat.lt_succ_of_lt (h.issued id k hid)
  · rw [hget] at hk
    split at hk
    · rename_i heq
      cases hk
      rw [heq, h.blank next (h.absent next (Nat.le_refl next))]
      refine ⟨rfl, fun id hr => ?_, fun _ => ⟨⟨_, rfl⟩, rfl⟩⟩
      cases hr
      exact (hhandlers _).trans (if_pos rfl)
    · have hother := h.accounted k g hk
      refine hother.congr fun id hr => ?_
      rw [hhandlers, if_neg (Nat.ne_of_lt (h.issued id k (hother.listed id hr)))]

/-- A generation that has not been released is on the notifier. -/
theorem mem_live (h : p.Noted next uses) {g : Generation} (hg : p.get? number = some g)
    (hl : g.lifecycle ≠ .released) : number ∈ p.notifier.live fun _ => true := by
  obtain ⟨⟨id, hid⟩, -⟩ := (h.accounted number g hg).unreleased hl
  have hentry := SortedMap.get?_eq_some_iff.mp ((h.accounted number g hg).listed id hid)
  exact List.mem_filter.mpr ⟨List.mem_map_of_mem (f := Prod.snd) hentry, rfl⟩

/-- When memory is low, nothing is kept. -/
theorem lowMemory (h : p.Noted next uses) : p.lowMemory.2.Noted next fun _ => [] := by
  have hget := h.keyed.get?_lowMemory
  have hnotifier := notifier_lowMemory p
  refine ⟨fun k hk => ?_, fun _ _ => rfl, hnotifier.symm ▸ h.issued, fun k g' hk => ?_⟩
  · rw [hget, h.absent k hk]
    split <;> rfl
  · rw [hnotifier]
    rw [hget] at hk
    split at hk
    · obtain ⟨g, hg, rfl⟩ := Option.map_eq_some_iff.mp hk
      exact (h.accounted k g hg).of_keeps (.clearCaches g) fun _ _ => rfl
    · rename_i hunlisted
      have hother := h.accounted k g' hk
      exact ⟨hother.number_eq, hother.listed, fun hl => absurd (h.mem_live hk hl) hunlisted⟩

end Noted

namespace Noted

theorem tryHold (h : p.Noted next uses) (number : Nat) : (p.tryHold number).2.Noted next uses := by
  rw [snd_tryHold]
  exact h.quiet fun g => .tryHold g

theorem release (h : p.Noted next uses) (number : Nat) : (p.release number).Noted next uses :=
  h.quiet fun g => .release g

theorem markForDisposal (h : p.Noted next uses) (number : Nat) (wait : Bool) :
    (p.markForDisposal number wait).Noted next uses :=
  h.quiet fun g => .markForDisposal g wait

theorem run {α : Type} {s : Session α} (hs : s.Reads) (hd : s.Discreet) (h : p.Noted next uses)
    (number : Nat) (missing : Except Error α) : (p.run number s missing).2.Noted next uses := by
  rw [snd_run]
  exact h.quiet fun g => .discreet hs hd g

end Noted

end Pool

/-! ## A reader -/

namespace Reader

variable {r : Reader} {config : Config} {uses : Nat → List (String × Nat)}

/-- A reader with a configuration, whose current generation has been opened and whose generations
keep their last uses; what has not been opened is not warmed. -/
structure Noted (r : Reader) (config : Config) (uses : Nat → List (String × Nat)) : Prop where
  config_eq : r.config = config
  current_lt : r.current < r.next
  pool : r.pool.Noted r.next uses
  unwarmed : ∀ number, r.next ≤ number → r.warmings.get? number = none

namespace Noted

theorem withPool (h : r.Noted config uses) {pool : Pool} {uses' : Nat → List (String × Nat)}
    (hp : pool.Noted r.next uses') : (r.withPool pool).Noted config uses' :=
  ⟨h.config_eq, h.current_lt, hp, h.unwarmed⟩

/-- Only what has been opened is warmed. -/
theorem lt_of_warming (h : r.Noted config uses) {number : Nat} {w : Warming}
    (hw : r.warmings.get? number = some w) : number < r.next := by
  by_contra hle
  rw [h.unwarmed number (Nat.le_of_not_lt hle)] at hw
  cases hw

theorem unwarmed_insert (h : r.Noted config uses) {number : Nat} (hlt : number < r.next)
    (w : Warming) (n : Nat) (hn : r.next ≤ n) : (r.warmings.insert number w).get? n = none :=
  SortedMap.get?_insert.trans ((if_neg (by omega)).trans (h.unwarmed n hn))

theorem checkOutWithin (h : r.Noted config uses) (attempts : Nat) :
    (r.checkOutWithin attempts).2.Noted config uses := by
  induction attempts generalizing r with
  | zero => exact h
  | succ attempts ih =>
    have hheld := h.withPool (h.pool.tryHold r.current)
    rw [Reader.checkOutWithin]
    dsimp only
    split
    · exact hheld
    · exact ih hheld

theorem checkOut (h : r.Noted config uses) : r.checkOut.2.Noted config uses := h.checkOutWithin _

theorem checkOutWithTerms (h : r.Noted config uses) :
    r.checkOutWithTerms.2.Noted config uses := by
  have hheld := h.checkOut
  rw [Reader.checkOutWithTerms]
  rcases hc : r.checkOut with ⟨e | number, r'⟩ <;> rw [hc] at hheld
  · exact hheld
  · have hread := hheld.withPool (hheld.pool.run Session.Reads.documentTerms
      Session.Discreet.documentTerms number (.error (.noLiveGeneration r'.name 0)))
    dsimp only [Reader.run]
    rcases hr : r'.pool.run number Session.documentTerms (.error (.noLiveGeneration r'.name 0)) with
      ⟨e | terms, pool⟩ <;> rw [hr] at hread
    · exact hread.withPool (hread.pool.release number)
    · exact hread

theorem advance (h : r.Noted config uses) (number : Nat) (step : WarmingStep) :
    (r.advance number step).Noted config uses := by
  have hstep := r.advances number step
  generalize r.advance number step = r' at hstep ⊢
  cases hstep with
  | idle => exact h
  | fetched w field found =>
    have hread := h.pool.run (Session.Reads.termTable field) (.termTable field) number
      (.error (.noLiveGeneration r.name 0))
    rw [Pool.snd_run] at hread
    exact ⟨h.config_eq, h.current_lt, hread, h.unwarmed_insert (h.lt_of_warming found) _⟩
  | told w found =>
    exact ⟨h.config_eq, h.current_lt, h.pool, h.unwarmed_insert (h.lt_of_warming found) _⟩
  | gaveBack w found =>
    refine ⟨h.config_eq, h.current_lt, h.pool.release number, fun n hn => ?_⟩
    rw [SortedMap.get?_erase]
    split
    · rfl
    · exact h.unwarmed n hn

theorem proceed (h : r.Noted config uses) (events : List WarmingEvent) :
    (r.proceed events).Noted config uses :=
  proceed_keeps (P := fun r => r.Noted config uses)
    (fun _ number step hr => hr.advance number step) events h

theorem openGeneration (h : r.Noted config uses) (view : View) :
    (r.openGeneration view).Noted config uses :=
  ⟨h.config_eq, Nat.lt_succ_self _, h.pool.openGeneration view,
    fun n hn => h.unwarmed n (Nat.le_of_succ_le hn)⟩

theorem startWarming (h : r.Noted config uses) {new : Nat} (hnew : new < r.next) (old now : Nat) :
    (r.startWarming old new now).Noted config uses := by
  have hheld := h.pool.tryHold new
  rcases ht : r.pool.tryHold new with ⟨held, pool⟩
  rw [ht] at hheld
  rw [Reader.startWarming, ht]
  split
  · exact h
  · cases held with
    | false => exact h.withPool hheld
    | true => exact ⟨h.config_eq, h.current_lt, hheld, h.unwarmed_insert hnew _⟩

theorem install (h : r.Noted config uses) (view : View) (wait : Bool) (now : Nat)
    (events : List WarmingEvent) : (r.install view wait now events).Noted config uses := by
  obtain ⟨before, after, -, hinstall, -⟩ := r.install_eq view wait now events
  have hwaited := ((h.openGeneration view).startWarming (Nat.lt_succ_self r.next)
    r.current now).proceed before
  have hmarked := hwaited.withPool (hwaited.pool.markForDisposal r.current wait)
  rw [hinstall]
  exact hmarked.proceed after

end Noted

end Reader

/-! ## The diary -/

/-- What is done to a reader, and to the generation of a number by those who have it in hand. -/
inductive Deed
  | reader (a : ReaderAct)
  | generation (number : Nat) {v : View} (a : LifeAct v)
  /-- Note the use of a facet field on a generation. -/
  | recordUse (number : Nat) (field : String) (now : Nat)

/-- A reader with its handles, and the uses of facet fields on each generation since its caches were
cleared, each with its time. -/
structure Diary where
  lending : Lending
  uses : Nat → List (String × Nat) := fun _ => []

/-- Change a generation of a reader. -/
def Lending.update (l : Lending) (number : Nat) (f : Generation → Generation) : Lending :=
  { l with reader := l.reader.withPool (l.reader.pool.update number f) }

namespace Diary

/-- What becomes of the reader. -/
def lendingAfter (d : Diary) : Deed → Lending
  | .reader a => d.lending.act a
  | .generation number a => d.lending.update number fun g => g.undergo a
  | .recordUse number field now =>
    d.lending.update number fun g => (g.run (Session.recordUse field now)).2

/-- The uses with those of one generation, if it is there, changed. -/
def change (d : Diary) (pool : Pool) (number : Nat)
    (f : Generation → List (String × Nat) → List (String × Nat)) : Nat → List (String × Nat) :=
  match pool.get? number with
  | some g => Function.update d.uses number (f g (d.uses number))
  | none => d.uses

/-- What becomes of the uses.  Low memory ends them all.  A facet request adds to those of the
generation that it checks out. -/
def usesAfter (d : Diary) : Deed → Nat → List (String × Nat)
  | .reader .lowMemory => fun _ => []
  | .reader (.runFacets executor request now) => match d.lending.reader.checkOut with
    | (.ok number, r) => d.change r.pool number fun g uses =>
        uses ++ (executor.used request g).map fun field => (field, now)
    | (.error _, _) => d.uses
  | .reader _ => d.uses
  | .generation number a =>
    d.change d.lending.reader.pool number fun g uses => g.usesAfter uses a
  | .recordUse number field now =>
    d.change d.lending.reader.pool number fun _ uses => uses ++ [(field, now)]

/-- The diary after one more deed. -/
def enter (d : Diary) (a : Deed) : Diary := { lending := d.lendingAfter a, uses := d.usesAfter a }

/-- The diary of a new reader after some deeds. -/
def after (name : String) (config : Config) (view : View) (deeds : List Deed) : Diary :=
  deeds.foldl enter { lending := { reader := Reader.ofView name config view } }

/-- The reader keeps the last of the uses in the diary. -/
def Kept (d : Diary) (config : Config) : Prop := d.lending.reader.Noted config d.uses

namespace Kept

variable {d : Diary} {config : Config}

theorem fresh (name : String) (config : Config) (view : View) :
    Kept { lending := { reader := Reader.ofView name config view } } config := by
  have hget (k : Nat) : Pool.get? {} k = none := rfl
  have hhandlers (id : Nat) : ({} : Pool).notifier.handlers.get? id = none := rfl
  have hempty : Pool.Noted {} 0 fun _ => [] := by
    refine ⟨fun k _ => hget k, fun _ _ => rfl, fun id k hid => ?_, fun k g hk => ?_⟩
    · rw [hhandlers] at hid
      cases hid
    · rw [hget] at hk
      cases hk
  exact ⟨rfl, Nat.zero_lt_one, hempty.openGeneration view, fun _ _ => rfl⟩

/-- A change of a generation's uses goes with a change of the generation. -/
theorem update {p : Pool} {next number : Nat} (h : p.Noted next d.uses)
    {f : Generation → Generation}
    {after : Generation → List (String × Nat) → List (String × Nat)}
    (hf : ∀ g : Generation, g.Keeps (d.uses number) (after g (d.uses number)) (f g)) :
    (p.update number f).Noted next (d.change p number after) := by
  rw [change]
  cases hg : p.get? number with
  | none =>
    rw [Pool.update, hg]
    exact h
  | some g =>
    refine h.update (fun g' hg' => ?_) fun hnone => ?_
    · obtain rfl : g = g' := Option.some.inj (hg.symm.trans hg')
      exact hf g
    · rw [hg] at hnone
      cases hnone

theorem runFacets (h : d.Kept config) (executor : FacetExecutor) (request : FacetRequest)
    (now : Nat) : (d.enter (.reader (.runFacets executor request now))).Kept config := by
  have hheld := Reader.Noted.checkOut h
  unfold Kept Diary.enter lendingAfter usesAfter
  dsimp only [Lending.act, Reader.runFacets]
  rcases hc : d.lending.reader.checkOut with ⟨e | number, r⟩ <;> rw [hc] at hheld
  · exact hheld
  · have hread : (r.pool.run number (executor.execute request now)
        (.error (.noLiveGeneration r.name 0))).2.Noted r.next
        (d.change r.pool number fun g uses =>
          uses ++ (executor.used request g).map fun field => (field, now)) := by
      rw [Pool.snd_run]
      exact update hheld.pool fun g => .run (Session.Reads.closed.execute executor request now) _ g
        (executor.uses_execute request now g)
    exact (hheld.withPool hread).withPool (hread.release number)

theorem enter (h : d.Kept config) (a : Deed) : (d.enter a).Kept config := by
  cases a with
  | reader a =>
    cases a with
    | install view wait now events => exact Reader.Noted.install h view wait now events
    | installOpened opened wait now events =>
      cases opened with
      | error e => exact h
      | ok view => exact Reader.Noted.install h view wait now events
    | checkOut =>
      have hheld := Reader.Noted.checkOut h
      unfold Kept Diary.enter lendingAfter
      dsimp only [Lending.act]
      rcases hc : d.lending.reader.checkOut with ⟨e | number, r⟩ <;> rw [hc] at hheld <;>
        exact hheld
    | checkOutWithTerms =>
      have hheld := Reader.Noted.checkOutWithTerms h
      unfold Kept Diary.enter lendingAfter
      dsimp only [Lending.act]
      rcases hc : d.lending.reader.checkOutWithTerms with ⟨e | ⟨number, terms⟩, r⟩ <;>
        rw [hc] at hheld <;> exact hheld
    | runFacets executor request now => exact h.runFacets executor request now
    | lowMemory => exact Reader.Noted.withPool h h.pool.lowMemory
    | drop number =>
      unfold Kept Diary.enter lendingAfter
      dsimp only [Lending.act]
      split
      · exact Reader.Noted.withPool h (h.pool.release number)
      · exact h
    | change number view => exact Reader.Noted.withPool h (h.pool.quiet fun g => .withView g view)
    | advance number step => exact Reader.Noted.advance h number step
  | generation number a =>
    have hupdate : (d.lending.reader.pool.update number fun g => g.undergo a).Noted _
        (d.change d.lending.reader.pool number fun g uses => g.usesAfter uses a) :=
      update h.pool fun g => g.keeps_undergo _ a
    exact Reader.Noted.withPool h hupdate
  | recordUse number field now =>
    have hupdate : (d.lending.reader.pool.update number fun g =>
          (g.run (Session.recordUse field now)).2).Noted _
        (d.change d.lending.reader.pool number fun _ uses => uses ++ [(field, now)]) :=
      update h.pool fun g => .run (.recordUse field now) _ g rfl
    exact Reader.Noted.withPool h hupdate

end Kept

/-- Whatever has been done to a reader and its generations: each generation that has not been
released keeps the last of the uses in the diary. -/
theorem kept_after (name : String) (config : Config) (view : View) (deeds : List Deed) :
    (after name config view deeds).Kept config := by
  induction deeds using List.reverseRecOn with
  | nil => exact .fresh name config view
  | append_singleton deeds a ih =>
    rw [after, List.foldl_append]
    exact ih.enter a

end Diary

end FacetedSearch
