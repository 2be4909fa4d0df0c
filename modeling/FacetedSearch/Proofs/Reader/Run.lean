import FacetedSearch.Proofs.Facet.Session
import FacetedSearch.Proofs.Reader.Installing
import Mathlib.Data.List.Induction

/-!
# FacetedSearch.Proofs.Reader.Run — a reader under any operations in any order

`Lending` is a reader together with the handles that it has given out.  A warming has a handle of its
own, so what is outstanding on a generation is those handles and that one (`Lending.outstanding`).
`Reckoned` is the invariant of every step, the steps of warmings among them: the usage of each
generation is what is outstanding on it, and its stage follows from that number and from whether it
is handed out.  While an installation waits two generations are handed out; otherwise it is one, the
current one (`Standing`).  Each operation keeps that, failures included (`Standing.act`).  The main
result is `standing_after`: current generation, usage, stages and closing after any list of
operations.
-/

namespace FacetedSearch

/-- A reader and the handles it has given out, each known by the number of its generation. -/
structure Lending where
  reader : Reader
  handles : List Nat := []

/-- What is done to a reader, by its owner, by those who hold its generations, and by its
warmings. -/
inductive ReaderAct
  | install (view : View) (wait : Bool) (now : Nat) (events : List WarmingEvent)
  | installOpened (opened : Except Error View) (wait : Bool) (now : Nat)
    (events : List WarmingEvent)
  | checkOut
  | checkOutWithTerms
  | runFacets (executor : FacetExecutor) (request : FacetRequest) (now : Nat)
  | lowMemory
  /-- Drop a handle on a generation, if one has been given out. -/
  | drop (number : Nat)
  /-- From now on the view of a generation answers otherwise. -/
  | change (number : Nat) (view : View)
  /-- A warming goes on by a step. -/
  | advance (number : Nat) (step : WarmingStep)

namespace ReaderAct

/-- Whether a generation is installed. -/
def installs : ReaderAct → Bool
  | .install .. => true
  | .installOpened (.ok _) .. => true
  | _ => false

end ReaderAct

namespace Lending

/-- One operation. -/
def act (l : Lending) : ReaderAct → Lending
  | .install view wait now events => { l with reader := l.reader.install view wait now events }
  | .installOpened opened wait now events =>
    { l with reader := (l.reader.installOpened opened wait now events).2 }
  | .checkOut => match l.reader.checkOut with
    | (.ok number, reader) => { reader, handles := number :: l.handles }
    | (.error _, reader) => { l with reader }
  | .checkOutWithTerms => match l.reader.checkOutWithTerms with
    | (.ok (number, _), reader) => { reader, handles := number :: l.handles }
    | (.error _, reader) => { l with reader }
  | .runFacets executor request now =>
    { l with reader := (l.reader.runFacets executor request now).2 }
  | .lowMemory => { l with reader := l.reader.lowMemory.2 }
  | .drop number =>
    if number ∈ l.handles then
      { reader := l.reader.release number, handles := l.handles.erase number }
    else l
  | .change number view =>
    { l with reader := l.reader.withPool (l.reader.pool.update number fun g => { g with view }) }
  | .advance number step => { l with reader := l.reader.advance number step }

/-- A new reader after some operations. -/
def after (name : String) (config : Config) (view : View) (acts : List ReaderAct) : Lending :=
  acts.foldl act { reader := Reader.ofView name config view }

/-- How many handles on a generation are out: those that were given out, and that of its warming
unless this has given it back. -/
def outstanding (l : Lending) (number : Nat) : Nat :=
  l.handles.count number + (l.reader.warmings.contains number).toNat

end Lending

/-! ## Stages -/

/-- The stage of a generation with some handles out, where it is handed out or not. -/
def stageWith (handedOut : Bool) (handles : Nat) : Lifecycle :=
  if handedOut then .live else if handles = 0 then .released else .superseded

theorem stageWith_ne_released {handedOut : Bool} {handles : Nat} (h : 0 < handles) :
    stageWith handedOut handles ≠ .released := by
  rw [stageWith]
  split
  · decide
  · rw [if_neg (Nat.ne_of_gt h)]
    decide

/-- The last handle on a superseded generation releases it. -/
theorem stageWith_pred {handedOut : Bool} {handles : Nat} (h : 0 < handles) :
    stageWith handedOut (handles - 1) =
      if handles = 1 ∧ stageWith handedOut handles = .superseded then .released
      else stageWith handedOut handles := by
  have hpos : handles ≠ 0 := Nat.ne_of_gt h
  cases handedOut with
  | true => simp [stageWith]
  | false =>
    by_cases h1 : handles = 1
    · simp [stageWith, h1]
    · have h2 : handles - 1 ≠ 0 := by omega
      simp [stageWith, h1, h2, hpos]

/-! ## Handles and generations agree -/

/-- The usage of every generation is the number of its handles, and its stage follows from that and
from whether it is handed out. -/
structure Reckoned (l : Lending) (handedOut : Nat → Bool) : Prop where
  handle_lt : ∀ number ∈ l.handles, number < l.reader.next
  has : ∀ number < l.reader.next, l.reader.pool.Has number (l.outstanding number)
    (stageWith (handedOut number) (l.outstanding number))
  absent : ∀ number, l.reader.next ≤ number →
    l.reader.pool.get? number = none ∧ l.reader.warmings.get? number = none

namespace Reckoned

variable {l : Lending} {handedOut : Nat → Bool}

theorem keyed (h : Reckoned l handedOut) : l.reader.pool.Keyed := by
  intro k g hg
  by_cases hk : k < l.reader.next
  · obtain ⟨g', hg', hn, -⟩ := h.has k hk
    rw [hg] at hg'
    cases hg'
    exact hn
  · rw [(h.absent k (Nat.le_of_not_lt hk)).1] at hg
    cases hg

theorem outstanding_of_le (h : Reckoned l handedOut) {number : Nat} (hle : l.reader.next ≤ number) :
    l.outstanding number = 0 := by
  have hcount : l.handles.count number = 0 :=
    List.count_eq_zero.mpr fun hm => absurd (h.handle_lt number hm) (Nat.not_lt_of_le hle)
  rw [Lending.outstanding, hcount, SortedMap.contains, (h.absent number hle).2]
  rfl

/-- What changes one generation, its handles and its warming only has to be looked at there. -/
theorem touch (h : Reckoned l handedOut) {l' : Lending} {handedOut' : Nat → Bool} {number : Nat}
    (hnext : l'.reader.next = l.reader.next) (hlt : ∀ n ∈ l'.handles, n < l.reader.next)
    (hpool : Pool.SameBut number l.reader.pool l'.reader.pool)
    (hwarmings : ∀ n, n ≠ number → l'.reader.warmings.get? n = l.reader.warmings.get? n)
    (hcount : ∀ n, n ≠ number → l'.handles.count n = l.handles.count n)
    (hhanded : ∀ n, n ≠ number → handedOut' n = handedOut n) (hnumber : number < l.reader.next)
    (hhas : l'.reader.pool.Has number (l'.outstanding number)
      (stageWith (handedOut' number) (l'.outstanding number))) :
    Reckoned l' handedOut' where
  handle_lt n hn := hnext ▸ hlt n hn
  has n hn := by
    by_cases he : n = number
    · rw [he]
      exact hhas
    · have hsame : l'.outstanding n = l.outstanding n := by
        rw [Lending.outstanding, Lending.outstanding, SortedMap.contains, SortedMap.contains,
          hcount n he, hwarmings n he]
      rw [hsame, hhanded n he]
      exact (h.has n (hnext ▸ hn)).congr (hpool n he)
  absent n hn := by
    rw [hnext] at hn
    have he : n ≠ number := by omega
    exact ⟨(hpool n he).trans (h.absent n hn).1, (hwarmings n he).trans (h.absent n hn).2⟩

/-- What changes the pool in one generation and leaves its handles and its warming alone. -/
theorem touchPool (h : Reckoned l handedOut) {pool : Pool} {number : Nat}
    (hpool : Pool.SameBut number l.reader.pool pool) (hnumber : number < l.reader.next)
    (hhas : pool.Has number (l.outstanding number)
      (stageWith (handedOut number) (l.outstanding number))) :
    Reckoned { l with reader := l.reader.withPool pool } handedOut :=
  h.touch rfl h.handle_lt hpool (fun _ _ => rfl) (fun _ _ => rfl) (fun _ _ => rfl) hnumber hhas

/-! ### Warming -/

theorem lt_of_warming (h : Reckoned l handedOut) {number : Nat} {w : Warming}
    (hw : l.reader.warmings.get? number = some w) : number < l.reader.next := by
  by_contra hle
  rw [(h.absent number (Nat.le_of_not_lt hle)).2] at hw
  cases hw

theorem outstanding_of_warming {number : Nat} {w : Warming}
    (hw : l.reader.warmings.get? number = some w) :
    l.outstanding number = l.handles.count number + 1 := by
  rw [Lending.outstanding, SortedMap.contains, hw]
  rfl

/-- A warming that goes on still has its handle, and one that is over has given it back. -/
theorem advance (h : Reckoned l handedOut) (number : Nat) (step : WarmingStep) :
    Reckoned { l with reader := l.reader.advance number step } handedOut := by
  have hstep := l.reader.advances number step
  have hinsert (w : Warming) (n : Nat) (hn : n ≠ number) :
      (l.reader.warmings.insert number w).get? n = l.reader.warmings.get? n :=
    SortedMap.get?_insert_ne hn
  generalize l.reader.advance number step = r at hstep ⊢
  cases hstep with
  | idle => exact h
  | fetched w field found =>
    have hcount := outstanding_of_warming found
    obtain ⟨hread, hsame⟩ := (h.has number (h.lt_of_warming found)).run
      (Session.Reads.termTable field) (stageWith_ne_released (by omega))
      (.error (.noLiveGeneration l.reader.name 0))
    rw [Pool.snd_run] at hread hsame
    refine h.touch rfl h.handle_lt hsame (hinsert _) (fun _ _ => rfl) (fun _ _ => rfl)
      (h.lt_of_warming found) ?_
    rw [outstanding_of_warming SortedMap.get?_insert_self, ← hcount]
    exact hread
  | told w found =>
    refine h.touch rfl h.handle_lt (.refl number _) (hinsert _) (fun _ _ => rfl) (fun _ _ => rfl)
      (h.lt_of_warming found) ?_
    rw [outstanding_of_warming SortedMap.get?_insert_self,
      ← outstanding_of_warming found]
    exact h.has number (h.lt_of_warming found)
  | gaveBack w found =>
    have hcount := outstanding_of_warming found
    obtain ⟨hback, hsame⟩ := (h.has number (h.lt_of_warming found)).release
    rw [← stageWith_pred (by omega), hcount, Nat.add_sub_cancel] at hback
    have herase (n : Nat) : (l.reader.warmings.erase number).get? n =
        if n = number then none else l.reader.warmings.get? n := SortedMap.get?_erase
    refine h.touch rfl h.handle_lt hsame (fun n hn => (herase n).trans (if_neg hn))
      (fun _ _ => rfl) (fun _ _ => rfl) (h.lt_of_warming found) ?_
    rw [Lending.outstanding, SortedMap.contains, (herase number).trans (if_pos rfl)]
    exact hback

theorem proceed (h : Reckoned l handedOut) (events : List WarmingEvent) :
    Reckoned { l with reader := l.reader.proceed events } handedOut :=
  Reader.proceed_keeps (P := fun r => Reckoned { l with reader := r } handedOut)
    (fun _ number step hr => hr.advance number step) events h

/-- A generation that is handed out is warmed under a handle of its own. -/
theorem startWarming (h : Reckoned l handedOut) {new : Nat} (hnew : new < l.reader.next)
    (hhanded : handedOut new = true) (hunwarmed : l.reader.warmings.get? new = none)
    (old now : Nat) : Reckoned { l with reader := l.reader.startWarming old new now } handedOut := by
  have hcount : l.outstanding new = l.handles.count new := by
    rw [Lending.outstanding, SortedMap.contains, hunwarmed]
    rfl
  have hhas := h.has new hnew
  rw [stageWith, if_pos hhanded, hcount] at hhas
  obtain ⟨hgiven, hheld, hsame⟩ := hhas.tryHold
  rw [Reader.startWarming]
  split
  · exact h
  · rcases ht : l.reader.pool.tryHold new with ⟨held, pool⟩
    rw [ht] at hgiven hheld hsame
    cases hgiven
    refine h.touch rfl h.handle_lt hsame
      (fun n hn => SortedMap.get?_insert_ne hn) (fun _ _ => rfl) (fun _ _ => rfl)
      hnew ?_
    rw [outstanding_of_warming SortedMap.get?_insert_self, stageWith,
      if_pos hhanded]
    exact hheld

/-! ### Installing -/

/-- A generation that is opened is handed out beside the others. -/
theorem openGeneration (h : Reckoned l handedOut) (view : View) :
    Reckoned { l with reader := l.reader.openGeneration view }
      (fun number => handedOut number || number == l.reader.next) := by
  obtain ⟨hnew, hsame⟩ := Pool.Has.openGeneration l.reader.pool l.reader.next view true
  have hnone := h.outstanding_of_le (Nat.le_refl l.reader.next)
  refine ⟨fun n hn => Nat.lt_succ_of_lt (h.handle_lt n hn), fun n hn => ?_, fun n hn => ?_⟩
  · by_cases hlast : n = l.reader.next
    · rw [hlast]
      change Pool.Has _ _ (l.outstanding l.reader.next) (stageWith _ (l.outstanding l.reader.next))
      rw [hnone, stageWith, if_pos (by simp)]
      exact hnew
    · have hhas := h.has n (Nat.lt_of_le_of_ne (Nat.le_of_lt_succ hn) hlast)
      have hsame' : (handedOut n || n == l.reader.next) = handedOut n := by simp [hlast]
      change Pool.Has _ n (l.outstanding n) (stageWith _ (l.outstanding n))
      rw [hsame']
      exact hhas.congr (hsame n hlast)
  · have hle : l.reader.next + 1 ≤ n := hn
    obtain ⟨hget, hwarming⟩ := h.absent n (by omega)
    exact ⟨(hsame n (by omega)).trans hget, hwarming⟩

/-- A generation that was handed out is superseded, and released at once if nobody holds it. -/
theorem markForDisposal (h : Reckoned l handedOut) {number : Nat} (hnumber : number < l.reader.next)
    (hhanded : handedOut number = true) (wait : Bool) :
    Reckoned { l with reader := l.reader.markForDisposal number wait }
      (fun n => handedOut n && n != number) := by
  have hhas := h.has number hnumber
  rw [stageWith, if_pos hhanded] at hhas
  obtain ⟨hmarked, hsame⟩ := hhas.markForDisposal wait
  refine h.touch rfl h.handle_lt hsame (fun _ _ => rfl) (fun _ _ => rfl) (fun n hn => ?_)
    hnumber ?_
  · simp [hn]
  · rw [stageWith, if_neg (by simp)]
    exact hmarked

theorem lowMemory (h : Reckoned l handedOut) :
    Reckoned { l with reader := l.reader.lowMemory.2 } handedOut where
  handle_lt := h.handle_lt
  has n hn := (h.has n hn).lowMemory h.keyed
  absent n hn := by
    have hget := h.keyed.get?_lowMemory n
    rw [(h.absent n hn).1] at hget
    refine ⟨hget.trans ?_, (h.absent n hn).2⟩
    split <;> rfl

theorem drop (h : Reckoned l handedOut) (number : Nat) :
    Reckoned (l.act (.drop number)) handedOut := by
  rw [Lending.act]
  split
  · rename_i hm
    have hlt := h.handle_lt number hm
    have hpos : 0 < l.handles.count number := List.count_pos_iff.mpr hm
    obtain ⟨hback, hsame⟩ := (h.has number hlt).release
    have hout : 0 < l.outstanding number := Nat.add_pos_left hpos _
    rw [← stageWith_pred hout] at hback
    refine h.touch rfl (fun n hn => h.handle_lt n (List.mem_of_mem_erase hn)) hsame
      (fun _ _ => rfl) (fun n hn => List.count_erase_of_ne hn) (fun _ _ => rfl) hlt ?_
    have hcount : Lending.outstanding
        { reader := l.reader.release number, handles := l.handles.erase number } number =
          l.outstanding number - 1 := by
      rw [Lending.outstanding, Lending.outstanding, List.count_erase_self]
      exact (Nat.sub_add_comm hpos).symm
    rw [hcount]
    exact hback
  · exact h

theorem change (h : Reckoned l handedOut) (number : Nat) (view : View) :
    Reckoned (l.act (.change number view)) handedOut := by
  by_cases hlt : number < l.reader.next
  · obtain ⟨hhas, hsame⟩ := (h.has number hlt).update
      (f := fun g => { g with view }) fun g hs hu hl => ⟨rfl, hu, hl, hs.withView view⟩
    exact h.touchPool hsame hlt hhas
  · have hsame : l.reader.pool.update number (fun g => { g with view }) = l.reader.pool := by
      rw [Pool.update, (h.absent number (Nat.le_of_not_lt hlt)).1]
    rw [Lending.act, hsame]
    exact h

/-- One more handle on a generation that is handed out, which is held once more. -/
theorem lend (h : Reckoned l handedOut) {number : Nat} (hnumber : number < l.reader.next)
    (hhanded : handedOut number = true) {pool : Pool}
    (hsame : Pool.SameBut number l.reader.pool pool)
    (hhas : pool.Has number (l.outstanding number + 1) .live) :
    Reckoned { reader := l.reader.withPool pool, handles := number :: l.handles } handedOut := by
  refine h.touch rfl (List.forall_mem_cons.mpr ⟨hnumber, h.handle_lt⟩) hsame (fun _ _ => rfl)
    (fun n hn => List.count_cons_of_ne hn.symm) (fun _ _ => rfl) hnumber ?_
  have hcount : Lending.outstanding
      { reader := l.reader.withPool pool, handles := number :: l.handles } number =
        l.outstanding number + 1 := by
    rw [Lending.outstanding, Lending.outstanding, List.count_cons_self]
    exact Nat.succ_add _ _
  rw [hcount, stageWith, if_pos hhanded]
  exact hhas

end Reckoned

namespace Reader

/-- Once an attempt to hold the current generation succeeds, no other is made. -/
theorem checkOut_of_held {r : Reader} (h : (r.pool.tryHold r.current).1 = true) :
    r.checkOut = (.ok r.current, r.withPool (r.pool.tryHold r.current).2) := by
  obtain ⟨attempts, ha⟩ : ∃ attempts, max r.config.checkOutAttempts 1 = attempts + 1 :=
    ⟨max r.config.checkOutAttempts 1 - 1, by omega⟩
  rw [checkOut, ha, checkOutWithin]
  simp only [h, if_true]
  rfl

/-- The first attempt to hold the current generation succeeds where that is handed out. -/
theorem checkOut_eq {r : Reader} {usage : Nat} (h : r.pool.Has r.current usage .live) :
    r.checkOut = (.ok r.current, r.withPool (r.pool.tryHold r.current).2) :=
  checkOut_of_held h.tryHold.1

/-- A visit: hold a generation, read it, and give it back. -/
theorem has_visit {α : Type} {p : Pool} {number usage : Nat} {s : Session α} (hs : s.Reads)
    (h : p.Has number usage .live) (missing : Except Error α) :
    (((p.tryHold number).2.run number s missing).2.release number).Has number usage .live ∧
      Pool.SameBut number p (((p.tryHold number).2.run number s missing).2.release number) := by
  obtain ⟨-, hheld, hsame⟩ := h.tryHold
  obtain ⟨hread, hsame'⟩ := hheld.run hs (by simp) missing
  obtain ⟨hback, hsame''⟩ := hread.release
  rw [if_neg (by simp)] at hback
  exact ⟨hback, (hsame.trans hsame').trans hsame''⟩

theorem runFacets_eq {r : Reader} {usage : Nat} (h : r.pool.Has r.current usage .live)
    (executor : FacetExecutor) (request : FacetRequest) (now : Nat) :
    (r.runFacets executor request now).2 =
      r.withPool (((r.pool.tryHold r.current).2.run r.current
        (executor.execute request now) (.error (.noLiveGeneration r.name 0))).2.release
          r.current) := by
  rw [runFacets, checkOut_eq h]
  rfl

end Reader

/-! ## The reader as a whole -/

/-- How a reader stands after some installations: one generation is handed out, the current one. -/
structure Standing (l : Lending) (installed : Nat) : Prop where
  current : l.reader.current = installed
  next : l.reader.next = installed + 1
  reckoned : Reckoned l (· == installed)

namespace Standing

variable {l : Lending} {installed : Nat}

theorem fresh (name : String) (config : Config) (view : View) :
    Standing { reader := Reader.ofView name config view } 0 := by
  obtain ⟨hhas, hsame⟩ := Pool.Has.openGeneration {} 0 view true
  refine ⟨rfl, rfl, by simp, fun number hlt => ?_, fun number hle => ⟨?_, rfl⟩⟩
  · obtain rfl : number = 0 := Nat.lt_one_iff.mp hlt
    exact hhas
  · exact hsame number (Nat.ne_of_gt hle)

theorem current_lt (h : Standing l installed) : l.reader.current < l.reader.next := by
  rw [h.current, h.next]
  exact Nat.lt_succ_self installed

theorem current_handed (h : Standing l installed) : (l.reader.current == installed) = true :=
  beq_iff_eq.mpr h.current

/-- The current generation is handed out. -/
theorem has_current (h : Standing l installed) :
    l.reader.pool.Has l.reader.current (l.outstanding l.reader.current) .live := by
  have hhas := h.reckoned.has l.reader.current h.current_lt
  rwa [stageWith, if_pos h.current_handed] at hhas

/-- What changes the pool in the current generation and leaves that handed out. -/
theorem touchPool (h : Standing l installed) {pool : Pool}
    (hsame : Pool.SameBut l.reader.current l.reader.pool pool)
    (hhas : pool.Has l.reader.current (l.outstanding l.reader.current) .live) :
    Standing { l with reader := l.reader.withPool pool } installed := by
  refine ⟨h.current, h.next, h.reckoned.touchPool hsame h.current_lt ?_⟩
  rwa [stageWith, if_pos h.current_handed]

theorem lend (h : Standing l installed) {pool : Pool}
    (hsame : Pool.SameBut l.reader.current l.reader.pool pool)
    (hhas : pool.Has l.reader.current (l.outstanding l.reader.current + 1) .live) :
    Standing { reader := l.reader.withPool pool, handles := l.reader.current :: l.handles }
      installed :=
  ⟨h.current, h.next, h.reckoned.lend h.current_lt h.current_handed hsame hhas⟩

theorem advance (h : Standing l installed) (number : Nat) (step : WarmingStep) :
    Standing (l.act (.advance number step)) installed := by
  have hbeside := l.reader.beside_advance number step
  exact ⟨hbeside.current.trans h.current, hbeside.next.trans h.next,
    h.reckoned.advance number step⟩

/-- While an installation waits there are two live generations; then the former one is superseded,
and released at once if nobody holds it.  Warmings may go on before that and after it. -/
theorem install (h : Standing l installed) (view : View) (wait : Bool) (now : Nat)
    (events : List WarmingEvent) :
    Standing (l.act (.install view wait now events)) (installed + 1) := by
  let opened := l.reader.openGeneration view
  let started := opened.startWarming l.reader.current l.reader.next now
  obtain ⟨before, after, -, hinstall, -⟩ := l.reader.install_eq view wait now events
  have hinstall : l.reader.install view wait now events =
    ((started.proceed before).markForDisposal l.reader.current wait).proceed after := hinstall
  have hwaited : Reader.Beside opened (started.proceed before) :=
    (opened.beside_startWarming ..).trans (started.beside_proceed before)
  have hmark : Reader.Beside (started.proceed before)
      ((started.proceed before).markForDisposal l.reader.current wait) := ⟨rfl, rfl, rfl, rfl⟩
  have hdone := hmark.trans (Reader.beside_proceed _ after)
  rw [← hinstall] at hdone
  have hreckoned := ((h.reckoned.openGeneration view).startWarming (Nat.lt_succ_self _) (by simp)
    (h.reckoned.absent _ (Nat.le_refl l.reader.next)).2 l.reader.current now).proceed before
  have hlt : l.reader.current < (started.proceed before).next := by
    rw [hwaited.next]
    exact Nat.lt_succ_of_lt h.current_lt
  have hmarked := (hreckoned.markForDisposal hlt (by simp [h.current]) wait).proceed after
  refine ⟨(hdone.current.trans hwaited.current).trans h.next,
    (hdone.next.trans hwaited.next).trans (congrArg (· + 1) h.next), ?_⟩
  have hhanded : (fun number : Nat => (number == installed || number == l.reader.next) &&
      number != l.reader.current) = fun number => number == installed + 1 := by
    funext number
    rw [h.current, h.next]
    by_cases hn : number = installed
    · simp [hn]
    · rw [beq_eq_false_iff_ne.mpr hn, bne_iff_ne.mpr hn, Bool.false_or, Bool.and_true]
  rw [hhanded] at hmarked
  rw [Lending.act, hinstall]
  exact hmarked

theorem installOpened (h : Standing l installed) (opened : Except Error View) (wait : Bool)
    (now : Nat) (events : List WarmingEvent) :
    Standing (l.act (.installOpened opened wait now events))
      (installed + if (ReaderAct.installOpened opened wait now events).installs then 1 else 0) := by
  cases opened with
  | error e => exact h
  | ok view => exact h.install view wait now events

theorem checkOut (h : Standing l installed) : Standing (l.act .checkOut) installed := by
  have hhas := h.has_current
  obtain ⟨-, hheld, hsame⟩ := hhas.tryHold
  rw [Lending.act, Reader.checkOut_eq hhas]
  exact h.lend hsame hheld

theorem runFacets (h : Standing l installed) (executor : FacetExecutor) (request : FacetRequest)
    (now : Nat) : Standing (l.act (.runFacets executor request now)) installed := by
  have hhas := h.has_current
  obtain ⟨hback, hsame⟩ := Reader.has_visit (Session.Reads.closed.execute executor request now) hhas
    (.error (.noLiveGeneration l.reader.name 0))
  rw [Lending.act, Reader.runFacets_eq hhas]
  exact h.touchPool hsame hback

/-- Where the terms cannot be fetched, the hold is given back. -/
theorem checkOutWithTerms (h : Standing l installed) :
    Standing (l.act .checkOutWithTerms) installed := by
  have hhas := h.has_current
  have hback := Reader.has_visit Session.Reads.documentTerms hhas
    (.error (.noLiveGeneration l.reader.name 0))
  obtain ⟨-, hheld, hsame⟩ := hhas.tryHold
  have hread := hheld.run Session.Reads.documentTerms (by simp)
    (.error (.noLiveGeneration l.reader.name 0))
  rw [Lending.act, Reader.checkOutWithTerms, Reader.checkOut_eq hhas]
  dsimp only [Reader.run, Reader.withPool]
  rcases hrun : (l.reader.pool.tryHold l.reader.current).2.run l.reader.current
    Session.documentTerms (.error (.noLiveGeneration l.reader.name 0)) with ⟨_ | terms, pool⟩
  all_goals rw [hrun] at hback hread
  · exact h.touchPool hback.2 hback.1
  · exact h.lend (hsame.trans hread.2) hread.1

theorem act (h : Standing l installed) (a : ReaderAct) :
    Standing (l.act a) (installed + if a.installs then 1 else 0) := by
  cases a with
  | install view wait now events => exact h.install view wait now events
  | installOpened opened wait now events => exact h.installOpened opened wait now events
  | checkOut => exact h.checkOut
  | checkOutWithTerms => exact h.checkOutWithTerms
  | runFacets executor request now => exact h.runFacets executor request now
  | lowMemory => exact ⟨h.current, h.next, h.reckoned.lowMemory⟩
  | drop number =>
    have hreckoned := h.reckoned.drop number
    refine ⟨?_, ?_, hreckoned⟩ <;> rw [Lending.act] <;> split
    · exact h.current
    · exact h.current
    · exact h.next
    · exact h.next
  | change number view => exact ⟨h.current, h.next, h.reckoned.change number view⟩
  | advance number step => exact h.advance number step

end Standing

theorem standing (name : String) (config : Config) (view : View) (acts : List ReaderAct) :
    Standing (Lending.after name config view acts) (acts.countP ReaderAct.installs) := by
  induction acts using List.reverseRecOn with
  | nil => exact Standing.fresh name config view
  | append_singleton acts a ih =>
    rw [Lending.after, List.foldl_append, List.countP_append, List.countP_singleton]
    exact ih.act a

/-- A reader over any views, after any operations in any order, failures included, while warmings go
on in any order beside them.  The current generation is the one that was installed last; it is live,
so holding it succeeds.  Every earlier one is superseded as long as handles on it are out, and
released after that.  The usage of each is the number of its handles: those that were given out,
and the one of its warming until that gives it back, which may be long after the installation; where
no warming goes on it is the number of those given out.  The view of a released generation has been
closed once and asked for nothing since, and no other view has been closed. -/
theorem standing_after (name : String) (config : Config) (view : View) (acts : List ReaderAct) :
    let l := Lending.after name config view acts
    l.reader.current = acts.countP ReaderAct.installs ∧
      l.reader.checkOut.1 = .ok l.reader.current ∧
      (∀ number, (∃ g, l.reader.pool.get? number = some g) ↔ number ≤ l.reader.current) ∧
      ∀ number g, l.reader.pool.get? number = some g →
        g.usage = l.outstanding number ∧
        (l.reader.warmings.contains number = false → g.usage = l.handles.count number) ∧
        (number = l.reader.current → g.lifecycle = .live) ∧
        (number < l.reader.current →
          g.lifecycle = if 0 < l.outstanding number then .superseded else .released) ∧
        g.countCalls ViewCall.isClose = (if g.lifecycle = .released then 1 else 0) ∧
        ∀ later earlier, g.calls = later ++ .close :: earlier → later = [] := by
  intro l
  have h : Standing l (acts.countP ReaderAct.installs) := standing name config view acts
  have hnext : l.reader.next = l.reader.current + 1 := by rw [h.next, h.current]
  have hopened {number : Nat} {g : Generation} (hg : l.reader.pool.get? number = some g) :
      number < l.reader.next := by
    by_contra hle
    rw [(h.reckoned.absent number (Nat.le_of_not_lt hle)).1] at hg
    cases hg
  refine ⟨h.current, ?_, fun number => ⟨?_, fun hle => ?_⟩, fun number g hg => ?_⟩
  · rw [Reader.checkOut_eq h.has_current]
  · rintro ⟨g, hg⟩
    have hlt := hopened hg
    rw [hnext] at hlt
    exact Nat.le_of_lt_succ hlt
  · obtain ⟨g, hg, -⟩ := h.reckoned.has number (by omega)
    exact ⟨g, hg⟩
  · obtain ⟨g', hg', -, hu, hl, hs⟩ := h.reckoned.has number (hopened hg)
    obtain rfl : g = g' := Option.some.inj (hg.symm.trans hg')
    refine ⟨hu, fun hover => ?_, fun he => ?_, fun hlt => ?_, hs.countCalls_close,
      hs.eq_nil_of_calls⟩
    · rw [hu, Lending.outstanding, hover]
      rfl
    · rw [hl, stageWith, if_pos (he ▸ h.current_handed)]
    · have hold : (number == acts.countP ReaderAct.installs) = false := by
        rw [← h.current]
        exact beq_eq_false_iff_ne.mpr (Nat.ne_of_lt hlt)
      rw [hl, hold, stageWith, if_neg Bool.false_ne_true]
      by_cases hout : l.outstanding number = 0
      · rw [if_pos hout, if_neg (Nat.not_lt_of_le (Nat.le_of_eq hout))]
      · rw [if_neg hout, if_pos (Nat.pos_of_ne_zero hout)]

end FacetedSearch
