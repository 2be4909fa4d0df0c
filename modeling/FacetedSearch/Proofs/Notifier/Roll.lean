import FacetedSearch.Notifier
import Mathlib.Data.List.Induction
import Mathlib.Data.List.Basic

/-!
# FacetedSearch.Proofs.Notifier.Roll — what became of every registration

A `Roll` keeps every registration that was ever made, and notes of each whether it was dropped and
whether a broadcast found its handler dead.  Nothing is ever taken off it, so the fate of one
registration is settled by itself: dropping another one changes nothing in it, however things go on
(`enterAll_drop`).
-/

namespace FacetedSearch

/-- What is done to a notifier, to its handlers and to their registrations. -/
inductive ExchangeAct
  | addHandler
  | dropHandler (handler : Nat)
  /-- Register a handler that has been made, dead or not. -/
  | register (handler : Nat)
  | dropRegistration (id : Nat)
  | broadcast
  | dropNotifier
deriving DecidableEq

/-- One registration on a roll. -/
structure Enrolment where
  handler : Nat
  /-- Whether it has been dropped. -/
  dropped : Bool := false
  /-- Whether a broadcast has found its handler dead. -/
  pruned : Bool := false
deriving DecidableEq

/-- All registrations that were made, in the order of their numbers. -/
structure Roll where
  /-- How many handlers have been made. -/
  made : Nat := 0
  /-- The handlers that live. -/
  living : List Nat := []
  /-- Whether the notifier has been dropped. -/
  closed : Bool := false
  enrolments : List Enrolment := []
deriving DecidableEq

namespace Enrolment

/-- The handler of a registration that is neither dropped nor pruned. -/
def listed? (e : Enrolment) : Option Nat := if e.dropped || e.pruned then none else some e.handler

/-- The registration, dropped. -/
def drop (e : Enrolment) : Enrolment := { e with dropped := true }

/-- The registration after a broadcast among some live handlers. -/
def meet (living : List Nat) (e : Enrolment) : Enrolment :=
  { e with pruned := e.pruned || decide (e.handler ∉ living) }

end Enrolment

namespace Roll

/-- Drop the registration of a number, if there is one. -/
def drop (r : Roll) (id : Nat) : Roll :=
  { r with enrolments := r.enrolments.modify id Enrolment.drop }

/-- Note one act. -/
def enter (r : Roll) : ExchangeAct → Roll
  | .addHandler => { r with made := r.made + 1, living := r.made :: r.living }
  | .dropHandler handler => { r with living := r.living.filter fun h => decide (h ≠ handler) }
  | .register handler =>
    if !r.closed && decide (handler < r.made) then
      { r with enrolments := r.enrolments ++ [{ handler }] }
    else r
  | .dropRegistration id => r.drop id
  | .broadcast =>
    if r.closed then r else { r with enrolments := r.enrolments.map (Enrolment.meet r.living) }
  | .dropNotifier => { r with closed := true }

/-- The roll of some acts on a new notifier. -/
def ofActs (acts : List ExchangeAct) : Roll := acts.foldl enter {}

/-- The handler that is listed under a number. -/
def listed? (r : Roll) (id : Nat) : Option Nat := r.enrolments[id]?.bind Enrolment.listed?

/-- How many registrations that have not been dropped pass a test. -/
def count (r : Roll) (p : Enrolment → Bool) : Nat :=
  r.enrolments.countP fun e => !e.dropped && p e

variable {r : Roll} {id other : Nat}

theorem ofActs_concat (acts : List ExchangeAct) (a : ExchangeAct) :
    ofActs (acts ++ [a]) = (ofActs acts).enter a := by
  simp [ofActs]

theorem ofActs_append (acts later : List ExchangeAct) :
    ofActs (acts ++ later) = later.foldl enter (ofActs acts) := by
  simp [ofActs]

theorem closed_ofActs (acts : List ExchangeAct) :
    (ofActs acts).closed = true ↔ .dropNotifier ∈ acts := by
  induction acts using List.reverseRecOn with
  | nil => simp [ofActs]
  | append_singleton acts a ih =>
    rw [ofActs_concat, List.mem_append, ← ih]
    cases a with
    | register handler =>
      rw [enter]
      split <;> simp
    | broadcast =>
      rw [enter]
      split <;> simp
    | dropNotifier => simp [enter]
    | _ => simp [enter, drop]

/-! ## Handlers

A handler that is dead stays dead, as every new one has a number of its own. -/

/-- Registered handlers have been made, and those that were found dead are dead. -/
structure Sound (r : Roll) : Prop where
  made : ∀ e ∈ r.enrolments, e.handler < r.made
  dead : ∀ e ∈ r.enrolments, e.pruned = true → e.handler ∉ r.living

theorem mem_drop {e : Enrolment} (h : e ∈ (r.drop id).enrolments) :
    ∃ former ∈ r.enrolments, e.handler = former.handler ∧ e.pruned = former.pruned := by
  obtain ⟨i, hi⟩ := List.mem_iff_getElem?.mp h
  rw [drop, List.getElem?_modify] at hi
  obtain ⟨former, hformer, rfl⟩ := Option.map_eq_some_iff.mp hi
  refine ⟨former, List.mem_of_getElem? hformer, ?_⟩
  by_cases hid : id = i <;> simp [hid, Enrolment.drop]

theorem Sound.enter (hr : r.Sound) (a : ExchangeAct) : (r.enter a).Sound := by
  cases a with
  | addHandler =>
    refine ⟨fun e he => Nat.lt_succ_of_lt (hr.made e he), fun e he hpruned hliving => ?_⟩
    rcases List.mem_cons.mp hliving with heq | hliving
    · exact Nat.ne_of_lt (hr.made e he) heq
    · exact hr.dead e he hpruned hliving
  | dropHandler handler =>
    exact ⟨hr.made, fun e he hpruned hliving => hr.dead e he hpruned (List.mem_filter.mp hliving).1⟩
  | register handler =>
    rw [Roll.enter]
    split
    · rename_i hc
      simp only [Bool.and_eq_true, decide_eq_true_eq] at hc
      refine ⟨fun e he => ?_, fun e he hpruned => ?_⟩ <;>
        rcases List.mem_append.mp he with he | he
      · exact hr.made e he
      · rw [List.mem_singleton.mp he]
        exact hc.2
      · exact hr.dead e he hpruned
      · rw [List.mem_singleton.mp he] at hpruned
        exact absurd hpruned Bool.false_ne_true
    · exact hr
  | dropRegistration id =>
    refine ⟨fun e he => ?_, fun e he hpruned => ?_⟩ <;>
      obtain ⟨former, hformer, hhandler, hp⟩ := mem_drop he <;> rw [hhandler]
    · exact hr.made former hformer
    · exact hr.dead former hformer (hp ▸ hpruned)
  | broadcast =>
    rw [Roll.enter]
    split
    · exact hr
    · refine ⟨fun e he => ?_, fun e he hpruned => ?_⟩ <;>
        obtain ⟨former, hformer, rfl⟩ := List.mem_map.mp he
      · exact hr.made former hformer
      · simp only [Enrolment.meet, Bool.or_eq_true, decide_eq_true_eq] at hpruned
        exact hpruned.elim (hr.dead former hformer) id
  | dropNotifier => exact ⟨hr.made, hr.dead⟩

theorem sound_ofActs (acts : List ExchangeAct) : (ofActs acts).Sound := by
  induction acts using List.reverseRecOn with
  | nil => exact ⟨fun _ he => absurd he List.not_mem_nil, fun _ he => absurd he List.not_mem_nil⟩
  | append_singleton acts a ih =>
    rw [ofActs_concat]
    exact ih.enter a

/-! ## Dropping one registration -/

theorem getElem?_drop_ne (hne : other ≠ id) :
    (r.drop id).enrolments[other]? = r.enrolments[other]? := by
  simp [drop, hne.symm]

/-- Of a registration that is there it does not matter for any act whether it is dropped before or
after. -/
theorem enter_drop (h : id < r.enrolments.length) (a : ExchangeAct) :
    (r.drop id).enter a = (r.enter a).drop id := by
  cases a with
  | register handler =>
    by_cases hc : (!r.closed && decide (handler < r.made)) = true
    · have hmodify (e : Enrolment) : (r.enrolments ++ [e]).modify id Enrolment.drop =
          r.enrolments.modify id Enrolment.drop ++ [e] := by
        refine List.ext_getElem? fun i => ?_
        simp only [List.getElem?_append, List.getElem?_modify, List.length_modify]
        by_cases hi : i < r.enrolments.length
        · simp only [hi, if_true]
        · have hne : id ≠ i := by omega
          simp only [hi, hne, if_false]
          simp
      have hd : (!(r.drop id).closed && decide (handler < (r.drop id).made)) = true := hc
      rw [enter, if_pos hd, enter, if_pos hc, drop, drop, hmodify]
    · have hd : ¬ (!(r.drop id).closed && decide (handler < (r.drop id).made)) = true := hc
      rw [enter, if_neg hd, enter, if_neg hc]
  | dropRegistration other =>
    by_cases hid : other = id
    · rw [hid]
      rfl
    · simp only [enter, drop]
      rw [List.modify_modify_ne _ _ _ (Ne.symm hid)]
  | broadcast =>
    by_cases hc : r.closed = true
    · have hd : (r.drop id).closed = true := hc
      rw [enter, if_pos hd, enter, if_pos hc]
    · have hd : ¬ (r.drop id).closed = true := hc
      have hmap : (r.enrolments.map (Enrolment.meet r.living)).modify id Enrolment.drop =
          (r.enrolments.modify id Enrolment.drop).map (Enrolment.meet r.living) := by
        refine List.ext_getElem? fun i => ?_
        simp only [List.getElem?_map, List.getElem?_modify]
        cases r.enrolments[i]? with
        | none => rfl
        | some e => by_cases hi : id = i <;> simp [hi, Enrolment.meet, Enrolment.drop]
      rw [enter, if_neg hd, enter, if_neg hc, drop, drop, hmap]
  | _ => rfl

theorem length_le_enter (r : Roll) (a : ExchangeAct) :
    r.enrolments.length ≤ (r.enter a).enrolments.length := by
  cases a with
  | register handler =>
    rw [enter]
    split <;> simp
  | broadcast =>
    rw [enter]
    split <;> simp
  | _ => simp [enter, drop]

/-- A registration stays one of the same handler. -/
theorem handler_enter (h : id < r.enrolments.length) (a : ExchangeAct) :
    (r.enter a).enrolments[id]?.map Enrolment.handler =
      r.enrolments[id]?.map Enrolment.handler := by
  cases a with
  | register handler =>
    rw [enter]
    split
    · simp only [List.getElem?_append, h, if_true]
    · rfl
  | dropRegistration other =>
    rw [enter, drop, List.getElem?_modify]
    cases r.enrolments[id]? with
    | none => rfl
    | some e => by_cases hid : other = id <;> simp [hid, Enrolment.drop]
  | broadcast =>
    rw [enter]
    split
    · rfl
    · simp only [List.getElem?_map, Option.map_map]
      rfl
  | _ => rfl

theorem handler_enterAll (h : id < r.enrolments.length) (later : List ExchangeAct) :
    (later.foldl enter r).enrolments[id]?.map Enrolment.handler =
      r.enrolments[id]?.map Enrolment.handler := by
  induction later generalizing r with
  | nil => rfl
  | cons a rest ih =>
    rw [List.foldl_cons, ih (Nat.lt_of_lt_of_le h (r.length_le_enter a)), handler_enter h]

theorem enterAll_drop (h : id < r.enrolments.length) (later : List ExchangeAct) :
    later.foldl enter (r.drop id) = (later.foldl enter r).drop id := by
  induction later generalizing r with
  | nil => rfl
  | cons a rest ih =>
    rw [List.foldl_cons, List.foldl_cons, enter_drop h,
      ih (Nat.lt_of_lt_of_le h (r.length_le_enter a))]

/-! ## Counting -/

theorem countP_modify {α : Type} {p : α → Bool} {f : α → α} {l : List α} {i : Nat}
    (h : ∀ a, l[i]? = some a → p (f a) = p a) : (l.modify i f).countP p = l.countP p := by
  induction l generalizing i with
  | nil => rw [List.modify_nil]
  | cons a rest ih =>
    cases i with
    | zero =>
      rw [List.modify_zero_cons, List.countP_cons, List.countP_cons, h a rfl]
    | succ i => rw [List.modify_succ_cons, List.countP_cons, List.countP_cons, ih h]

/-- A registration that does not pass the test is not counted anyhow. -/
theorem count_drop {p : Enrolment → Bool}
    (h : ∀ e, r.enrolments[id]? = some e → p e = false) : (r.drop id).count p = r.count p := by
  refine countP_modify fun e he => ?_
  simp [Enrolment.drop, h e he]

/-- Of the undropped registrations, some were found dead and the others not. -/
theorem count_not_pruned_add (r : Roll) :
    r.count (fun e => !e.pruned) + r.count (fun e => e.pruned) = r.count fun _ => true := by
  unfold count
  induction r.enrolments with
  | nil => rfl
  | cons e rest ih =>
    simp only [List.countP_cons, ← ih]
    cases e.dropped <;> cases e.pruned <;> simp +arith

end Roll

end FacetedSearch
