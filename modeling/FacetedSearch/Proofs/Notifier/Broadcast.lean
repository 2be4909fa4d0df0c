import FacetedSearch.Proofs.Notifier.Roll

/-!
# FacetedSearch.Proofs.Notifier.Broadcast — whom a broadcast reaches

A notifier forgets what was dropped and what it found dead, so its list is the part of the roll
that is still listed (`Tied`, kept by every act).  A live handler is never found dead; so a
broadcast runs it once for each of its registrations that has not been dropped.
-/

namespace FacetedSearch

namespace Exchange

/-- Do one act.  Only a handler that was made can be registered. -/
def act (x : Exchange) : ExchangeAct → Exchange
  | .addHandler => x.addHandler.2
  | .dropHandler handler => x.dropHandler handler
  | .register handler => if handler < x.next then (x.register handler).elim x Prod.snd else x
  | .dropRegistration id => x.dropRegistration id
  | .broadcast => x.broadcast.elim x Prod.snd
  | .dropNotifier => x.dropNotifier

/-- What some acts make of a new notifier without handlers. -/
def after (acts : List ExchangeAct) : Exchange := acts.foldl act {}

/-- The handler that is listed under a registration. -/
def handlerOf? (x : Exchange) (id : Nat) : Option Nat :=
  x.notifier.bind fun n => n.handlers.get? id

theorem after_concat (acts : List ExchangeAct) (a : ExchangeAct) :
    after (acts ++ [a]) = (after acts).act a := by
  simp [after]

theorem after_append (acts later : List ExchangeAct) :
    after (acts ++ later) = later.foldl act (after acts) := by
  simp [after]

/-- A registration that is not listed can be dropped without any effect. -/
theorem dropRegistration_eq_self {x : Exchange} {id : Nat} (hid : x.handlerOf? id = none) :
    x.dropRegistration id = x := by
  cases hn : x.notifier with
  | none => rw [dropRegistration, hn, Option.map_none, ← hn]
  | some n =>
    have hget : n.handlers.get? id = none := by
      rw [handlerOf?, hn] at hid
      exact hid
    have herase : n.handlers.erase id = n.handlers := by
      refine SortedMap.ext_get? fun k => ?_
      rw [SortedMap.get?_erase]
      split
      · rename_i hk
        rw [hk, hget]
      · rfl
    rw [dropRegistration, hn, Option.map_some, Notifier.deregister, herase, ← hn]

/-! ## The list and the roll -/

/-- An exchange keeps of a roll what is still listed. -/
structure Tied (x : Exchange) (r : Roll) : Prop where
  made : x.next = r.made
  living : ∀ h, x.runs.contains h = decide (h ∈ r.living)
  closed : x.notifier.isNone = r.closed
  next : ∀ n, x.notifier = some n → n.next = r.enrolments.length
  listed : ∀ n, x.notifier = some n → ∀ id, n.handlers.get? id = r.listed? id

theorem contains_eq_isSome (m : SortedMap Nat Nat) (h : Nat) : m.contains h = (m.get? h).isSome :=
  rfl

theorem listed?_meet (living : List Nat) (e : Enrolment) :
    (e.meet living).listed? = e.listed?.filter fun h => decide (h ∈ living) := by
  unfold Enrolment.listed? Enrolment.meet
  cases e.dropped <;> cases e.pruned <;> by_cases hliving : e.handler ∈ living <;>
    simp [hliving, Option.filter]

theorem get?_foldl_countRun {ran : List Nat} {m : SortedMap Nat Nat}
    (hran : ∀ h ∈ ran, m.contains h = true) (h : Nat) :
    (ran.foldl countRun m).get? h = (m.get? h).map (· + ran.count h) := by
  induction ran generalizing m with
  | nil => simp
  | cons first rest ih =>
    have hcount (k : Nat) : (countRun m first).get? k =
        if k = first then some ((m.get? first).getD 0 + 1) else m.get? k := SortedMap.get?_alter
    have hrest : ∀ k ∈ rest, (countRun m first).contains k = true := fun k hk => by
      have hm := hran k (.tail _ hk)
      rw [contains_eq_isSome] at hm ⊢
      rw [hcount]
      split <;> simp [hm]
    rw [List.foldl_cons, ih hrest, hcount]
    split
    · rename_i heq
      subst heq
      obtain ⟨n, hn⟩ := Option.isSome_iff_exists.mp (hran h (.head _))
      simp only [hn, Option.getD_some, Option.map_some, List.count_cons_self, Option.some.injEq]
      omega
    · rename_i hne
      rw [List.count_cons_of_ne (Ne.symm hne)]

namespace Tied

variable {x y : Exchange} {r s : Roll} {n : Notifier Nat}

/-- The listed handlers, in the order of their registrations. -/
theorem map_entries (ht : x.Tied r) (hn : x.notifier = some n) :
    n.handlers.entries.map Prod.snd = r.enrolments.filterMap Enrolment.listed? := by
  have hentries : n.handlers.entries =
      r.enrolments.zipIdx.filterMap fun e => e.1.listed?.map fun h => (e.2, h) := by
    refine SortedMap.eq_of_mem_iff n.handlers.ascending ?_ fun e => ?_
    · have hindex : r.enrolments.zipIdx.Pairwise fun a b => a.2 < b.2 := by
        rw [← List.pairwise_map, List.zipIdx_map_snd]
        exact List.pairwise_lt_range' 1
      refine hindex.filterMap _ fun a b hab c hc d hd => ?_
      obtain ⟨h, -, rfl⟩ := Option.map_eq_some_iff.mp hc
      obtain ⟨h', -, rfl⟩ := Option.map_eq_some_iff.mp hd
      exact SortKey.cmpNat_lt_iff.mpr hab
    · obtain ⟨id, h⟩ := e
      rw [← SortedMap.get?_eq_some_iff, ht.listed n hn, Roll.listed?, List.mem_filterMap,
        Option.bind_eq_some_iff]
      constructor
      · rintro ⟨e, he, hlisted⟩
        exact ⟨(e, id), List.mem_zipIdx_iff_getElem?.mpr he, by rw [hlisted]; rfl⟩
      · rintro ⟨⟨e, i⟩, he, hlisted⟩
        obtain ⟨h', hh, heq⟩ := Option.map_eq_some_iff.mp hlisted
        cases heq
        exact ⟨e, List.mem_zipIdx_iff_getElem?.mp he, hh⟩
  rw [hentries, List.map_filterMap]
  have hsnd : (fun e : Enrolment × Nat => (e.1.listed?.map fun h => (e.2, h)).map Prod.snd) =
      Enrolment.listed? ∘ Prod.fst := by
    funext e
    rw [Option.map_map]
    exact Option.map_id'
  rw [hsnd, ← List.filterMap_map, List.zipIdx_map_fst]

/-- The registrations that a broadcast runs are the undropped ones of live handlers. -/
theorem countP_live (ht : x.Tied r) (hr : r.Sound) (hn : x.notifier = some n) (p : Nat → Bool) :
    (n.live x.runs.contains).countP p =
      r.count fun e => decide (e.handler ∈ r.living) && p e.handler := by
  have hliving : x.runs.contains = fun h => decide (h ∈ r.living) := funext ht.living
  rw [Notifier.live, ht.map_entries hn, List.countP_filter, List.countP_filterMap, hliving]
  refine List.countP_congr fun e he => ?_
  have hdead := hr.dead e he
  unfold Enrolment.listed?
  cases e.dropped with
  | true => simp
  | false => cases hp : e.pruned with
    | false => simp [and_comm]
    | true => simp [hdead hp]

theorem length_live (ht : x.Tied r) (hr : r.Sound) (hn : x.notifier = some n) :
    (n.live x.runs.contains).length = r.count fun e => decide (e.handler ∈ r.living) := by
  rw [← List.countP_true, ht.countP_live hr hn]
  simp only [Bool.and_true]

theorem count_live (ht : x.Tied r) (hr : r.Sound) (hn : x.notifier = some n) {h : Nat}
    (hh : h ∈ r.living) :
    (n.live x.runs.contains).count h = r.count fun e => decide (e.handler = h) := by
  rw [List.count, ht.countP_live hr hn, Roll.count, Roll.count]
  refine List.countP_congr fun e _ => ?_
  by_cases heq : e.handler = h <;> simp [heq, hh]

/-- What a broadcast adds to the runs of a handler. -/
theorem get?_runs_broadcast (ht : x.Tied r) (hr : r.Sound) (hn : x.notifier = some n) (h : Nat) :
    ((n.live x.runs.contains).foldl countRun x.runs).get? h =
      (x.runs.get? h).map (· + r.count fun e => decide (e.handler = h)) := by
  have hran : ∀ k ∈ n.live x.runs.contains, x.runs.contains k = true := fun k hk =>
    (List.mem_filter.mp hk).2
  rw [get?_foldl_countRun hran]
  cases hruns : x.runs.get? h with
  | none => rfl
  | some ran =>
    have hh : h ∈ r.living := by
      have hliving := ht.living h
      rw [contains_eq_isSome, hruns] at hliving
      exact of_decide_eq_true hliving.symm
    rw [ht.count_live hr hn hh]

/-- How many registrations are listed. -/
theorem count_eq (ht : x.Tied r) (hn : x.notifier = some n) :
    n.count + r.count (fun e => e.pruned) = r.count fun _ => true := by
  have hsize : n.count = (n.handlers.entries.map Prod.snd).length := (List.length_map _).symm
  rw [← Roll.count_not_pruned_add, hsize, ht.map_entries hn, List.length_filterMap_eq_countP]
  refine congrArg (· + _) (List.countP_congr fun e _ => ?_)
  unfold Enrolment.listed?
  cases e.dropped <;> cases hp : e.pruned <;> simp [hp]

theorem register (ht : x.Tied r) (handler : Nat) :
    (x.act (.register handler)).Tied (r.enter (.register handler)) := by
  unfold Exchange.act Roll.enter
  by_cases hmade : handler < x.next
  · cases hn : x.notifier with
    | none =>
      have hclosed : r.closed = true := by rw [← ht.closed, hn]; rfl
      simp only [hmade, if_true, Exchange.register, hn, Option.map_none, Option.elim_none, hclosed,
        Bool.not_true, Bool.false_and, Bool.false_eq_true, if_false]
      exact ht
    | some n =>
      have hopen : r.closed = false := by rw [← ht.closed, hn]; rfl
      simp only [hmade, if_true, Exchange.register, hn, Option.map_some, Option.elim_some,
        Notifier.register, hopen, Bool.not_false, ← ht.made, decide_true, Bool.and_self]
      refine ⟨rfl, ht.living, rfl, fun m hm => ?_, fun m hm id => ?_⟩ <;> cases hm
      · simp [ht.next n hn]
      · rw [SortedMap.get?_insert, ht.next n hn, Roll.listed?, List.getElem?_append,
          ht.listed n hn, Roll.listed?]
        split
        · rename_i hid
          subst hid
          simp [Enrolment.listed?]
        · rename_i hid
          split
          · rfl
          · rename_i hlt
            have hlen : r.enrolments.length < id := by omega
            rw [List.getElem?_eq_none (by omega), List.getElem?_eq_none (by simp; omega)]
  · simp only [hmade, if_false, ← ht.made, decide_false, Bool.and_false, Bool.false_eq_true]
    exact ht

theorem dropRegistration (ht : x.Tied r) (id : Nat) :
    (x.dropRegistration id).Tied (r.drop id) := by
  unfold Exchange.dropRegistration Roll.drop
  refine ⟨ht.made, ht.living, by simp [← ht.closed], fun m hm => ?_, fun m hm id' => ?_⟩ <;>
    obtain ⟨n, hn, rfl⟩ := Option.map_eq_some_iff.mp hm
  · simp [Notifier.deregister, ht.next n hn]
  · rw [Notifier.deregister, SortedMap.get?_erase, ht.listed n hn, Roll.listed?, Roll.listed?,
      List.getElem?_modify]
    cases r.enrolments[id']? with
    | none => simp
    | some e =>
      by_cases hid : id' = id
      · simp [hid, Enrolment.drop, Enrolment.listed?]
      · simp [hid, Ne.symm hid]

theorem broadcast (ht : x.Tied r) (hr : r.Sound) :
    (x.act .broadcast).Tied (r.enter .broadcast) := by
  unfold Exchange.act Roll.enter
  cases hn : x.notifier with
  | none =>
    have hclosed : r.closed = true := by rw [← ht.closed, hn]; rfl
    simp only [Exchange.broadcast, hn, Option.map_none, Option.elim_none, hclosed, if_true]
    exact ht
  | some n =>
    have hopen : r.closed = false := by rw [← ht.closed, hn]; rfl
    simp only [Exchange.broadcast, hn, Option.map_some, Option.elim_some, hopen,
      Bool.false_eq_true, if_false]
    have hliving : x.runs.contains = fun h => decide (h ∈ r.living) := funext ht.living
    refine ⟨ht.made, fun h => ?_, rfl, fun m hm => ?_, fun m hm id => ?_⟩
    · rw [contains_eq_isSome, ht.get?_runs_broadcast hr hn, Option.isSome_map,
        ← contains_eq_isSome, ht.living]
    · cases hm
      simp [Notifier.prune, ht.next n hn]
    · cases hm
      rw [Notifier.prune, SortedMap.get?_filterValues, ht.listed n hn, Roll.listed?, Roll.listed?,
        List.getElem?_map, hliving]
      cases r.enrolments[id]? with
      | none => rfl
      | some e => exact (listed?_meet r.living e).symm

theorem act (ht : x.Tied r) (hr : r.Sound) (a : ExchangeAct) : (x.act a).Tied (r.enter a) := by
  cases a with
  | addHandler =>
    refine ⟨congrArg (· + 1) ht.made, fun h => ?_, ht.closed, ht.next, ht.listed⟩
    have hliving := ht.living h
    rw [contains_eq_isSome] at hliving
    simp only [Exchange.act, Exchange.addHandler, Roll.enter, contains_eq_isSome]
    rw [SortedMap.get?_insert, ht.made]
    split
    · rename_i heq
      simp [heq]
    · rename_i hne
      simp [hne, hliving]
  | dropHandler handler =>
    refine ⟨ht.made, fun h => ?_, ht.closed, ht.next, ht.listed⟩
    have hliving := ht.living h
    rw [contains_eq_isSome] at hliving
    simp only [Exchange.act, Exchange.dropHandler, Roll.enter, contains_eq_isSome]
    rw [SortedMap.get?_erase]
    split
    · rename_i heq
      simp [heq]
    · rename_i hne
      simp [hne, hliving]
  | register handler => exact ht.register handler
  | dropRegistration id => exact ht.dropRegistration id
  | broadcast => exact ht.broadcast hr
  | dropNotifier =>
    refine ⟨ht.made, ht.living, rfl, fun _ hm => ?_, fun _ hm => ?_⟩ <;> cases hm

/-- The handler of a registration is the one that is listed on the roll. -/
theorem handlerOf? (ht : x.Tied r) (id : Nat) :
    x.handlerOf? id = if r.closed then none else r.listed? id := by
  rw [Exchange.handlerOf?, ← ht.closed]
  cases hn : x.notifier with
  | none => rfl
  | some n => exact ht.listed n hn id

end Tied

theorem tied_after (acts : List ExchangeAct) : (after acts).Tied (Roll.ofActs acts) := by
  induction acts using List.reverseRecOn with
  | nil =>
    refine ⟨rfl, fun _ => rfl, rfl, fun n hn => ?_, fun n hn id => ?_⟩ <;> cases hn <;> rfl
  | append_singleton acts a ih =>
    rw [after_concat, Roll.ofActs_concat]
    exact ih.act (Roll.sound_ofActs acts) a

/-! ## What one act does to the runs of one handler -/

/-- The runs of a handler after one more act on what a roll tells of. -/
def runsAfter (r : Roll) (h : Nat) (ran : Option Nat) : ExchangeAct → Option Nat
  | .addHandler => if h = r.made then some 0 else ran
  | .dropHandler handler => if h = handler then none else ran
  | .broadcast => if r.closed then ran else ran.map (· + r.count fun e => decide (e.handler = h))
  | _ => ran

theorem get?_runs_act {x : Exchange} {r : Roll} (ht : x.Tied r) (hr : r.Sound) (h : Nat)
    (a : ExchangeAct) : (x.act a).runs.get? h = runsAfter r h (x.runs.get? h) a := by
  cases a with
  | addHandler => exact SortedMap.get?_insert.trans (by rw [ht.made]; rfl)
  | dropHandler handler => exact SortedMap.get?_erase
  | register handler =>
    rw [act]
    split
    · cases hn : x.notifier <;> simp [register, hn, runsAfter]
    · rfl
  | broadcast =>
    rw [act, runsAfter, ← ht.closed]
    cases hn : x.notifier with
    | none => simp [broadcast, hn]
    | some n =>
      simp only [broadcast, hn, Option.map_some, Option.elim_some, Option.isNone_some,
        Bool.false_eq_true, if_false]
      exact ht.get?_runs_broadcast hr hn h
  | _ => rfl

variable {acts : List ExchangeAct} {id : Nat}

theorem handlerOf?_after (acts : List ExchangeAct) (id : Nat) : (after acts).handlerOf? id =
    if (Roll.ofActs acts).closed then none else (Roll.ofActs acts).listed? id :=
  (tied_after acts).handlerOf? id

theorem ofActs_dropRegistration (hid : id < (Roll.ofActs acts).enrolments.length)
    (later : List ExchangeAct) : Roll.ofActs (acts ++ .dropRegistration id :: later) =
      (Roll.ofActs (acts ++ later)).drop id := by
  rw [Roll.ofActs_append, List.foldl_cons, Roll.ofActs_append, ← Roll.enterAll_drop hid]
  rfl

/-- Dropping a registration changes no runs of a handler that it is not of, however things go on:
the roll counts the same registrations of that handler at every broadcast. -/
theorem get?_runs_dropRegistration (hid : id < (Roll.ofActs acts).enrolments.length) {h : Nat}
    (hother : ∀ e, (Roll.ofActs acts).enrolments[id]? = some e → e.handler ≠ h)
    (later : List ExchangeAct) : (after (acts ++ .dropRegistration id :: later)).runs.get? h =
      (after (acts ++ later)).runs.get? h := by
  induction later using List.reverseRecOn with
  | nil =>
    rw [after_concat, List.append_nil]
    rfl
  | append_singleton later a ih =>
    have hleft : acts ++ .dropRegistration id :: (later ++ [a]) =
        (acts ++ .dropRegistration id :: later) ++ [a] := by simp
    have hcount : ((Roll.ofActs (acts ++ later)).drop id).count (fun e => decide (e.handler = h)) =
        (Roll.ofActs (acts ++ later)).count fun e => decide (e.handler = h) := by
      refine Roll.count_drop fun e he => decide_eq_false ?_
      have hhandler := Roll.handler_enterAll hid later
      rw [← Roll.ofActs_append, he] at hhandler
      obtain ⟨former, hformer, heq⟩ := Option.map_eq_some_iff.mp hhandler.symm
      exact heq ▸ hother former hformer
    rw [hleft, ← List.append_assoc, after_concat, after_concat,
      get?_runs_act (tied_after _) (Roll.sound_ofActs _),
      get?_runs_act (tied_after _) (Roll.sound_ofActs _), ih, ofActs_dropRegistration hid]
    cases a with
    | broadcast => rw [runsAfter, runsAfter, hcount]; rfl
    | _ => rfl

theorem handlerOf?_dropRegistration (hid : id < (Roll.ofActs acts).enrolments.length) {other : Nat}
    (hne : other ≠ id) (later : List ExchangeAct) :
    (after (acts ++ .dropRegistration id :: later)).handlerOf? other =
      (after (acts ++ later)).handlerOf? other := by
  rw [handlerOf?_after, handlerOf?_after, ofActs_dropRegistration hid, Roll.listed?, Roll.listed?,
    Roll.getElem?_drop_ne hne]
  rfl

/-- What is not listed any more, or not yet, can be dropped as if nothing had been done. -/
theorem after_dropRegistration_of_none (hid : (after acts).handlerOf? id = none)
    (later : List ExchangeAct) :
    after (acts ++ .dropRegistration id :: later) = after (acts ++ later) := by
  rw [after_append, after_append, List.foldl_cons, act, dropRegistration_eq_self hid]

/-- After any acts, a broadcast runs every live handler once for each registration of it that has
not been dropped, runs no other handler, and tells how many it ran.  What is listed are the
undropped registrations without those that an earlier broadcast found dead.  Dropping a
registration, listed or not, changes no other one and no runs of a handler that it is not of,
however things go on. -/
theorem broadcast_after (acts : List ExchangeAct) :
    let x := after acts
    let r := Roll.ofActs acts
    (∀ h, x.runs.contains h = true ↔ h ∈ r.living) ∧
    (x.notifier = none ↔ .dropNotifier ∈ acts) ∧
    (x.broadcast = none ↔ .dropNotifier ∈ acts) ∧
    (∀ ran x', x.broadcast = some (ran, x') →
      ran = r.count (fun e => decide (e.handler ∈ r.living)) ∧
      ∀ h, x'.runs.get? h = (x.runs.get? h).map (· + r.count fun e => decide (e.handler = h))) ∧
    (∀ n, x.notifier = some n →
      n.count + r.count (fun e => e.pruned) = r.count fun _ => true) ∧
    ∀ id later,
      let y := after (acts ++ .dropRegistration id :: later)
      let z := after (acts ++ later)
      (x.handlerOf? id = none → y = z) ∧
      (∀ other ≠ id, y.handlerOf? other = z.handlerOf? other) ∧
      ∀ h, (∀ e, r.enrolments[id]? = some e → e.handler ≠ h) → y.runs.get? h = z.runs.get? h := by
  have ht := tied_after acts
  have hr := Roll.sound_ofActs acts
  have hclosed : (after acts).notifier = none ↔ .dropNotifier ∈ acts := by
    rw [← Roll.closed_ofActs, ← ht.closed, Option.isNone_iff_eq_none]
  refine ⟨fun h => ?_, hclosed, ?_, fun ran x' hx => ?_, fun n hn => ht.count_eq hn,
    fun id later => ⟨fun hid => after_dropRegistration_of_none hid later, ?_⟩⟩
  · rw [ht.living, decide_eq_true_eq]
  · rw [← hclosed]
    exact Option.map_eq_none_iff
  · obtain ⟨n, hn, heq⟩ := Option.map_eq_some_iff.mp hx
    cases heq
    exact ⟨ht.length_live hr hn, fun h => ht.get?_runs_broadcast hr hn h⟩
  · by_cases hid : id < (Roll.ofActs acts).enrolments.length
    · exact ⟨fun other hne => handlerOf?_dropRegistration hid hne later,
        fun h hother => get?_runs_dropRegistration hid hother later⟩
    · have hnone : (after acts).handlerOf? id = none := by
        rw [handlerOf?_after, Roll.listed?, List.getElem?_eq_none (Nat.not_lt.mp hid)]
        split <;> rfl
      rw [after_dropRegistration_of_none hnone later]
      exact ⟨fun _ _ => rfl, fun _ _ => rfl⟩

/-- A handler with two registrations, of which one is dropped after a broadcast, runs three times
in two broadcasts. -/
example : (after [.addHandler, .register 0, .register 0, .broadcast, .dropRegistration 1,
    .broadcast]).runs.get? 0 = some 3 := by
  decide

end Exchange

end FacetedSearch
