import FacetedSearch.Proofs.Facet.History
import FacetedSearch.Proofs.Facet.Repetition
import FacetedSearch.Proofs.Generation.DocumentTerms

/-!
# FacetedSearch.Proofs.Facet.ScanCount — how often the pairs of a field are walked

The scans of a field are kept in check by a balance (`Generation.balance`): the term table of the
field is worth the scan that built it, and a generation that waits for its teardown owes one.  Each
act is charged with its scans (`Charged`); only the acts that clear the caches, now or by asking for
the teardown, are given credit (`charged_undergo`).  The terms of all documents are counted apart:
once gathered they are kept for the whole life of the generation.  The main result is `scans_after`.
-/

namespace FacetedSearch

variable {v : View} {g g' g'' : Generation} {field : String} {credit credit' : Nat}

/-! ## The life of a generation -/

/-- What is done to a generation over a view in its life. -/
inductive LifeAct (v : View)
  | read (a : ReadAct v)
  | acquire
  | release
  | tryHold
  /-- Ask for the teardown, and for a signal if one waits for it. -/
  | mark (wait : Bool)

namespace LifeAct

/-- Whether the terms of all documents are asked for. -/
def gathers : LifeAct v → Bool
  | .read .documentTerms => true
  | _ => false

/-- Whether the caches are cleared, or the teardown is asked for, which clears them. -/
def clears : LifeAct v → Bool
  | .read .lowMemory => true
  | .mark _ => true
  | _ => false

theorem eq_of_gathers {a : LifeAct v} (h : a.gathers = true) : a = .read .documentTerms := by
  cases a with
  | read a => cases a <;> first | rfl | cases h
  | _ => cases h

end LifeAct

namespace Generation

/-- The generation after one act. -/
def undergo (g : Generation) : LifeAct v → Generation
  | .read a => g.read a
  | .acquire => g.acquire
  | .release => g.release
  | .tryHold => g.tryHold.2
  | .mark wait => g.markForDisposal wait

/-- How often the pairs of a field are walked by those of some acts that pass a test. -/
def scansBy (g : Generation) (p : LifeAct v → Bool) (field : String) : List (LifeAct v) → Nat
  | [] => 0
  | a :: rest =>
    (if p a then (g.undergo a).scans field - g.scans field else 0) +
      (g.undergo a).scansBy p field rest

theorem Coherent.undergo (h : g.Coherent v) (a : LifeAct v) : (g.undergo a).Coherent v := by
  cases a with
  | read a => exact h.read a
  | acquire => exact h.congr rfl rfl rfl rfl rfl
  | release => exact h.release
  | tryHold => exact h.tryHold
  | mark wait =>
    have hoffer : (g.offerSignal wait).acquire.supersede.Coherent v := by
      rw [supersede, offerSignal]
      split <;> split <;> exact h.congr rfl rfl rfl rfl rfl
    rw [Generation.undergo, markForDisposal_eq, giveSignal]
    split
    · exact hoffer.release.congr rfl rfl rfl rfl rfl
    · exact hoffer.release

theorem Coherent.undergoAll (h : g.Coherent v) (acts : List (LifeAct v)) :
    (acts.foldl Generation.undergo g).Coherent v := by
  induction acts generalizing g with
  | nil => exact h
  | cons a rest ih => exact ih (h.undergo a)

/-! ## What an act is charged -/

/-- What there is for the scans of a field: its term table, and what is owed to nobody. -/
def balance (g : Generation) (field : String) : Nat :=
  (g.resident field).toNat + if g.lifecycle = .superseded then 0 else 1

/-- On the way from one generation to the other the scans of the field, if its term table can be
built, are paid for out of a credit. -/
structure Charged (field : String) (credit : Nat) (g g' : Generation) : Prop where
  view : g'.view = g.view
  documentTerms : g'.documentTerms = g.documentTerms
  scans_mono : g.scans field ≤ g'.scans field
  scans_le : g.view.Builds field →
    g'.scans field + g.balance field ≤ g.scans field + g'.balance field + credit

namespace Charged

theorem refl (g : Generation) : Charged field 0 g g :=
  ⟨rfl, rfl, Nat.le_refl _, fun _ => Nat.le_refl _⟩

theorem trans (h : Charged field credit g g') (h' : Charged field credit' g' g'') :
    Charged field (credit + credit') g g'' := by
  refine ⟨h'.view.trans h.view, h'.documentTerms.trans h.documentTerms,
    Nat.le_trans h.scans_mono h'.scans_mono, fun hb => ?_⟩
  have hle := h.scans_le hb
  have hle' := h'.scans_le (h.view ▸ hb)
  omega

theorem acquire (g : Generation) : Charged field 0 g g.acquire :=
  ⟨rfl, rfl, Nat.le_refl _, fun _ => Nat.le_refl _⟩

theorem decrement (g : Generation) : Charged field 0 g g.decrement :=
  ⟨rfl, rfl, Nat.le_refl _, fun _ => Nat.le_refl _⟩

theorem offerSignal (g : Generation) (wait : Bool) : Charged field 0 g (g.offerSignal wait) := by
  rw [Generation.offerSignal]
  split <;> exact ⟨rfl, rfl, Nat.le_refl _, fun _ => Nat.le_refl _⟩

theorem giveSignal (g : Generation) (wait : Bool) : Charged field 0 g (g.giveSignal wait) := by
  rw [Generation.giveSignal]
  split <;> exact ⟨rfl, rfl, Nat.le_refl _, fun _ => Nat.le_refl _⟩

theorem clearCaches (g : Generation) : Charged field 1 g g.clearCaches := by
  refine ⟨rfl, rfl, Nat.le_refl _, fun _ => ?_⟩
  have hworth := Bool.toNat_le (g.resident field)
  rw [balance, balance, show g.clearCaches.lifecycle = g.lifecycle from rfl]
  change g.scans field + _ ≤ g.scans field + (0 + _) + 1
  omega

/-- Asking for the teardown takes the credit that the teardown will need. -/
theorem supersede (g : Generation) : Charged field 1 g g.supersede := by
  rw [Generation.supersede]
  split
  · rename_i hlive
    refine ⟨rfl, rfl, Nat.le_refl _, fun _ => ?_⟩
    rw [balance, balance, hlive]
    exact Nat.le_refl _
  · exact ⟨rfl, rfl, Nat.le_refl _, fun _ => Nat.le_succ _⟩

theorem tearDown (g : Generation) : Charged field 0 g g.tearDown := by
  rw [Generation.tearDown]
  split
  · rename_i hsuperseded
    have hworth := Bool.toNat_le (g.resident field)
    have hscans : (ViewCall.close :: g.calls).count (.scan field) = g.scans field :=
      List.count_cons_of_ne (by simp)
    refine ⟨rfl, rfl, Nat.le_of_eq hscans.symm, fun _ => ?_⟩
    rw [balance, if_pos hsuperseded]
    change (ViewCall.close :: g.calls).count (.scan field) + _ ≤ g.scans field + (0 + 1) + 0
    omega
  · exact .refl g

theorem release (g : Generation) : Charged field 0 g g.release := by
  rw [Generation.release]
  split
  · exact (decrement g).trans (tearDown _)
  · exact decrement g

theorem tryHold (g : Generation) : Charged field 0 g g.tryHold.2 := by
  rw [Generation.tryHold]
  split
  · exact (acquire g).trans (release _)
  · exact acquire g

theorem markForDisposal (g : Generation) (wait : Bool) :
    Charged field 1 g (g.markForDisposal wait) := by
  rw [markForDisposal_eq]
  exact ((((offerSignal g wait).trans (acquire _)).trans (supersede _)).trans (release _)).trans
    (giveSignal _ wait)

/-- A thrifty session pays for its scans with the tables it leaves. -/
theorem run {α : Type} {s : Session α} (hs : s.Thrifty) (g : Generation) :
    Charged field 0 g (g.run s).2 := by
  refine ⟨(hs.reads g).view, hs.documentTerms g, (hs.reads g).scans_mono field, fun hb => ?_⟩
  have hle := hs.scans_le g field hb
  rw [balance, balance, (hs.reads g).lifecycle]
  omega

end Charged

/-- Every act but gathering is paid for, on credit where the caches are cleared. -/
theorem charged_undergo (g : Generation) (field : String) {a : LifeAct v} (ha : a.gathers = false) :
    Charged field a.clears.toNat g (g.undergo a) := by
  cases a with
  | read a =>
    cases a with
    | runFacets executor request now =>
      exact .run (Session.Thrifty.closed.execute executor request now) g
    | termTable name => exact .run (.termTable name) g
    | numberTable name type => exact .run (.numberTable name type) g
    | setTermTable name table built => exact .run (.setTermTable name table) g
    | isCached name now => exact .run (.isCached name now) g
    | documentTerms => cases ha
    | fieldValues d fields => exact .run (.fieldValues d fields) g
    | prewarm fields =>
      rw [undergo, Generation.read]
      split
      · exact ((Charged.tryHold g).trans (.run (Session.Thrifty.closed.warm fields) _)).trans
          (.release _)
      · exact .tryHold g
    | lowMemory => exact .clearCaches g
  | acquire => exact .acquire g
  | release => exact .release g
  | tryHold => exact .tryHold g
  | mark wait => exact .markForDisposal g wait

/-! ## Counting over a whole life -/

/-- The view stays, and scans that were made stay made. -/
theorem undergo_frame (g : Generation) (field : String) (a : LifeAct v) :
    (g.undergo a).view = g.view ∧ g.scans field ≤ (g.undergo a).scans field := by
  cases ha : a.gathers with
  | false =>
    have hcharged := g.charged_undergo field ha
    exact ⟨hcharged.view, hcharged.scans_mono⟩
  | true =>
    obtain rfl := LifeAct.eq_of_gathers ha
    have hreads := Session.Reads.documentTerms g
    exact ⟨hreads.view, hreads.scans_mono field⟩

/-- Every scan is made by an act that passes a test or by one that does not. -/
theorem scans_undergoAll (g : Generation) (p : LifeAct v → Bool) (field : String)
    (acts : List (LifeAct v)) : (acts.foldl undergo g).scans field =
      g.scans field + g.scansBy (fun a => !p a) field acts + g.scansBy p field acts := by
  induction acts generalizing g with
  | nil => rfl
  | cons a rest ih =>
    have hmono := (g.undergo_frame field a).2
    rw [List.foldl_cons, ih, scansBy, scansBy]
    cases p a <;> simp <;> omega

/-- The potential method: what the acts spend and what there was at first is no more than what
there is at last and the credit that was given. -/
theorem scansBy_add_le (p q : LifeAct v → Bool) (potential : Generation → Nat)
    (hstep : ∀ (g : Generation) (a : LifeAct v), g.view = v →
      (if p a then (g.undergo a).scans field - g.scans field else 0) + potential g ≤
        potential (g.undergo a) + (q a).toNat)
    (hv : g.view = v) (acts : List (LifeAct v)) :
    g.scansBy p field acts + potential g ≤ potential (acts.foldl undergo g) + acts.countP q := by
  induction acts generalizing g with
  | nil => simp [scansBy]
  | cons a rest ih =>
    have hfirst := hstep g a hv
    have hrest := ih ((g.undergo_frame field a).1.trans hv)
    have hcount : (a :: rest).countP q = rest.countP q + (q a).toNat := by
      rw [List.countP_cons]
      cases q a <;> rfl
    rw [List.foldl_cons, scansBy, hcount]
    omega

/-- Gathering is not charged to the balance, and every other act is paid for. -/
theorem balance_undergo (hv : g.view = v) (hb : v.Builds field) (a : LifeAct v) :
    (if !a.gathers then (g.undergo a).scans field - g.scans field else 0) + g.balance field ≤
      (g.undergo a).balance field + a.clears.toNat := by
  cases ha : a.gathers with
  | false =>
    have hle := (g.charged_undergo field ha).scans_le (hv ▸ hb)
    have hmono := (g.undergo_frame field a).2
    rw [Bool.not_false, if_pos rfl]
    omega
  | true =>
    obtain rfl := LifeAct.eq_of_gathers ha
    have hlife : (g.undergo (.read .documentTerms : LifeAct v)).lifecycle = g.lifecycle :=
      (Session.Reads.documentTerms g).lifecycle
    have hcaches : (g.undergo (.read .documentTerms : LifeAct v)).caches = g.caches :=
      caches_documentTerms
    rw [Bool.not_true, if_neg Bool.false_ne_true, balance, balance, resident, resident, hlife,
      hcaches]
    omega

/-- Gathering scans each field once and keeps what it gathered; no other act touches that. -/
theorem documentTerms_undergo (hv : g.view = v) (hfields : v.fields.Nodup)
    (hscan : ∀ f ∈ v.fields, ∃ pairs, v.scan f = .ok pairs) (field : String) (a : LifeAct v) :
    (if a.gathers then (g.undergo a).scans field - g.scans field else 0) +
      g.documentTerms.isSome.toNat ≤ (g.undergo a).documentTerms.isSome.toNat := by
  cases ha : a.gathers with
  | false =>
    rw [(g.charged_undergo field ha).documentTerms, if_neg Bool.false_ne_true]
    omega
  | true =>
    obtain rfl := LifeAct.eq_of_gathers ha
    obtain ⟨hsome, hcount⟩ := g.scans_documentTerms (hv ▸ hscan) field
    have hone : g.view.fields.count field ≤ 1 := hv ▸ List.nodup_iff_count.mp hfields field
    rw [undergo, Generation.read, hsome, hcount, if_pos rfl, Nat.add_sub_cancel_left]
    cases g.documentTerms.isSome with
    | true => exact Nat.le_refl _
    | false => exact hone

/-- Apart from gathering, a field is scanned once, and once more for each time the caches are
cleared. -/
theorem scansBy_reading_le (number : Nat) (hb : v.Builds field) (acts : List (LifeAct v)) :
    (ofView number v).scansBy (fun a => !a.gathers) field acts ≤
      acts.countP LifeAct.clears + 1 := by
  have hsum := scansBy_add_le (g := ofView number v) (fun a => !a.gathers) LifeAct.clears
    (fun g => g.balance field) (fun g a hv => balance_undergo hv hb a) rfl acts
  -- the balance is 1 at first and 2 at most
  have hlast : (acts.foldl undergo (ofView number v)).balance field ≤ 2 := by
    have hworth := Bool.toNat_le ((acts.foldl undergo (ofView number v)).resident field)
    rw [balance]
    split <;> omega
  change _ + 1 ≤ _ at hsum
  omega

/-- Where each field is named once and can be scanned, gathering scans each once, also over several
clearings of the caches. -/
theorem scansBy_gathers_le (number : Nat) (hfields : v.fields.Nodup)
    (hscan : ∀ f ∈ v.fields, ∃ pairs, v.scan f = .ok pairs) (field : String)
    (acts : List (LifeAct v)) : (ofView number v).scansBy LifeAct.gathers field acts ≤ 1 := by
  have hsum := scansBy_add_le (g := ofView number v) LifeAct.gathers (fun _ => false)
    (fun g => g.documentTerms.isSome.toNat)
    (fun g a hv => documentTerms_undergo hv hfields hscan field a) rfl acts
  have hlast := Bool.toNat_le (acts.foldl undergo (ofView number v)).documentTerms.isSome
  rw [List.countP_false, Function.const] at hsum
  omega

end Generation

/-- Whatever is done to a generation in its life: its view names each field once and can build the
term table of each.  A field whose term table can be built is scanned at most once, besides the
gathering of the terms of all documents, if the caches are never cleared, and at most once more for
each time they are.  Gathering adds at most one scan of a field.  There are no other scans.  A facet
request that succeeded makes no scan when it is run again at once. -/
theorem scans_after (v : View) (number : Nat) (acts : List (LifeAct v))
    (hfields : v.fields.Nodup) (hbuilds : ∀ field ∈ v.fields, v.Builds field) :
    let fresh := Generation.ofView number v
    let g := acts.foldl Generation.undergo fresh
    (∀ field, v.Builds field →
        fresh.scansBy (fun a => !a.gathers) field acts ≤ acts.countP LifeAct.clears + 1) ∧
      (∀ field, fresh.scansBy LifeAct.gathers field acts ≤ 1) ∧
      (∀ field, g.scans field = fresh.scansBy (fun a => !a.gathers) field acts +
        fresh.scansBy LifeAct.gathers field acts) ∧
      ∀ (executor : FacetExecutor) (request : FacetRequest) (now later : Nat)
          (results : FacetResults) (g' : Generation),
        g.run (executor.execute request now) = (.ok results, g') →
          (g'.run (executor.execute request later)).2.countCalls ViewCall.isScan =
            g'.countCalls ViewCall.isScan := by
  intro fresh g
  have hscan : ∀ field ∈ v.fields, ∃ pairs, v.scan field = .ok pairs := fun field hf =>
    (hbuilds field hf).exists_scan
  have hcoherent : g.Coherent v := (Generation.Coherent.ofView number v).undergoAll acts
  refine ⟨fun field hb => Generation.scansBy_reading_le number hb acts,
    fun field => Generation.scansBy_gathers_le number hfields hscan field acts, fun field => ?_, ?_⟩
  · rw [Generation.scans_undergoAll fresh LifeAct.gathers field acts]
    change 0 + _ + _ = _
    rw [Nat.zero_add]
  · intro executor request now later results g' hrun
    exact (Session.Repeatable.execute executor request).countCalls_again hcoherent hrun later

/-- A field is scanned on first use, again after the caches were cleared, and once for the terms of
all documents; not when it is used again. -/
theorem scans_twoColors :
    let acts : List (LifeAct twoColors) :=
      [.read (.termTable "color"), .read .lowMemory, .read (.prewarm ["color"]),
        .read (.numberTable "color" .int), .read .documentTerms, .read .documentTerms]
    let fresh := Generation.ofView 0 twoColors
    twoColors.fields.Nodup ∧ (∀ field ∈ twoColors.fields, twoColors.Builds field) ∧
      fresh.scansBy (fun a => !a.gathers) "color" acts ≤ 2 ∧
      fresh.scansBy LifeAct.gathers "color" acts ≤ 1 ∧
      (acts.foldl Generation.undergo fresh).scans "color" = 3 := by
  intro acts fresh
  have hfields : twoColors.fields.Nodup := by decide
  have hcolor : twoColors.Builds "color" := ⟨_, rfl⟩
  have hsize : twoColors.Builds "size" := ⟨_, rfl⟩
  have hbuilds : ∀ field ∈ twoColors.fields, twoColors.Builds field := by
    intro field hf
    rcases List.mem_cons.mp hf with rfl | hf
    · exact hcolor
    · obtain rfl := List.mem_singleton.mp hf
      exact hsize
  obtain ⟨hreading, hgathers, -, -⟩ := scans_after twoColors 0 acts hfields hbuilds
  exact ⟨hfields, hbuilds, hreading "color" hcolor, hgathers "color", by decide⟩

end FacetedSearch
