import FacetedSearch.Facet.Json
import Mathlib.Data.List.Nodup

/-!
# FacetedSearch.Proofs.Json.Record — values that are written in a form that reads back

A reader may accept a value in several forms: a part left out, a choice as a key, a record as a
list.  A value `Rereads` when the one form it is written in is read as that value, for every value
that the reader gives at all.  The readers of parts, lists and choices keep this, and an object with
the names of a record gives its parts in their order (`RecordForm.parts?_record`).
-/

namespace FacetedSearch.Json

variable {α : Type} {read : Tree → Option α} {write : α → Tree}

/-- Whatever is read of a tree is written in a form that reads as the same. -/
def Rereads (read : Tree → Option α) (write : α → Tree) : Prop :=
  ∀ ⦃t a⦄, read t = some a → read (write a) = some a

/-- The same of a part of a record, which may be left out when it is read and is always written. -/
def RereadsPart (read : Option Tree → Option α) (write : α → Tree) : Prop :=
  ∀ ⦃part a⦄, read part = some a → read (some (write a)) = some a

/-! ## Values -/

theorem rereads_text : Rereads Tree.text? .ofString := fun _ _ _ => rfl

theorem rereads_boolean : Rereads Tree.boolean? .boolean := fun _ _ _ => rfl

theorem word?_natural {bits n : Nat} (h : n < Nat.pow 2 bits) :
    Tree.word? bits (.natural n) = some n := by
  rw [Tree.word?, if_pos h]

theorem rereads_word (bits : Nat) : Rereads (Tree.word? bits) .natural := by
  intro t n h
  cases t with
  | natural m =>
    rw [Tree.word?] at h
    split at h
    · cases h
      exact word?_natural ‹_›
    · cases h
  | _ => cases h

/-- A choice is written as a text, which takes no room. -/
theorem rereads_choice {ofName? : String → Option α} {name : α → String}
    (hname : ∀ a, ofName? (name a) = some a) (room : Nat) :
    Rereads (Tree.choice? ofName? room) fun a => .ofString (name a) := fun _ a _ => hname a

theorem Rereads.mapM (h : Rereads read write) {l : List Tree} {as : List α}
    (has : l.mapM read = some as) : (as.map write).mapM read = some as := by
  induction l generalizing as with
  | nil =>
    cases has
    rfl
  | cons t l ih =>
    rw [List.mapM_cons] at has
    obtain ⟨a, ha, has⟩ := Option.bind_eq_some_iff.mp has
    obtain ⟨rest, hrest, ⟨⟩⟩ := Option.bind_eq_some_iff.mp has
    rw [List.map_cons, List.mapM_cons, h ha, ih hrest]
    rfl

theorem Rereads.items (h : Rereads read write) :
    Rereads (Tree.items? read) fun as => .list (as.map write) := by
  intro t as has
  cases t with
  | list items => exact h.mapM has
  | _ => cases has

/-- What a container holds is read with the room that it leaves. -/
theorem Rereads.within {read : Nat → Tree → Option α} {room : Nat}
    (h : ∀ inner, room = inner + 1 → Rereads (read inner) write) :
    Rereads (fun t => within room fun room => read room t) write := by
  intro t a ha
  cases room with
  | zero => cases ha
  | succ inner => exact h inner rfl ha

/-! ## Parts -/

theorem Rereads.required (h : Rereads read write) : RereadsPart (required read) write := by
  intro part a ha
  obtain ⟨t, -, ht⟩ := Option.bind_eq_some_iff.mp ha
  exact h ht

/-- A part that is there has to be told from one that is null. -/
theorem Rereads.optional (h : Rereads read write) (hne : ∀ a, write a ≠ .null) :
    RereadsPart (optional read) (.orNull write) := by
  intro part value hvalue
  cases value with
  | none => rfl
  | some a =>
    have ha : ∃ t, read t = some a := by
      unfold Json.optional at hvalue
      split at hvalue
      · cases hvalue
      · cases hvalue
      · obtain ⟨_, ht, ⟨⟩⟩ := Option.map_eq_some_iff.mp hvalue
        exact ⟨_, ht⟩
    obtain ⟨t, ht⟩ := ha
    rw [Tree.orNull, Json.optional, h ht]
    · rfl
    · exact hne a

theorem Rereads.defaulted (h : Rereads read write) {value : α}
    (hvalue : read (write value) = some value) : RereadsPart (defaulted value read) write := by
  intro part a ha
  cases part with
  | none =>
    cases ha
    exact hvalue
  | some t => exact h ha

/-! ## Records -/

theorem lookup_of_mem {parts : List (String × Tree)} (h : (parts.map Prod.fst).Nodup)
    {p : String × Tree} (hp : p ∈ parts) :
    (parts.map fun q => (some q.1, q.2)).lookup (some p.1) = some p.2 := by
  induction parts with
  | nil => cases hp
  | cons q parts ih =>
    obtain ⟨hq, hparts⟩ := List.nodup_cons.mp h
    rw [List.map_cons]
    rcases List.mem_cons.mp hp with rfl | hp
    · exact List.lookup_cons_self
    · have hne : some p.1 ≠ some q.1 := fun he =>
        hq (Option.some.inj he ▸ List.mem_map_of_mem hp)
      rw [List.lookup_cons, beq_false_of_ne hne]
      exact ih hparts hp

/-- A record that is written with the names of a form gives its parts in their order. -/
theorem RecordForm.parts?_record (form : RecordForm) (parts : List (String × Tree))
    (hnames : parts.map Prod.fst = form.names) (hnodup : form.names.Nodup) :
    form.parts? (.record parts) = some (parts.map fun p => some p.2) := by
  have hkeys : (parts.map fun q => (some q.1, q.2)).map Prod.fst = form.names.map some := by
    rw [← hnames, List.map_map, List.map_map]
    rfl
  have haccepts : form.accepts (form.names.map some) = true := by
    rw [RecordForm.accepts, Bool.and_eq_true, List.all_eq_true, List.all_eq_true]
    constructor
    · intro key hkey
      obtain ⟨name, hname, rfl⟩ := List.mem_map.mp hkey
      simp [hname]
    · intro name _
      exact decide_eq_true (List.nodup_iff_count_le_one.mp (hnodup.map fun _ _ => Option.some.inj) _)
  have hparts : (form.names.map fun name =>
      (parts.map fun q => (some q.1, q.2)).lookup (some name)) = parts.map fun p => some p.2 := by
    rw [← hnames, List.map_map]
    exact List.map_congr_left fun p hp => lookup_of_mem (hnames ▸ hnodup) hp
  change (if form.accepts ((parts.map fun q => (some q.1, q.2)).map Prod.fst) then _ else _) = _
  rw [hkeys, if_pos haccepts, hparts]

/-- A record is written with all its parts, so its reader has to give them back. -/
theorem rereads_record (form : RecordForm) {fields : α → List (String × Tree)} {room : Nat}
    {body : Nat → List (Option Tree) → Option α} (hnodup : form.names.Nodup)
    (hnames : ∀ a, (fields a).map Prod.fst = form.names)
    (hbody : ∀ inner, room = inner + 1 → ∀ parts a, body inner parts = some a →
      body inner ((fields a).map fun p => some p.2) = some a) :
    Rereads (fun t => within room fun room => form.parts? t >>= body room)
      fun a => .record (fields a) := by
  refine Rereads.within fun inner hroom t a h => ?_
  obtain ⟨parts, -, h⟩ := Option.bind_eq_some_iff.mp h
  rw [form.parts?_record (fields a) (hnames a) hnodup]
  exact hbody inner hroom parts a h

end FacetedSearch.Json
