import FacetedSearch.Proofs.Facet.Fault
import FacetedSearch.Proofs.Facet.History

/-!
# FacetedSearch.Proofs.Generation.FieldValues — stored values under a checksum

The stored values of a document are kept under the checksum of the fields they were read for, and
different fields may have one checksum.  None of that shows: after any history of reading a
generation the values are those that a gathering field by field gives (`View.Gathers`), and a
gathering that fails leaves the caches as they were (`fieldValues_after`).
-/

namespace FacetedSearch

open SortKey (Before)

variable {v : View} {d : DocId} {names : List String}

/-! ## Gathering field by field -/

namespace View

/-- A document stores a value in one of some fields. -/
def Stores (v : View) (d : DocId) (names : List String) (s : String) : Prop :=
  ∃ name ∈ names, ∃ values, v.read d name = .ok values ∧ s ∈ values

/-- What the stored values of a document over some fields come to, where the fields are read in
turn. -/
inductive Gathers (v : View) (d : DocId) (names : List String) : Except Error (List String) → Prop
  /-- The first field that cannot be read tells why. -/
  | unreadable {before after : List String} {name : String} {e : Error}
    (hnames : names = before ++ name :: after)
    (hbefore : ∀ n ∈ before, ∃ values, v.read d n = .ok values)
    (h : v.read d name = .error e) : Gathers v d names (.error e)
  | none (hread : ∀ n ∈ names, ∃ values, v.read d n = .ok values)
    (h : ∀ s, ¬ v.Stores d names s) : Gathers v d names (.error (.noStoredValues d names))
  /-- Every value is listed once, in ascending order. -/
  | found {values : List String} (hread : ∀ n ∈ names, ∃ values, v.read d n = .ok values)
    (hne : values ≠ []) (hascending : values.Pairwise Before)
    (h : ∀ s, s ∈ values ↔ v.Stores d names s) : Gathers v d names (.ok values)

theorem answer_read (v : View) (d : DocId) (name : String) :
    v.answer (Session.read d name) = v.read d name := by
  rw [answer, Generation.run_read]
  rfl

theorem answer_readValues (v : View) (d : DocId) (fields : TextSet) :
    v.answer (Session.readValues d fields) = fields.toList.mapM (v.read d) >>= fun rows =>
      match TextSet.ofValues rows.flatten with
      | .ok set => .ok set
      | .error _ => .error (.noStoredValues d fields.toList) := by
  have hrows := Session.Transparent.closed.mapM (Session.Transparent.read (v := v) d) fields.toList
  rw [Session.readValues, answer_bind hrows, answer_mapM (Session.Transparent.read d)]
  · simp only [answer_read]
    congr 1
    funext rows
    cases TextSet.ofValues rows.flatten <;> rfl
  · intro rows
    cases TextSet.ofValues rows.flatten with
    | ok set => exact .pure set
    | error _ => exact .throw _

theorem mem_flatten_iff {rows : List (List String)} (h : names.mapM (v.read d) = .ok rows)
    {s : String} : s ∈ rows.flatten ↔ v.Stores d names s := by
  rw [List.mem_flatten]
  constructor
  · rintro ⟨values, hvalues, hs⟩
    obtain ⟨name, hname, hread⟩ := exists_mem_of_mapM_eq_ok h hvalues
    exact ⟨name, hname, values, hread, hs⟩
  · rintro ⟨name, hname, values, hread, hs⟩
    exact ⟨values, mem_of_mapM_eq_ok h hname hread, hs⟩

/-- On a fresh generation the values are gathered field by field. -/
theorem gathers_answer (v : View) (d : DocId) (fields : List String) :
    v.Gathers d (SortedSet.ofList fields).toList
      ((v.answer (Session.fieldValues d fields)).map TextSet.toList) := by
  rw [answer_fieldValues, answer_readValues]
  show v.Gathers d (SortedSet.ofList fields).toList
    (((SortedSet.ofList fields).toList.mapM (v.read d) >>= _).map _)
  cases hrows : (SortedSet.ofList fields).toList.mapM (v.read d) with
  | error e =>
    obtain ⟨before, name, after, hnames, hbefore, h⟩ := mapM_eq_error_iff.mp hrows
    exact .unreadable hnames hbefore h
  | ok rows =>
    have hread := exists_mapM_iff.mp ⟨rows, hrows⟩
    show v.Gathers d _ (Except.map _ (match TextSet.ofValues rows.flatten with
      | .ok set => .ok set
      | .error _ => _))
    unfold TextSet.ofValues
    cases hflat : rows.flatten with
    | nil =>
      refine .none hread ?_
      intro s hs
      rw [← mem_flatten_iff hrows, hflat] at hs
      cases hs
    | cons first rest =>
      have hmem (s : String) : s ∈ (SortedSet.ofList (first :: rest)).toList ↔
          v.Stores d (SortedSet.ofList fields).toList s := by
        rw [← mem_flatten_iff hrows, hflat]
        exact SortedSet.mem_ofList
      refine .found hread ?_ (SortedSet.ofList (first :: rest)).ascending hmem
      have hfirst : first ∈ SortedSet.ofList (first :: rest) :=
        SortedSet.mem_ofList.mpr List.mem_cons_self
      exact List.ne_nil_of_mem hfirst

end View

/-! ## What a failed gathering leaves behind -/

namespace Generation

theorem caches_mapM_read (g : Generation) (d : DocId) (names : List String) :
    (g.run (names.mapM (Session.read d))).2.caches = g.caches := by
  induction names generalizing g with
  | nil => rfl
  | cons name rest ih =>
    have hrest := ih (g.called (.read d name))
    rw [List.mapM_cons, run_bind, run_read]
    cases g.view.read d name with
    | error e => rfl
    | ok values =>
      dsimp only
      rw [run_bind]
      rcases hr : (g.called (.read d name)).run (rest.mapM (Session.read d)) with ⟨e | rows, g'⟩ <;>
        rw [hr] at hrest
      · exact hrest
      · exact hrest

theorem caches_readValues (g : Generation) (d : DocId) (fields : TextSet) :
    (g.run (Session.readValues d fields)).2.caches = g.caches := by
  have hrows := g.caches_mapM_read d fields.toList
  rw [Session.readValues, run_bind]
  rcases hr : g.run (fields.toList.mapM (Session.read d)) with ⟨e | rows, g'⟩ <;> rw [hr] at hrows
  · exact hrows
  · dsimp only
    cases TextSet.ofValues rows.flatten with
    | ok set => exact hrows
    | error _ => exact hrows

theorem caches_fieldValues_of_error {g : Generation} {fields : List String} {e : Error}
    (h : (g.run (Session.fieldValues d fields)).1 = .error e) :
    (g.run (Session.fieldValues d fields)).2.caches = g.caches := by
  have hread := g.caches_readValues d (.ofList fields)
  rw [run_fieldValues] at h ⊢
  cases hkept : g.caches.values.get? (d, (TextSet.ofList fields).checksum) with
  | some kept =>
    dsimp only
    split
    · rfl
    · exact hread
  | none =>
    rw [hkept] at h
    dsimp only at h ⊢
    rcases hr : g.run (Session.readValues d (.ofList fields)) with ⟨fault | values, g'⟩ <;>
      rw [hr] at h hread
    · exact hread
    · cases h

end Generation

/-- Neither the caches nor a checksum that different fields share show.  After any history of
reading a generation, with memory running low in between, asking for the stored values of a document
gives what gathering them field by field gives, in ascending order of the fields: every value once
and in ascending order, or the failure of the first field that cannot be read, or that there are
none.  A failure leaves the caches as they were. -/
theorem fieldValues_after (v : View) (number : Nat) (acts : List (ReadAct v)) (d : DocId)
    (fields : List String) :
    let g := acts.foldl Generation.read (Generation.ofView number v)
    let names := (SortedSet.ofList fields).toList
    let asked := g.run (Session.fieldValues d fields)
    names.Pairwise Before ∧ (∀ name, name ∈ names ↔ name ∈ fields) ∧
      v.Gathers d names (asked.1.map TextSet.toList) ∧
      ∀ e, asked.1 = .error e → asked.2.caches = g.caches ∧
        (e.kind = .configuration ∨ ∃ name ∈ fields, v.read d name = .error e) := by
  intro g names asked
  have hcoherent := Generation.coherent_after v number acts
  have hasked : v.Gathers d names (asked.1.map TextSet.toList) := by
    have hanswer : asked.1 = v.answer (Session.fieldValues d fields) :=
      (Session.Transparent.fieldValues d fields g hcoherent).1
    rw [hanswer]
    exact v.gathers_answer d fields
  refine ⟨(SortedSet.ofList fields).ascending, fun name => SortedSet.mem_ofList, hasked, ?_⟩
  intro e he
  refine ⟨Generation.caches_fieldValues_of_error he, ?_⟩
  rw [he] at hasked
  cases hasked with
  | unreadable hnames _ h =>
    refine .inr ⟨_, SortedSet.mem_ofList.mp ?_, h⟩
    show _ ∈ names
    rw [hnames]
    simp
  | none => exact .inl rfl

/-- Two fields with one checksum are asked for in turn; each gives its own value. -/
example :
    let v : View := { maxDoc := 1, fields := [], search _ := .ok ∅, scan _ := .ok []
                      read _ name := .ok [name], close := .ok () }
    let asked := (Generation.ofView 0 v).run (Session.fieldValues 0 ["plumless"])
    (TextSet.ofList ["plumless"]).checksum = (TextSet.ofList ["buckeroo"]).checksum ∧
      asked.1.toOption.map TextSet.toList = some ["plumless"] ∧
      (asked.2.run (Session.fieldValues 0 ["buckeroo"])).1.toOption.map TextSet.toList =
        some ["buckeroo"] := by
  decide +kernel

end FacetedSearch
