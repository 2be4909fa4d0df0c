import FacetedSearch.Proofs.Generation.FieldValues
import FacetedSearch.Proofs.Generation.Thrift
import FacetedSearch.Proofs.Reader.Refusal

/-!
# FacetedSearch.Proofs.Reader.Use — which uses of facet fields are noted

A generation keeps the last use of each facet field.  Which fields were lately used can be read off
all uses since the caches were cleared (`mem_usedFields`).  Sessions that are `Discreet` note none.
A facet request notes the fields that it tries, in ascending order: all of them if it gets as far as
that, else up to the first whose term table it cannot fetch (`uses_execute`).
-/

namespace FacetedSearch

variable {α β : Type} {g : Generation} {field : String}

/-! ## Last uses -/

/-- Note one use of a field. -/
def noteUse (last : SortedMap String Nat) (use : String × Nat) : SortedMap String Nat :=
  last.alter use.1 fun time => max use.2 (time.getD use.2)

/-- The last use of each field. -/
def lastUses (uses : List (String × Nat)) : SortedMap String Nat := uses.foldl noteUse ∅

theorem lastUses_append (uses later : List (String × Nat)) :
    lastUses (uses ++ later) = later.foldl noteUse (lastUses uses) :=
  List.foldl_append

theorem exists_noteUse (m : SortedMap String Nat) (name : String) (time : Nat) (field : String)
    (now maxAge : Nat) :
    (∃ last, (noteUse m (name, time)).get? field = some last ∧ now - last < maxAge) ↔
      (∃ last, m.get? field = some last ∧ now - last < maxAge) ∨
        field = name ∧ now - time < maxAge := by
  rw [noteUse, SortedMap.get?_alter]
  by_cases hf : field = name
  · subst hf
    rw [if_pos rfl]
    cases m.get? field with
    | none => simp
    | some last =>
      simp only [Option.some.injEq, exists_eq_left', Option.getD_some, true_and]
      omega
  · simp [hf]

/-- The last use of a field is young exactly where one of its uses is. -/
theorem exists_lastUses (uses : List (String × Nat)) (field : String) (now maxAge : Nat) :
    (∃ last, (lastUses uses).get? field = some last ∧ now - last < maxAge) ↔
      ∃ time, (field, time) ∈ uses ∧ now - time < maxAge := by
  induction uses using List.reverseRecOn with
  | nil =>
    constructor
    · rintro ⟨last, hlast, -⟩
      cases hlast
    · rintro ⟨time, htime, -⟩
      cases htime
  | append_singleton uses use ih =>
    obtain ⟨name, time⟩ := use
    have hnote : lastUses (uses ++ [(name, time)]) = noteUse (lastUses uses) (name, time) :=
      lastUses_append uses [(name, time)]
    rw [hnote, exists_noteUse, ih]
    simp only [List.mem_append, List.mem_singleton, Prod.mk.injEq, or_and_right, exists_or]
    refine or_congr_right ⟨fun ⟨hf, hage⟩ => ⟨time, ⟨hf, rfl⟩, hage⟩, ?_⟩
    rintro ⟨_, ⟨hf, rfl⟩, hage⟩
    exact ⟨hf, hage⟩

theorem Generation.mem_usedFields {uses : List (String × Nat)}
    (h : g.caches.uses = lastUses uses) (now maxAge : Nat) :
    field ∈ g.usedFields now maxAge ↔ ∃ time, (field, time) ∈ uses ∧ now - time < maxAge := by
  rw [usedFields, SortedMap.mem_keys_iff, ← exists_lastUses, h]
  simp only [SortedMap.get?_filterValues, Option.filter_eq_some_iff, decide_eq_true_eq]

/-- No use is younger than no time at all. -/
theorem Generation.usedFields_zero (g : Generation) (now : Nat) : g.usedFields now 0 = [] := by
  refine List.eq_nil_iff_forall_not_mem.mpr fun field hf => ?_
  obtain ⟨time, htime⟩ := SortedMap.mem_keys_iff.mp hf
  rw [SortedMap.get?_filterValues, Option.filter_eq_some_iff] at htime
  exact Nat.not_lt_zero _ (of_decide_eq_true htime.2)

/-! ## Sessions that note no use -/

namespace Session

/-- The session notes no use of a facet field. -/
def Discreet (s : Session α) : Prop := ∀ g : Generation, (g.run s).2.caches.uses = g.caches.uses

namespace Discreet

/-- What comes second notes no use, so the uses are those that come first. -/
theorem uses_bind {k : α → Session β} (hk : ∀ a, (k a).Discreet) (g : Generation) (s : Session α) :
    (g.run (s >>= k)).2.caches.uses = (g.run s).2.caches.uses := by
  rw [Generation.run_bind]
  rcases g.run s with ⟨e | a, g'⟩
  · rfl
  · exact hk a g'

theorem termTable (field : String) : Discreet (Session.termTable field) := fun g => by
  rw [Generation.snd_run_termTable]
  split
  · rfl
  · split <;> rfl

theorem numberTable (field : String) (type : SortType) :
    Discreet (Session.numberTable field type) := fun g => by
  obtain ⟨numbers, hrun⟩ := g.snd_run_numberTable field type
  rw [hrun]
  exact termTable field g

theorem derived : Derived fun _ => Discreet where
  pure _ _ := rfl
  bind hs hk g := (uses_bind hk g _).trans (hs g)
  rethrow f hs g := by
    have huses := hs g
    rw [Generation.run_tryCatch]
    rcases hr : g.run _ with ⟨e | a, g'⟩ <;> rw [hr] at huses <;> exact huses
  numberTable := numberTable

theorem setTermTable (field : String) (table : TermTable) :
    Discreet (Session.setTermTable field table) := fun _ => rfl

theorem fieldValues (d : DocId) (fields : List String) :
    Discreet (Session.fieldValues d fields) := fun g => by
  have hread := g.caches_readValues d (.ofList fields)
  rw [Generation.run_fieldValues]
  cases g.caches.values.get? (d, (TextSet.ofList fields).checksum) with
  | some kept =>
    dsimp only
    split
    · rfl
    · rw [hread]
  | none =>
    dsimp only
    rcases hr : g.run (Session.readValues d (.ofList fields)) with ⟨e | values, g'⟩ <;>
      rw [hr] at hread
    · exact congrArg Caches.uses hread
    · have huses : g'.caches.uses = g.caches.uses := congrArg Caches.uses hread
      exact huses

theorem documentTerms : Discreet Session.documentTerms := fun _ =>
  congrArg Caches.uses Generation.caches_documentTerms

theorem warm (fields : List String) : Discreet (Reader.warm fields) := by
  induction fields with
  | nil => exact fun _ => rfl
  | cons field rest ih => exact fun g => (uses_bind (fun _ => ih) g _).trans (termTable field g)

end Discreet

end Session

/-! ## Facet requests -/

/-- The first of some fields, up to the first that fails a test. -/
def tried (p : String → Bool) : List String → List String
  | [] => []
  | field :: rest => field :: if p field then tried p rest else []

/-- Whether the term table of a field can be fetched: it is there, or can be built. -/
def Generation.fetches (g : Generation) (field : String) : Bool :=
  g.resident field || (g.view.answer (Session.buildTerms field)).isOk

namespace Generation

theorem isOk_termTable (g : Generation) (field : String) :
    (g.run (Session.termTable field)).1.isOk = g.fetches field := by
  rw [run_termTable, fetches, resident, SortedMap.contains]
  cases g.caches.terms.get? field with
  | some table => rfl
  | none =>
    rw [run_buildTerms, ← View.answer_buildTerms]
    cases g.view.answer (Session.buildTerms field) <;> rfl

/-- Fetching one field makes no difference to whether another can be fetched. -/
theorem fetches_termTable (h : g.fetches field = true) :
    (g.run (Session.termTable field)).2.fetches = g.fetches := by
  rw [snd_run_termTable]
  split
  · rfl
  · rename_i hnone
    split
    · rename_i table _
      funext name
      change (_ || (g.view.answer (Session.buildTerms name)).isOk) = g.fetches name
      rw [resident_withTerms]
      by_cases hname : name = field
      · rw [hname, h]
        simp
      · rw [decide_eq_false hname, Bool.false_or]
        rfl
    · rfl

end Generation

namespace FacetExecutor

variable {executor : FacetExecutor} {request : FacetRequest} {now : Nat}

/-- The facet fields that a request uses on a generation: none where a facet is refused or the
search fails, else its fields in ascending order, up to the first whose term table cannot be
fetched. -/
def used (executor : FacetExecutor) (request : FacetRequest) (g : Generation) : List String :=
  match request.facets.mapM (fun d => d.prepare executor.declared), g.view.search request.search with
  | .ok prepared, .ok _ => tried g.fetches (fields prepared)
  | _, _ => []

theorem run_fetch (now : Nat) (field : String) (g : Generation) :
    (g.run (fetch now field)).2.caches.uses = noteUse g.caches.uses (field, now) ∧
      (g.run (fetch now field)).1.isOk = g.fetches field ∧
      (g.fetches field = true → (g.run (fetch now field)).2.fetches = g.fetches) := by
  let noted : Generation :=
    { g with caches := { g.caches with uses := noteUse g.caches.uses (field, now) } }
  have hrun : g.run (fetch now field) =
      noted.run (Session.termTable field >>= fun table => pure (field, table)) := rfl
  have huses := Session.Discreet.termTable field noted
  have hok := noted.isOk_termTable field
  have hsame : noted.fetches field = true → _ := Generation.fetches_termTable
  rw [hrun, Generation.run_bind]
  rcases hr : noted.run (Session.termTable field) with ⟨e | table, g'⟩ <;>
    rw [hr] at huses hok hsame <;> exact ⟨huses, hok, hsame⟩

theorem uses_fetches (now : Nat) (fields : List String) (g : Generation) :
    (g.run (fields.mapM (fetch now))).2.caches.uses =
      ((tried g.fetches fields).map fun field => (field, now)).foldl noteUse g.caches.uses := by
  induction fields generalizing g with
  | nil => rfl
  | cons field rest ih =>
    obtain ⟨huses, hok, hsame⟩ := run_fetch now field g
    rw [List.mapM_cons, Generation.run_bind, tried, List.map_cons, List.foldl_cons]
    rcases hr : g.run (fetch now field) with ⟨e | entry, g'⟩ <;> rw [hr] at huses hok hsame
    · have hfails : g.fetches field = false := hok.symm
      rw [hfails, if_neg Bool.false_ne_true]
      exact huses
    · have hfetches : g.fetches field = true := hok.symm
      dsimp only at huses hsame ⊢
      rw [Session.Discreet.uses_bind (fun _ => Session.Discreet.derived.pure _), ih g',
        hsame hfetches, huses, hfetches, if_pos rfl]

/-- The uses that a facet request notes, whether it succeeds or not. -/
theorem uses_execute (executor : FacetExecutor) (request : FacetRequest) (now : Nat)
    (g : Generation) : (g.run (executor.execute request now)).2.caches.uses =
      ((executor.used request g).map fun field => (field, now)).foldl noteUse g.caches.uses := by
  rw [execute_eq, Generation.run_bind, Generation.run_mapM_lift, used]
  cases request.facets.mapM fun d => d.prepare executor.declared with
  | error e => rfl
  | ok prepared =>
    dsimp only
    rw [Generation.run_bind, Generation.run_search]
    cases g.view.search request.search with
    | error e => rfl
    | ok docs =>
      dsimp only
      rw [Session.Discreet.uses_bind fun tables =>
        Session.Discreet.derived.named executor request prepared docs tables]
      exact uses_fetches now (fields prepared) (g.called .search)

end FacetExecutor

end FacetedSearch
