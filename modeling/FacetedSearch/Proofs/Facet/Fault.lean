import FacetedSearch.Facet.Prepare
import FacetedSearch.Proofs.TermTable

/-!
# FacetedSearch.Proofs.Facet.Fault — what is wrong with a facet

`FacetDefinition.Invalid` lists the ways in which a facet does not fit the declared fields, and
`Fault` says which of several is told.  Checking refuses a facet exactly where there is a fault
(`prepare_eq_error_iff`), which is where it is invalid (`Fault.invalid`, `Invalid.exists_fault`),
and every fault is one of configuration (`Fault.kind`).
-/

namespace FacetedSearch

/-! ## The first failure of several steps -/

section Steps

variable {ε α β : Type} {e : ε}

theorem bind_eq_error {x : Except ε α} {f : α → Except ε β} :
    (x >>= f) = .error e ↔ x = .error e ∨ ∃ a, x = .ok a ∧ f a = .error e := by
  cases x with
  | error e' =>
    constructor
    · rintro ⟨⟩
      exact .inl rfl
    · rintro (⟨⟨⟩⟩ | ⟨_, ⟨⟩, _⟩)
      rfl
  | ok a =>
    constructor
    · exact fun h => .inr ⟨a, rfl, h⟩
    · rintro (⟨⟨⟩⟩ | ⟨_, ⟨⟩, h⟩)
      exact h

theorem mapM_eq_error_iff {f : α → Except ε β} {l : List α} :
    l.mapM f = .error e ↔ ∃ before a after, l = before ++ a :: after ∧
      (∀ b ∈ before, ∃ c, f b = .ok c) ∧ f a = .error e := by
  induction l with
  | nil =>
    constructor
    · rintro ⟨⟩
    · rintro ⟨before, a, after, hl, -⟩
      cases before <;> cases hl
  | cons a rest ih =>
    rw [List.mapM_cons, bind_eq_error]
    constructor
    · rintro (ha | ⟨b, ha, hrest⟩)
      · exact ⟨[], a, rest, rfl, nofun, ha⟩
      · obtain hrest | ⟨_, _, ⟨⟩⟩ := bind_eq_error.mp hrest
        obtain ⟨before, x, after, rfl, hok, hx⟩ := ih.mp hrest
        exact ⟨a :: before, x, after, rfl, List.forall_mem_cons.mpr ⟨⟨b, ha⟩, hok⟩, hx⟩
    · rintro ⟨_ | ⟨y, before⟩, x, after, hl, hok, hx⟩
      · obtain ⟨rfl, -⟩ := List.cons.inj hl
        exact .inl hx
      · obtain ⟨rfl, rfl⟩ := List.cons.inj hl
        obtain ⟨⟨b, hb⟩, hok⟩ := List.forall_mem_cons.mp hok
        exact .inr ⟨b, hb, bind_eq_error.mpr (.inl (ih.mpr ⟨before, x, after, rfl, hok, hx⟩))⟩

theorem exists_mapM_iff {f : α → Except ε β} {l : List α} :
    (∃ bs, l.mapM f = .ok bs) ↔ ∀ a ∈ l, ∃ b, f a = .ok b := by
  constructor
  · rintro ⟨bs, hbs⟩
    induction mapM_eq_ok_iff.mp hbs with
    | nil => simp
    | cons hb hrest ih => exact List.forall_mem_cons.mpr ⟨⟨_, hb⟩, ih (mapM_eq_ok_iff.mpr hrest)⟩
  · intro h
    cases hl : l.mapM f with
    | ok bs => exact ⟨bs, rfl⟩
    | error e =>
      obtain ⟨before, a, after, rfl, -, ha⟩ := mapM_eq_error_iff.mp hl
      obtain ⟨b, hb⟩ := h a (by simp)
      rw [ha] at hb
      cases hb

theorem map_eq_ok {f : α → β} {x : Except ε α} {b : β} :
    x.map f = .ok b ↔ ∃ a, x = .ok a ∧ f a = b := by
  cases x with
  | error e' =>
    constructor
    · rintro ⟨⟩
    · rintro ⟨_, ⟨⟩, _⟩
  | ok a =>
    constructor
    · rintro ⟨⟩
      exact ⟨a, rfl, rfl⟩
    · rintro ⟨_, ⟨⟩, rfl⟩
      rfl

theorem map_eq_error {f : α → β} {x : Except ε α} :
    x.map f = .error e ↔ x = .error e := by
  cases x with
  | error e' =>
    constructor <;>
    · intro h
      cases h
      rfl
  | ok a =>
    constructor <;>
    · intro h
      cases h

theorem bind_pure_eq_error {f : α → β} {x : Except ε α} :
    (x >>= fun a => pure (f a)) = .error e ↔ x = .error e := by
  rw [bind_eq_error]
  constructor
  · rintro (h | ⟨_, -, ⟨⟩⟩)
    exact h
  · exact .inl

/-- What succeeds wherever a test fails has no part in the first failure. -/
theorem mapM_filter_eq_error_iff {f : α → Except ε β} {p : α → Bool} {l : List α}
    (h : ∀ a ∈ l, p a = false → ∃ b, f a = .ok b) :
    (l.filter p).mapM f = .error e ↔ l.mapM f = .error e := by
  induction l with
  | nil => exact Iff.rfl
  | cons a rest ih =>
    have hrest := ih fun b hb => h b (List.mem_cons_of_mem a hb)
    cases hp : p a with
    | true =>
      rw [List.filter_cons_of_pos hp, List.mapM_cons, List.mapM_cons]
      cases f a with
      | error e' => exact Iff.rfl
      | ok b => exact bind_pure_eq_error.trans (hrest.trans bind_pure_eq_error.symm)
    | false =>
      obtain ⟨b, hb⟩ := h a List.mem_cons_self hp
      rw [List.filter_cons_of_neg (by simp [hp]), List.mapM_cons, hb]
      exact hrest.trans bind_pure_eq_error.symm

end Steps

namespace TermRange

variable {field text : String} {e : Error}

/-- The causes for which a text is refused as a range of a field. -/
inductive Refused (field text : String) : Error → Prop
  | shape : Refused field text (.rangeShape field text)
  | bracket (c : Char) : Refused field text (.rangeBracket c field text)
  | bound (raw : String) (type : SortType) : Refused field text (.rangeBound raw type field text)

theorem refused_of_inclusive {c : Char} (h : inclusive field text c = .error e) :
    Refused field text e := by
  rw [inclusive] at h
  split at h <;> cases h
  exact .bracket c

theorem refused_of_bound {type : SortType} {raw : List Char}
    (h : bound field text type raw = .error e) : Refused field text e := by
  rw [bound] at h
  split at h
  · cases h
  · split at h
    · cases h
    · split at h <;> cases h
      exact .bound _ type

theorem refused_of_parseTyped {type : SortType} (h : parseTyped field text type = .error e) :
    Refused field text e := by
  rw [parseTyped] at h
  split at h
  · cases h
    exact .shape
  · obtain h | ⟨_, _, h⟩ := bind_eq_error.mp h
    · exact refused_of_inclusive h
    obtain h | ⟨_, _, h⟩ := bind_eq_error.mp h
    · exact refused_of_inclusive h
    obtain h | ⟨_, _, h⟩ := bind_eq_error.mp h
    · exact refused_of_bound h
    obtain h | ⟨_, _, ⟨⟩⟩ := bind_eq_error.mp h
    exact refused_of_bound h

theorem Refused.kind (h : Refused field text e) : e.kind = .configuration := by
  cases h <;> rfl

/-- A text that spells no range is refused as badly configured. -/
theorem kind_of_parseTyped {type : SortType} (h : parseTyped field text type = .error e) :
    e.kind = .configuration := (refused_of_parseTyped h).kind

end TermRange

namespace FacetDefinition

variable {declared : Declarations} {d : FacetDefinition} {e : Error}

/-! ## Invalid facets -/

/-- Numbers are to be aggregated, and no field is given for them, or a blank one. -/
def LacksField (d : FacetDefinition) : Prop :=
  d.aggregation ≠ .count ∧
    ∀ field, d.aggregationField = some field → field.toList.all Text.isBlank = true

/-- Numbers are to be aggregated over a field that does not hold numbers. -/
def NotNumeric (declared : Declarations) (d : FacetDefinition) (field : String) : Prop :=
  d.aggregation ≠ .count ∧ d.aggregationField = some field ∧
    field.toList.all Text.isBlank = false ∧ (declared.resolve (rangeField field)).isNumeric = false

/-- A text spells a range over the terms of the facet's field. -/
def Reads (declared : Declarations) (d : FacetDefinition) (text : String) : Prop :=
  ∃ r, TermRange.parseTyped d.name text (declared.resolve d.name) = .ok r

/-- The facet does not fit the declared fields. -/
inductive Invalid (declared : Declarations) (d : FacetDefinition) : Prop
  | name (h : d.name = "")
  | field (h : d.LacksField)
  | type (field : String) (h : d.NotNumeric declared field)
  | range (hm : d.mode = .ranges) (text : String) (ht : text ∈ d.ranges)
    (h : ¬ d.Reads declared text)

/-- What is told of an invalid facet: the first that applies of its name, its aggregation field, the
type of that field and its first range that is refused. -/
inductive Fault (declared : Declarations) (d : FacetDefinition) : Error → Prop
  | name (h : d.name = "") : Fault declared d .facetUnnamed
  | field (hn : d.name ≠ "") (h : d.LacksField) :
    Fault declared d (.facetWithoutField d.name d.aggregation)
  | type (hn : d.name ≠ "") (field : String) (h : d.NotNumeric declared field) :
    Fault declared d (.facetNotNumeric d.name d.aggregation (rangeField field)
      (declared.resolve (rangeField field)))
  | range (hn : d.name ≠ "") (hf : ¬ d.LacksField) (ht : ∀ field, ¬ d.NotNumeric declared field)
    (hm : d.mode = .ranges) {before after : List String} {text : String} {e : Error}
    (hr : d.ranges = before ++ text :: after) (hb : ∀ t ∈ before, d.Reads declared t)
    (h : TermRange.parseTyped d.name text (declared.resolve d.name) = .error e) :
    Fault declared d e

/-! ## Checking -/

theorem givenField?_eq_none_iff : d.givenField? = none ↔
    ∀ field, d.aggregationField = some field → field.toList.all Text.isBlank = true := by
  rw [givenField?]
  cases d.aggregationField <;> simp

theorem givenField?_eq_some_iff {field : String} : d.givenField? = some field ↔
    d.aggregationField = some field ∧ field.toList.all Text.isBlank = false := by
  rw [givenField?, Option.filter_eq_some_iff, Bool.not_eq_true']

theorem numbers_eq_error_iff : d.numbers declared = .error e ↔
    d.LacksField ∧ e = .facetWithoutField d.name d.aggregation ∨
    ∃ field, d.NotNumeric declared field ∧ e = .facetNotNumeric d.name d.aggregation
      (rangeField field) (declared.resolve (rangeField field)) := by
  rw [numbers]
  split
  · rename_i hcount
    constructor
    · rintro ⟨⟩
    · rintro (⟨⟨hc, -⟩, -⟩ | ⟨_, ⟨hc, -⟩, -⟩) <;> exact absurd hcount hc
  · rename_i hcount
    cases hgiven : d.givenField? with
    | none =>
      have hblank := givenField?_eq_none_iff.mp hgiven
      constructor
      · rintro ⟨⟩
        exact .inl ⟨⟨hcount, hblank⟩, rfl⟩
      · rintro (⟨-, rfl⟩ | ⟨field, ⟨-, hfield, hfilled, -⟩, -⟩)
        · rfl
        · rw [hblank field hfield] at hfilled
          cases hfilled
    | some given =>
      obtain ⟨hfield, hfilled⟩ := givenField?_eq_some_iff.mp hgiven
      dsimp only
      constructor
      · split
        · rintro ⟨⟩
        · rename_i htype
          rintro ⟨⟩
          exact .inr ⟨given, ⟨hcount, hfield, hfilled, (Bool.not_eq_true _).mp htype⟩, rfl⟩
      · rintro (⟨⟨-, hblank⟩, -⟩ | ⟨field, ⟨-, hfield', -, htype⟩, rfl⟩)
        · rw [hblank given hfield] at hfilled
          cases hfilled
        · obtain rfl := Option.some.inj (hfield'.symm.trans hfield)
          rw [htype]
          rfl

/-- A facet that does not count reads the range field of its aggregation field. -/
theorem numbers_eq_ok (ha : d.aggregation ≠ .count) {numbers : Option (String × SortType)}
    (h : d.numbers declared = .ok numbers) : ∃ field, d.aggregationField = some field ∧
      numbers = some (rangeField field, declared.resolve (rangeField field)) := by
  rw [FacetDefinition.numbers, if_neg ha] at h
  split at h
  · cases h
  · rename_i given hgiven
    dsimp only at h
    split at h <;> cases h
    exact ⟨given, (givenField?_eq_some_iff.mp hgiven).1, rfl⟩

theorem numbers_of_field (ha : d.aggregation ≠ .count) {field : String}
    (hf : d.aggregationField = some field) {numbers : Option (String × SortType)}
    (h : d.numbers declared = .ok numbers) :
    numbers = some (rangeField field, declared.resolve (rangeField field)) := by
  obtain ⟨given, hgiven, hnumbers⟩ := numbers_eq_ok ha h
  obtain rfl := Option.some.inj (hf.symm.trans hgiven)
  exact hnumbers

theorem exists_numbers_iff : (∃ numbers, d.numbers declared = .ok numbers) ↔
    ¬ d.LacksField ∧ ∀ field, ¬ d.NotNumeric declared field := by
  constructor
  · rintro ⟨numbers, hnumbers⟩
    refine ⟨fun hf => ?_, fun field ht => ?_⟩
    · rw [numbers_eq_error_iff.mpr (.inl ⟨hf, rfl⟩)] at hnumbers
      cases hnumbers
    · rw [numbers_eq_error_iff.mpr (.inr ⟨field, ht, rfl⟩)] at hnumbers
      cases hnumbers
  · rintro ⟨hf, ht⟩
    cases hnumbers : d.numbers declared with
    | ok numbers => exact ⟨numbers, rfl⟩
    | error e =>
      obtain ⟨hf', -⟩ | ⟨field, ht', -⟩ := numbers_eq_error_iff.mp hnumbers
      · exact absurd hf' hf
      · exact absurd ht' (ht field)

theorem parsedRanges_eq_error_iff : d.parsedRanges declared = .error e ↔
    d.mode = .ranges ∧ ∃ before text after, d.ranges = before ++ text :: after ∧
      (∀ t ∈ before, d.Reads declared t) ∧
      TermRange.parseTyped d.name text (declared.resolve d.name) = .error e := by
  rw [parsedRanges]
  cases hm : d.mode with
  | terms =>
    constructor
    · rintro ⟨⟩
    · rintro ⟨⟨⟩, -⟩
  | ranges =>
    constructor
    · exact fun h => ⟨rfl, mapM_eq_error_iff.mp h⟩
    · exact fun h => mapM_eq_error_iff.mpr h.2

/-- Checking refuses a facet exactly where something is wrong with it, and tells what. -/
theorem prepare_eq_error_iff : d.prepare declared = .error e ↔ d.Fault declared e := by
  rw [prepare]
  split
  · rename_i hn
    constructor
    · rintro ⟨⟩
      exact .name hn
    · intro h
      cases h with
      | name => rfl
      | field hn' | type hn' | range hn' => exact absurd hn hn'
  · rename_i hn
    rw [bind_eq_error]
    constructor
    · rintro (h | ⟨numbers, hnumbers, h⟩)
      · obtain ⟨hf, rfl⟩ | ⟨field, ht, rfl⟩ := numbers_eq_error_iff.mp h
        · exact .field hn hf
        · exact .type hn field ht
      · obtain ⟨hf, ht⟩ := exists_numbers_iff.mp ⟨numbers, hnumbers⟩
        obtain h | ⟨_, _, ⟨⟩⟩ := bind_eq_error.mp h
        obtain ⟨hm, before, text, after, hr, hb, h⟩ := parsedRanges_eq_error_iff.mp h
        exact .range hn hf ht hm hr hb h
    · intro h
      cases h with
      | name hn' => exact absurd hn' hn
      | field _ hf => exact .inl (numbers_eq_error_iff.mpr (.inl ⟨hf, rfl⟩))
      | type _ field ht => exact .inl (numbers_eq_error_iff.mpr (.inr ⟨field, ht, rfl⟩))
      | range _ hf ht hm hr hb h =>
        obtain ⟨numbers, hnumbers⟩ := exists_numbers_iff.mpr ⟨hf, ht⟩
        exact .inr ⟨numbers, hnumbers, bind_eq_error.mpr
          (.inl (parsedRanges_eq_error_iff.mpr ⟨hm, _, _, _, hr, hb, h⟩))⟩

theorem Fault.invalid (h : d.Fault declared e) : d.Invalid declared := by
  cases h with
  | name h => exact .name h
  | field hn h => exact .field h
  | type hn field h => exact .type field h
  | @range hn hf ht hm before after text e hr hb h =>
    refine .range hm text (by simp [hr]) ?_
    rintro ⟨r, hr⟩
    rw [h] at hr
    cases hr

theorem Fault.kind (h : d.Fault declared e) : e.kind = .configuration := by
  cases h with
  | name | field | type => rfl
  | range hn hf ht hm hr hb h => exact TermRange.kind_of_parseTyped h

/-- Some fault is told of an invalid facet: the first in the order of checking. -/
theorem Invalid.exists_fault (h : d.Invalid declared) : ∃ e, d.Fault declared e := by
  by_contra hnone
  have hn : d.name ≠ "" := fun hn => hnone ⟨_, .name hn⟩
  have hf : ¬ d.LacksField := fun hf => hnone ⟨_, .field hn hf⟩
  have ht (field : String) : ¬ d.NotNumeric declared field := fun ht => hnone ⟨_, .type hn field ht⟩
  cases h with
  | name h => exact hn h
  | field h => exact hf h
  | type field h => exact ht field h
  | range hm text htext h =>
    cases hp : d.parsedRanges declared with
    | ok ranges =>
      rw [parsedRanges, hm] at hp
      exact h (exists_mapM_iff.mp ⟨ranges, hp⟩ text htext)
    | error e =>
      obtain ⟨-, before, text, after, hr, hb, he⟩ := parsedRanges_eq_error_iff.mp hp
      exact hnone ⟨e, .range hn hf ht hm hr hb he⟩

/-- The facets that pass the check are those that fit the declared fields. -/
theorem exists_prepare_iff : (∃ p, d.prepare declared = .ok p) ↔ ¬ d.Invalid declared := by
  constructor
  · rintro ⟨p, hp⟩ h
    obtain ⟨e, he⟩ := h.exists_fault
    rw [prepare_eq_error_iff.mpr he] at hp
    cases hp
  · intro h
    cases hp : d.prepare declared with
    | ok p => exact ⟨p, rfl⟩
    | error e => exact absurd (prepare_eq_error_iff.mp hp).invalid h

end FacetDefinition

end FacetedSearch
