import FacetedSearch.Proofs.Number.Whole
import FacetedSearch.Range.Parser
import Mathlib.Data.Int.Order.Basic
import Mathlib.Order.Compare

/-!
# FacetedSearch.Proofs.Range.Interval — typed ranges hold intervals of whole numbers

A range between two written bounds is taken apart at its separator (`sides?_solid`), and each bound
becomes the term of its number, if the declared type has it (`bound_of_fits`).  Terms stand in
numeric order, so the range holds just the terms of an interval (`parseTyped_interval`).
-/

namespace FacetedSearch

namespace TermRange

variable {field text : String} {low high : List Char} {opening closing : Char}

/-! ## Taking a text apart -/

/-- No character is blank. -/
def Solid (s : List Char) : Prop := ∀ c ∈ s, Text.isBlank c = false

instance decidableSolid (s : List Char) : Decidable (Solid s) :=
  decidable_of_iff ((s.all fun c => !Text.isBlank c) = true) (by simp [Solid])

theorem Solid.append {s t : List Char} (hs : Solid s) (ht : Solid t) : Solid (s ++ t) := by
  intro c hc
  exact (List.mem_append.mp hc).elim (hs c) (ht c)

theorem Solid.trim {s : List Char} (h : Solid s) : Text.trim s = s := by
  have keep {s : List Char} (h : Solid s) : s.dropWhile Text.isBlank = s := by
    cases s with
    | nil => rfl
    | cons c cs =>
      have hc : ¬ Text.isBlank c = true := by simp [h c]
      exact List.dropWhile_cons_of_neg hc
  have hrev : Solid s.reverse := fun c hc => h c (List.mem_reverse.mp hc)
  rw [Text.trim, keep h, keep hrev, List.reverse_reverse]

/-- The separator starts with a blank, so it does not start at any other character. -/
theorem splitFirst_cons {c : Char} (hc : Text.isBlank c = false) (s : List Char) :
    splitFirst separator (c :: s) = (splitFirst separator s).map fun x => (c :: x.1, x.2) := by
  have hne : (' ' == c) = false := by
    refine beq_false_of_ne ?_
    rintro rfl
    revert hc
    decide
  have hprefix : separator.isPrefixOf (c :: s) = false := by
    rw [separator, List.isPrefixOf, hne, Bool.false_and]
  rw [splitFirst, hprefix, if_neg (by decide)]

theorem splitFirst_separator (h : Solid low) (s : List Char) :
    splitFirst separator (low ++ (separator ++ s)) = some (low, s) := by
  induction low with
  | nil => rfl
  | cons c low ih =>
    have hlow : Solid low := fun x hx => h x (List.mem_cons_of_mem c hx)
    rw [List.cons_append, splitFirst_cons (h c List.mem_cons_self), ih hlow]
    rfl

theorem Solid.occurs_separator {s : List Char} (h : Solid s) : occurs separator s = false := by
  have hnone : splitFirst separator s = none := by
    induction s with
    | nil => rfl
    | cons c s ih =>
      have hs : Solid s := fun x hx => h x (List.mem_cons_of_mem c hx)
      rw [splitFirst_cons (h c List.mem_cons_self), ih hs]
      rfl
  rw [occurs, hnone]
  rfl

theorem sides?_solid (hlow : Solid (opening :: low)) (hhigh : Solid (high ++ [closing])) :
    sides? (opening :: low ++ (separator ++ (high ++ [closing]))) =
      some (opening, low, high, closing) := by
  rw [sides?, splitFirst_separator hlow]
  change (if occurs separator (Text.trim (high ++ [closing])) = true then none else _) = _
  rw [hhigh.trim, hhigh.occurs_separator, if_neg (by decide), hlow.trim, List.getLast?_concat,
    List.dropLast_concat]

end TermRange

/-! ## Brackets and bounds -/

/-- A bracket, of one of two forms and facing one of two ways. -/
structure Bracket where
  curly : Bool
  /-- Whether the bracket is of the kind that closes a pair. -/
  closing : Bool

/-- The character of a bracket. -/
def Bracket.char : Bracket → Char
  | ⟨false, false⟩ => '['
  | ⟨false, true⟩ => ']'
  | ⟨true, false⟩ => '\x7b'
  | ⟨true, true⟩ => '\x7d'

/-- A bound as it is written: left open in one of two ways, or a whole number. -/
inductive WrittenBound
  | null
  | star
  | whole (w : WholeText)

namespace WrittenBound

/-- The characters of a bound. -/
def chars : WrittenBound → List Char
  | .null => ['N', 'U', 'L', 'L']
  | .star => ['*']
  | .whole w => w.chars

/-- The whole number that a bound spells, if it spells one. -/
def value? : WrittenBound → Option Int
  | .null | .star => none
  | .whole w => some w.value

/-- The term of the number that a bound spells. -/
def term? (b : WrittenBound) (t : WholeType) : Option String :=
  b.value?.map fun i => t.term (t.ofInt i)

/-- The number that a bound spells, if it spells one, is a value of the type. -/
def Fits (b : WrittenBound) (t : WholeType) : Prop := ∀ i, b.value? = some i → t.fits i = true

theorem Fits.long {b : WrittenBound} {t : WholeType} (h : b.Fits t) : b.Fits .long :=
  fun i hi => WholeType.fitsLong_of_fits (h i hi)

end WrittenBound

/-- The text of a range. -/
def rangeText (opening : Bracket) (low high : WrittenBound) (closing : Bracket) : String :=
  String.singleton opening.char ++ String.ofList low.chars ++ " TO " ++ String.ofList high.chars ++
    String.singleton closing.char

namespace TermRange

variable {field text : String} {t : WholeType}

/-! ## Reading bounds -/

theorem integral?_narrowest {i : Int} (h : Literal.fitsLong i = true) :
    integral? (.narrowest i) = some i := by
  obtain ⟨hnumber, hi⟩ | ⟨hnumber, hi⟩ := WholeType.narrowest_cases h
  · rw [hnumber]
    exact congrArg some hi
  · rw [hnumber]
    exact congrArg some hi

theorem encodeAs?_narrowest {i : Int} (h : Literal.fitsLong i = true) :
    encodeAs? t.sortType (.narrowest i) =
      if t.fits i then some (t.term (t.ofInt i)) else none := by
  cases t with
  | int =>
    change ((integral? _).filter Literal.fitsInt).map _ = _
    rw [integral?_narrowest h, Option.filter_some]
    split <;> rename_i hint
    · rw [WholeType.fits, if_pos hint]
      rfl
    · rw [WholeType.fits, if_neg hint]
      rfl
  | long =>
    change (integral? _).map _ = _
    rw [integral?_narrowest h, WholeType.fits, if_pos h]
    rfl

/-- A written whole number does not stand for an open side. -/
theorem not_open_chars (w : WholeText) :
    ¬ (String.ofList w.chars = "NULL" ∨ String.ofList w.chars = "*") := by
  have hmem {c : Char} {s : String} (hc : c ∈ s.toList) (h : String.ofList w.chars = s) :
      c = '-' ∨ ∃ d, WholeText.digit d = c := by
    rw [← h, String.toList_ofList] at hc
    exact WholeText.mem_chars hc
  rintro (h | h)
  · exact absurd (hmem (c := 'N') (by decide) h) (by decide)
  · exact absurd (hmem (c := '*') (by decide) h) (by decide)

theorem bound_whole (w : WholeText) (h : Literal.fitsLong w.value = true) :
    bound field text t.sortType w.chars =
      if t.fits w.value then .ok (some (t.term (t.ofInt w.value)))
      else .error (.rangeBound (String.ofList w.chars) t.sortType field text) := by
  rw [bound, if_neg (not_open_chars w), parseNumber?_chars w h]
  dsimp only
  rw [encodeAs?_narrowest h]
  cases t.fits w.value <;> rfl

theorem bound_of_fits {b : WrittenBound} (h : b.Fits t) :
    bound field text t.sortType b.chars = .ok (b.term? t) := by
  cases b with
  | null => rfl
  | star => rfl
  | whole w =>
    have hfits := h w.value rfl
    exact (bound_whole w (h.long w.value rfl)).trans (if_pos hfits)

theorem bound_of_not_fits {b : WrittenBound}
    (hlong : b.Fits .long) (h : ¬ b.Fits t) :
    bound field text t.sortType b.chars =
      .error (.rangeBound (String.ofList b.chars) t.sortType field text) := by
  cases b with
  | null => exact absurd (fun i hi => nomatch hi) h
  | star => exact absurd (fun i hi => nomatch hi) h
  | whole w =>
    refine (bound_whole w (hlong w.value rfl)).trans (if_neg fun hfits => h fun i hi => ?_)
    rw [← Option.some.inj hi]
    exact hfits

/-! ## Reading a text -/

theorem solid_char (b : Bracket) : Solid [b.char] := by
  obtain ⟨curly, closing⟩ := b
  cases curly <;> cases closing <;> decide

theorem solid_chars (b : WrittenBound) : Solid b.chars := by
  cases b with
  | null | star => decide
  | whole w =>
    intro c hc
    rcases WholeText.mem_chars hc with rfl | ⟨d, rfl⟩
    · decide
    · clear hc
      revert d
      decide

theorem toList_rangeText (opening : Bracket) (low high : WrittenBound) (closing : Bracket) :
    (rangeText opening low high closing).toList =
      opening.char :: low.chars ++ (separator ++ (high.chars ++ [closing.char])) := by
  simp only [rangeText, String.toList_append, String.toList_singleton, String.toList_ofList,
    List.append_assoc]
  rfl

theorem inclusive_char (b : Bracket) : inclusive field text b.char = .ok b.curly := by
  obtain ⟨curly, closing⟩ := b
  cases curly <;> cases closing <;> rfl

theorem parseTyped_rangeText (field : String) (type : SortType) (opening : Bracket)
    (low high : WrittenBound) (closing : Bracket) :
    let text := rangeText opening low high closing
    parseTyped field text type = do
      let low ← bound field text type low.chars
      let high ← bound field text type high.chars
      return { field, text, low, high, lowInclusive := opening.curly
               highInclusive := closing.curly } := by
  intro text
  have hlow : Solid (opening.char :: low.chars) := (solid_char opening).append (solid_chars low)
  have hhigh : Solid (high.chars ++ [closing.char]) := (solid_chars high).append (solid_char closing)
  rw [parseTyped, toList_rangeText, sides?_solid hlow hhigh]
  dsimp only
  rw [inclusive_char, inclusive_char]
  rfl

theorem parseTyped_of_fits (field : String) (opening : Bracket) {low high : WrittenBound}
    (closing : Bracket) (hlow : low.Fits t) (hhigh : high.Fits t) :
    let text := rangeText opening low high closing
    parseTyped field text t.sortType =
      .ok { field, text, low := low.term? t, high := high.term? t, lowInclusive := opening.curly
            highInclusive := closing.curly } := by
  intro text
  rw [parseTyped_rangeText, bound_of_fits hlow, bound_of_fits hhigh]
  rfl

theorem parseTyped_of_not_fits (field : String) (opening : Bracket) {low high : WrittenBound}
    (closing : Bracket) (hlow : low.Fits .long) (hhigh : high.Fits .long)
    (h : ¬ (low.Fits t ∧ high.Fits t)) :
    let text := rangeText opening low high closing
    ∃ refused : WrittenBound, parseTyped field text t.sortType =
      .error (.rangeBound (String.ofList refused.chars) t.sortType field text) := by
  intro text
  rw [parseTyped_rangeText]
  by_cases hl : low.Fits t
  · rw [bound_of_fits hl, bound_of_not_fits hhigh fun hh => h ⟨hl, hh⟩]
    exact ⟨high, rfl⟩
  · rw [bound_of_not_fits hlow hl]
    exact ⟨low, rfl⟩

/-! ## Intervals -/

/-- Whether a comparison is in order: equality is where the bound is taken in. -/
def inOrder (bound : Bool) : Ordering → Bool
  | .lt => true
  | .eq => bound
  | .gt => false

theorem aboveLow_eq {r : TermRange} {low : String} (h : r.low = some low) (term : String) :
    r.aboveLow term = inOrder r.lowInclusive (SortKey.cmp low term) := by
  rw [aboveLow, h]
  dsimp only
  rw [← SortKey.cmp_swap low term]
  cases SortKey.cmp low term <;> rfl

theorem belowHigh_eq {r : TermRange} {high : String} (h : r.high = some high) (term : String) :
    r.belowHigh term = inOrder r.highInclusive (SortKey.cmp term high) := by
  rw [belowHigh, h]
  dsimp only
  cases SortKey.cmp term high <;> rfl

/-- A comparison is in order as the compared values are. -/
theorem inOrder_of_compares {α : Type} [Preorder α] {bound : Bool} {o : Ordering} {x y : α}
    (h : o.Compares x y) : inOrder bound o = true ↔ if bound then x ≤ y else x < y := by
  cases o with
  | lt =>
    have hlt : x < y := h
    simp [inOrder, hlt, hlt.le]
  | eq =>
    have heq : x = y := h
    simp [inOrder, heq]
  | gt =>
    have hgt : y < x := h
    cases bound <;> simp [inOrder, hgt.not_gt, hgt.not_ge]

theorem inOrder_compare {bound : Bool} {x y : Int} :
    inOrder bound (compare x y) = true ↔ if bound then x ≤ y else x < y := by
  apply inOrder_of_compares
  rcases Int.lt_trichotomy x y with h | h | h
  · rwa [Int.compare_eq_lt.mpr h]
  · rwa [Int.compare_eq_eq.mpr h]
  · rwa [Int.compare_eq_gt.mpr h]

/-- A written bound holds off the terms that do not compare with its own term in order. -/
theorem aboveLow_iff {r : TermRange} {b : WrittenBound} {f : Int → String}
    (h : r.low = b.value?.map f) (term : String) : r.aboveLow term = true ↔
      ∀ i, b.value? = some i → inOrder r.lowInclusive (SortKey.cmp (f i) term) = true := by
  cases hi : b.value? with
  | none =>
    rw [hi] at h
    simp [aboveLow, h]
  | some i =>
    rw [hi] at h
    simp [aboveLow_eq h]

theorem belowHigh_iff {r : TermRange} {b : WrittenBound} {f : Int → String}
    (h : r.high = b.value?.map f) (term : String) : r.belowHigh term = true ↔
      ∀ i, b.value? = some i → inOrder r.highInclusive (SortKey.cmp term (f i)) = true := by
  cases hi : b.value? with
  | none =>
    rw [hi] at h
    simp [belowHigh, h]
  | some i =>
    rw [hi] at h
    simp [belowHigh_eq h]

theorem aboveLow_bound {r : TermRange} {b : WrittenBound} (hb : b.Fits t)
    (h : r.low = b.term? t) (v : t.Carrier) : r.aboveLow (t.term v) = true ↔
      ∀ i, b.value? = some i → if r.lowInclusive then i ≤ t.toInt v else i < t.toInt v := by
  rw [aboveLow_iff h]
  refine forall₂_congr fun i hi => ?_
  rw [WholeType.cmp_term, WholeType.toInt_ofInt (hb i hi), inOrder_compare]

theorem belowHigh_bound {r : TermRange} {b : WrittenBound} (hb : b.Fits t)
    (h : r.high = b.term? t) (v : t.Carrier) : r.belowHigh (t.term v) = true ↔
      ∀ i, b.value? = some i → if r.highInclusive then t.toInt v ≤ i else t.toInt v < i := by
  rw [belowHigh_iff h]
  refine forall₂_congr fun i hi => ?_
  rw [WholeType.cmp_term, WholeType.toInt_ofInt (hb i hi), inOrder_compare]

/-- A range of a field of whole numbers, between any two brackets and any two bounds that each are
left open or spell a number of 64 bits.  The text is accepted if the numbers are values of the
declared type, and refused as badly configured otherwise.  The range then holds the term of a value
of the type exactly if the value lies in the interval between the bounds, to which a bound belongs
if its bracket is a curly one. -/
theorem parseTyped_interval (t : WholeType) (field : String) (opening closing : Bracket)
    (low high : WrittenBound) (hlow : low.Fits .long) (hhigh : high.Fits .long) :
    let parsed := parseTyped field (rangeText opening low high closing) t.sortType
    ((∃ r, parsed = .ok r) ↔ low.Fits t ∧ high.Fits t) ∧
      (∀ e, parsed = .error e → e.kind = .configuration) ∧
      ∀ r, parsed = .ok r → ∀ v : t.Carrier, (r.contains (t.term v) = true ↔
        (∀ i, low.value? = some i → if opening.curly then i ≤ t.toInt v else i < t.toInt v) ∧
        (∀ i, high.value? = some i → if closing.curly then t.toInt v ≤ i else t.toInt v < i)) := by
  intro parsed
  by_cases h : low.Fits t ∧ high.Fits t
  · have hparsed : parsed = .ok _ := parseTyped_of_fits field opening closing h.1 h.2
    rw [hparsed]
    refine ⟨iff_of_true ⟨_, rfl⟩ h, fun e he => ?_, fun r hr v => ?_⟩
    · cases he
    · cases hr
      rw [contains, Bool.and_eq_true, aboveLow_bound h.1 rfl, belowHigh_bound h.2 rfl]
  · obtain ⟨refused, hparsed⟩ := parseTyped_of_not_fits field opening closing hlow hhigh h
    have hparsed : parsed = .error _ := hparsed
    rw [hparsed]
    refine ⟨iff_of_false ?_ h, fun e he => ?_, fun r hr => by cases hr⟩
    · rintro ⟨r, hr⟩
      cases hr
    · cases he
      rfl

/-- From minus five, written with leading zeros and taken in, up to ten, which is left out. -/
theorem parseTyped_fromMinusFive :
    let low : WrittenBound := .whole { negative := true, first := 0, rest := [0, 5] }
    let high : WrittenBound := .whole { negative := false, first := 1, rest := [0] }
    rangeText ⟨true, false⟩ low high ⟨false, true⟩ = "\x7b-005 TO 10]" ∧
      ∃ r, parseTyped "count_Range" "\x7b-005 TO 10]" .int = .ok r ∧
        r.contains (Number.int (-5)).encode = true ∧ ¬ r.contains (Number.int 10).encode = true := by
  intro low high
  have hlow : low.Fits .int := by
    rintro i ⟨⟩
    decide
  have hhigh : high.Fits .int := by
    rintro i ⟨⟩
    decide
  have htext : rangeText ⟨true, false⟩ low high ⟨false, true⟩ = "\x7b-005 TO 10]" := by decide
  obtain ⟨hok, -, hcontains⟩ := parseTyped_interval .int "count_Range" ⟨true, false⟩ ⟨false, true⟩
    low high hlow.long hhigh.long
  rw [htext] at hok hcontains
  obtain ⟨r, hr⟩ := hok.mpr ⟨hlow, hhigh⟩
  refine ⟨htext, r, hr, (hcontains r hr (-5 : Int32)).mpr ⟨?_, ?_⟩, fun h => ?_⟩
  · rintro i ⟨⟩
    decide
  · rintro i ⟨⟩
    decide
  · have hten := ((hcontains r hr (10 : Int32)).mp h).2 10 rfl
    revert hten
    decide

end TermRange

end FacetedSearch
