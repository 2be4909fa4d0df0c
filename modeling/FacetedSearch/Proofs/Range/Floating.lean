import FacetedSearch.Proofs.Number.Exact
import FacetedSearch.Proofs.Number.Line
import FacetedSearch.Proofs.Range.Interval

/-!
# FacetedSearch.Proofs.Range.Floating — ranges of floating-point numbers between whole numbers

A whole number of 32 bits that bounds a range over a field of 64-bit floating-point numbers is one of
these exactly, and it is encoded without a sign where it is zero.  So the range holds the numbers
that lie between the bounds on the extended line (`TermRange.parseTyped_between`).  Negative zero is
the exception: it has the point of zero, but its term stands in front of that of zero, and so a bound
of zero holds it off from above and lets it pass from below, whatever the brackets are.
-/

namespace FacetedSearch

namespace Binary

open BinaryFormat (double)

variable {v : Double} {i : Int}

theorem Exact.onLine {x : Double} (h : Exact x i) : x.onLine = Line.of i := by
  rw [onLine_of_not_isInfinite (by simp [h.isInfinite]), h.value]

theorem onLine_zero (negative : Bool) : (zero negative : Double).onLine = Line.of 0 :=
  onLine_of_magnitude_eq_zero (magnitude_ofMagnitude negative double.signWeight_pos)

/-- A zero without a sign is the one that whole numbers have. -/
theorem eq_ofInt_zero (hm : v.magnitude = 0) (hv : v ≠ zero true) : v = ofInt 0 := by
  have hs : v.negative = false := by
    by_contra hs
    rw [Bool.not_eq_false] at hs
    refine hv ?_
    rw [zero, ← hs, ← hm]
    exact v.eq_ofMagnitude
  rw [ofInt_zero, zero, ← hs, ← hm]
  exact v.eq_ofMagnitude

/-- Whole numbers compare with all numbers but negative zero by their points. -/
theorem compares_ofInt (hi : i.natAbs ≤ exactBound) (hn : v.isNaN = false) (hv : v ≠ zero true) :
    ((ofInt i).totalCompare v).Compares (Line.of i) v.onLine := by
  have hexact := exact_ofInt hi
  rw [← hexact.onLine]
  refine compares_totalCompare hexact.isNaN hn fun hzero hm => ?_
  rw [hexact.magnitude_eq_zero_iff.mp hzero]
  exact (eq_ofInt_zero hm hv).symm

/-- Negative zero stands between the negative whole numbers and zero. -/
theorem totalCompare_negativeZero (hi : i.natAbs ≤ exactBound) :
    (ofInt i).totalCompare (zero true : Double) = if i < 0 then .lt else .gt := by
  have hexact := exact_ofInt hi
  have hs : (zero true : Double).negative = true := negative_ofMagnitude _ double.signWeight_pos
  have hm : (zero true : Double).magnitude = 0 := magnitude_ofMagnitude _ double.signWeight_pos
  rw [totalCompare, hexact.negative, hs, hm]
  split_ifs with hneg
  · have hpos : (ofInt i : Double).magnitude ≠ 0 := fun h =>
      absurd (hexact.magnitude_eq_zero_iff.mp h) (Int.ne_of_lt hneg)
    rw [decide_eq_true hneg]
    exact Nat.compare_eq_lt.mpr (Nat.pos_of_ne_zero hpos)
  · rw [decide_eq_false hneg]

end Binary

namespace TermRange

variable {field text : String}

theorem toDouble_narrowest {i : Int} (h : Literal.fitsLong i = true) :
    (Number.narrowest i).toDouble = Binary.ofInt i := by
  obtain ⟨hnumber, hi⟩ | ⟨hnumber, hi⟩ := WholeType.narrowest_cases h
  · rw [hnumber]
    exact congrArg Binary.ofInt hi
  · rw [hnumber]
    exact congrArg Binary.ofInt hi

/-- A bound over a field of floating-point numbers becomes the term of the number nearest to it. -/
theorem bound_double {b : WrittenBound} (h : b.Fits .long) :
    bound field text .double b.chars =
      .ok (b.value?.map fun i => (Number.double (Binary.ofInt i)).encode) := by
  cases b with
  | null | star => rfl
  | whole w =>
    have hnumber := parseNumber?_chars w (h w.value rfl)
    change bound field text .double w.chars = .ok (some (Number.double (.ofInt w.value)).encode)
    unfold bound
    dsimp only
    rw [if_neg (not_open_chars w), hnumber, ← toDouble_narrowest (h w.value rfl)]
    rfl

/-- A range over a field of 64-bit floating-point numbers, between any two brackets and any two bounds
that each are left open or spell a whole number of 32 bits.  The text is accepted, and the range then
holds the term of a number, infinite ones included, exactly if its point lies in the interval between
the bounds, to which a bound belongs if its bracket is a curly one; only negative zero is held as a
number between zero and those below it. -/
theorem parseTyped_between (field : String) (opening closing : Bracket) (low high : WrittenBound)
    (hlow : low.Fits .int) (hhigh : high.Fits .int) :
    ∃ r, parseTyped field (rangeText opening low high closing) .double = .ok r ∧
      (∀ v : Double, v.isNaN = false → v ≠ Binary.zero true →
        (r.contains (Number.double v).encode = true ↔
          (∀ i, low.value? = some i →
            if opening.curly then Line.of i ≤ v.onLine else Line.of i < v.onLine) ∧
          ∀ i, high.value? = some i →
            if closing.curly then v.onLine ≤ Line.of i else v.onLine < Line.of i)) ∧
      (r.contains (Number.double (Binary.zero true)).encode = true ↔
        (∀ i, low.value? = some i → i < 0) ∧ ∀ i, high.value? = some i → 0 ≤ i) := by
  have hcmp (a b : Double) :
      SortKey.cmp (Number.double a).encode (Number.double b).encode = a.totalCompare b :=
    BinaryType.cmp_term (t := .double) a b
  have hparsed := parseTyped_rangeText field .double opening low high closing
  dsimp only at hparsed
  rw [bound_double hlow.long, bound_double hhigh.long] at hparsed
  refine ⟨_, hparsed, fun v hn hv => ?_, ?_⟩
  · rw [contains, Bool.and_eq_true, aboveLow_iff rfl, belowHigh_iff rfl]
    refine and_congr (forall₂_congr fun i hi => ?_) (forall₂_congr fun i hi => ?_)
    · rw [hcmp]
      exact inOrder_of_compares (Binary.compares_ofInt (Binary.natAbs_le_of_fits (hlow i hi)) hn hv)
    · have hcompares := Binary.compares_ofInt (Binary.natAbs_le_of_fits (hhigh i hi)) hn hv
      rw [hcmp, ← Binary.totalCompare_swap]
      exact inOrder_of_compares (Ordering.compares_swap.mpr hcompares)
  · rw [contains, Bool.and_eq_true, aboveLow_iff rfl, belowHigh_iff rfl]
    refine and_congr (forall₂_congr fun i hi => ?_) (forall₂_congr fun i hi => ?_)
    · rw [hcmp, Binary.totalCompare_negativeZero (Binary.natAbs_le_of_fits (hlow i hi))]
      split_ifs with hneg <;> simp [inOrder, hneg]
    · rw [hcmp, ← Binary.totalCompare_swap,
        Binary.totalCompare_negativeZero (Binary.natAbs_le_of_fits (hhigh i hi))]
      split_ifs with hneg <;> simp [inOrder, hneg]
      omega

/-- From minus five up to ten, which is left out: minus five and negative zero are in the range, and
ten and infinity are not. -/
theorem parseTyped_fromMinusFiveUpToTen :
    let low : WrittenBound := .whole { negative := true, first := 5, rest := [] }
    let high : WrittenBound := .whole { negative := false, first := 1, rest := [0] }
    let text := "\x7b-5 TO 10]"
    rangeText ⟨true, false⟩ low high ⟨false, true⟩ = text ∧ low.Fits .int ∧ high.Fits .int ∧
      ∃ r, parseTyped "price_Range" text .double = .ok r ∧
        r.contains (Number.double (Binary.ofInt (-5))).encode = true ∧
        r.contains (Number.double (Binary.zero true)).encode = true ∧
        ¬ r.contains (Number.double (Binary.ofInt 10)).encode = true ∧
        ¬ r.contains (Number.double (Binary.inf false)).encode = true := by
  intro low high text
  have hlow : low.Fits .int := by
    rintro i ⟨⟩
    decide
  have hhigh : high.Fits .int := by
    rintro i ⟨⟩
    decide
  have htext : rangeText ⟨true, false⟩ low high ⟨false, true⟩ = text := by decide
  obtain ⟨r, hr, hcontains, hzero⟩ :=
    parseTyped_between "price_Range" ⟨true, false⟩ ⟨false, true⟩ low high hlow hhigh
  rw [htext] at hr
  have hfive : (Binary.ofInt (-5) : Double).onLine = Line.of (-5 : Int) :=
    (Binary.exact_ofInt (by decide)).onLine
  have hten : (Binary.ofInt 10 : Double).onLine = Line.of (10 : Int) :=
    (Binary.exact_ofInt (by decide)).onLine
  refine ⟨htext, hlow, hhigh, r, hr,
    (hcontains _ (by decide +kernel) (by decide +kernel)).mpr ⟨?_, ?_⟩, hzero.mpr ⟨?_, ?_⟩,
    fun h => ?_, fun h => ?_⟩
  · rintro i ⟨⟩
    rw [hfive]
    exact le_refl _
  · rintro i ⟨⟩
    rw [hfive]
    exact Line.of_lt_of.mpr (by norm_num [WholeText.value, WholeText.magnitude])
  · rintro i ⟨⟩
    decide
  · rintro i ⟨⟩
    decide
  · have habove := ((hcontains _ (by decide +kernel) (by decide +kernel)).mp h).2 10 rfl
    rw [hten] at habove
    exact absurd habove (lt_irrefl _)
  · have habove := ((hcontains _ (by decide +kernel) (by decide +kernel)).mp h).2 10 rfl
    rw [Binary.onLine_inf] at habove
    exact absurd habove not_top_lt

/-- Negative zero has the point of zero, but the range from zero on does not hold it. -/
theorem parseTyped_fromZero :
    let low : WrittenBound := .whole { negative := false, first := 0, rest := [] }
    let text := "\x7b0 TO NULL]"
    rangeText ⟨true, false⟩ low .null ⟨false, true⟩ = text ∧ low.Fits .int ∧
      ∃ r, parseTyped "price_Range" text .double = .ok r ∧
        r.contains (Number.double (Binary.zero true)).encode = false ∧
        ∀ i, low.value? = some i → Line.of i ≤ (Binary.zero true : Double).onLine := by
  intro low text
  have hlow : low.Fits .int := by
    rintro i ⟨⟩
    decide
  refine ⟨by decide, hlow, ⟨"price_Range", text, some "d8000000000000000", none, true, false⟩, ?_,
    by decide +kernel, ?_⟩
  · decide +kernel
  · rintro i ⟨⟩
    rw [Binary.onLine_zero]
    exact le_refl _

end TermRange

end FacetedSearch
