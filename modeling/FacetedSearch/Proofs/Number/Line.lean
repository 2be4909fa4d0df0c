import FacetedSearch.Proofs.Number.Rounding
import FacetedSearch.Proofs.Number.TotalOrder
import Mathlib.Order.Compare
import Mathlib.Order.WithBot

/-!
# FacetedSearch.Proofs.Number.Line — floating-point numbers on the extended line

`Binary.onLine` is the point that a floating-point number stands for among the fractions and two
infinite points.  Both zeros are one point, and otherwise different numbers are different points.
So the total order of patterns is the order of the points, except between the two zeros
(`Binary.compares_totalCompare`).
-/

namespace FacetedSearch

/-- The fractions with a point below and a point above all of them. -/
abbrev Line := WithBot (WithTop ℚ)

/-- The point of a fraction. -/
def Line.of (q : ℚ) : Line := ((q : WithTop ℚ) : WithBot (WithTop ℚ))

theorem Line.of_lt_of {p q : ℚ} : Line.of p < Line.of q ↔ p < q := by
  simp [Line.of]

namespace Binary

variable {f : BinaryFormat} {x y : Binary f}

/-- The point that a number stands for. -/
def onLine (x : Binary f) : Line :=
  if x.isInfinite then if x.negative then ⊥ else ⊤ else Line.of x.value

theorem eq_inf_of_isInfinite (h : x.isInfinite = true) : x = inf x.negative := by
  have hm : x.magnitude = f.infinity := of_decide_eq_true h
  rw [inf, ← hm]
  exact x.eq_ofMagnitude

theorem isFinite_of_not_isInfinite (hx : x.isNaN = false) (h : ¬ x.isInfinite = true) :
    x.isFinite = true := by
  simp only [isInfinite, decide_eq_true_eq] at h
  exact decide_eq_true (Nat.lt_of_le_of_ne (magnitude_le hx) h)

theorem onLine_inf (negative : Bool) :
    (inf negative : Binary f).onLine = if negative then ⊥ else ⊤ := by
  have hm : (inf negative : Binary f).magnitude = f.infinity :=
    magnitude_ofMagnitude negative f.infinity_lt_signWeight
  have hs : (inf negative : Binary f).negative = negative :=
    negative_ofMagnitude negative f.infinity_lt_signWeight
  rw [onLine, isInfinite, hm, hs]
  simp

theorem onLine_of_not_isInfinite (h : ¬ x.isInfinite = true) : x.onLine = Line.of x.value :=
  if_neg h

/-- Both zeros have the point of zero. -/
theorem onLine_of_magnitude_eq_zero {x : Double} (h : x.magnitude = 0) : x.onLine = Line.of 0 := by
  have hfinite : ¬ x.isInfinite = true := by
    rw [isInfinite, h]
    decide
  have hunits : x.units = 0 := by
    rw [units, h, BinaryFormat.units_zero]
    simp
  rw [onLine_of_not_isInfinite hfinite, value, hunits, Int.cast_zero, zero_div]

theorem units_lt_of_value_lt (h : x.value < y.value) : x.units < y.units := by
  have hpos := unitsPerOne_pos f
  rw [value, value, div_lt_div_iff_of_pos_right hpos] at h
  exact_mod_cast h

theorem units_eq_of_value_eq (h : x.value = y.value) : x.units = y.units := by
  have hpos := unitsPerOne_pos f
  rw [value, value, div_left_inj' hpos.ne'] at h
  exact_mod_cast h

/-- The number whose point comes first is the lesser one. -/
theorem less_of_onLine_lt (hx : x.isNaN = false) (hy : y.isNaN = false)
    (h : x.onLine < y.onLine) : x.Less y := by
  by_cases hxi : x.isInfinite = true
  · have hxeq := eq_inf_of_isInfinite hxi
    cases hs : x.negative with
    | true =>
      rw [hs] at hxeq
      refine .fromBelow hxeq hy ?_
      rintro rfl
      rw [hxeq] at h
      exact absurd h (lt_irrefl _)
    | false =>
      rw [hxeq, hs, onLine_inf] at h
      exact absurd h not_top_lt
  · by_cases hyi : y.isInfinite = true
    · have hyeq := eq_inf_of_isInfinite hyi
      cases hs : y.negative with
      | true =>
        rw [hyeq, hs, onLine_inf] at h
        exact absurd h not_lt_bot
      | false =>
        rw [hs] at hyeq
        refine .toAbove hx hyeq ?_
        rintro rfl
        rw [hyeq] at h
        exact absurd h (lt_irrefl _)
    · rw [onLine_of_not_isInfinite hxi, onLine_of_not_isInfinite hyi, Line.of_lt_of] at h
      exact .finite (isFinite_of_not_isInfinite hx hxi) (isFinite_of_not_isInfinite hy hyi)
        (units_lt_of_value_lt h)

theorem eq_of_parts_eq (hs : x.negative = y.negative) (hm : x.magnitude = y.magnitude) : x = y := by
  rw [x.eq_ofMagnitude, y.eq_ofMagnitude, hs, hm]

/-- Numbers with the same units differ at most in the sign of a zero. -/
theorem eq_or_zeros_of_units_eq (h : x.units = y.units) :
    x = y ∨ x.magnitude = 0 ∧ y.magnitude = 0 := by
  have hinj := f.units_strictMono.injective
  unfold units at h
  cases hsx : x.negative <;> cases hsy : y.negative <;>
    simp only [hsx, hsy, if_true, if_false, Bool.false_eq_true] at h
  · exact .inl (eq_of_parts_eq (hsx.trans hsy.symm) (hinj (by omega)))
  · exact .inr ⟨f.units_eq_zero_iff.mp (by omega), f.units_eq_zero_iff.mp (by omega)⟩
  · exact .inr ⟨f.units_eq_zero_iff.mp (by omega), f.units_eq_zero_iff.mp (by omega)⟩
  · exact .inl (eq_of_parts_eq (hsx.trans hsy.symm) (hinj (by omega)))

/-- Only the two zeros share a point. -/
theorem eq_or_zeros_of_onLine_eq (h : x.onLine = y.onLine) :
    x = y ∨ x.magnitude = 0 ∧ y.magnitude = 0 := by
  have hinfinite (z : Binary f) (hz : z.isInfinite = true) : z.magnitude = f.infinity :=
    of_decide_eq_true hz
  unfold onLine at h
  split_ifs at h with hxi hsx hyi hsy hyi hsy hyi hsy <;> simp [Line.of] at h
  · have hm : x.magnitude = y.magnitude := (hinfinite x hxi).trans (hinfinite y hyi).symm
    exact .inl (eq_of_parts_eq (hsx.trans hsy.symm) hm)
  · have hm : x.magnitude = y.magnitude := (hinfinite x hxi).trans (hinfinite y hyi).symm
    exact .inl (eq_of_parts_eq (by simp [hsx, hsy]) hm)
  · exact eq_or_zeros_of_units_eq (units_eq_of_value_eq h)

theorem totalCompare_swap (x y : Binary f) : (x.totalCompare y).swap = y.totalCompare x := by
  unfold totalCompare
  cases x.negative <;> cases y.negative <;> simp [Nat.compare_swap]

theorem totalCompare_self (x : Binary f) : x.totalCompare x = .eq := by
  unfold totalCompare
  cases x.negative <;> simp

/-- The total order of two patterns is the order of their points, unless they are the two zeros. -/
theorem compares_totalCompare (hx : x.isNaN = false) (hy : y.isNaN = false)
    (h : x.magnitude = 0 → y.magnitude = 0 → x = y) :
    (x.totalCompare y).Compares x.onLine y.onLine := by
  rcases lt_trichotomy x.onLine y.onLine with hlt | heq | hgt
  · rwa [(less_of_onLine_lt hx hy hlt).totalCompare]
  · obtain rfl : x = y := (eq_or_zeros_of_onLine_eq heq).elim id fun hzero => h hzero.1 hzero.2
    rwa [totalCompare_self]
  · rwa [← totalCompare_swap, (less_of_onLine_lt hy hx hgt).totalCompare]

end Binary

end FacetedSearch
