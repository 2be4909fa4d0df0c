import FacetedSearch.Proofs.Number.Decimal

/-!
# FacetedSearch.Proofs.Number.Exact — whole numbers among 64-bit floating-point numbers

A 64-bit floating-point number can be exactly a whole number (`Binary.Exact`), and every whole number
up to two to the 53rd is one exactly (`Binary.exact_ofInt`).  Such numbers add up without rounding
before the sum is formed (`Binary.Exact.add`), so that a running sum is the exact one as long as it
stays within these bounds (`Binary.foldl_add_ofInt`).
-/

namespace FacetedSearch

/-- A magnitude also stands for the first whole number that is too wide for a significand, since
that is an even one. -/
theorem BinaryFormat.exists_whole_le (f : BinaryFormat) {a : Nat} (ha : a ≤ 2 * f.fractions) :
    ∃ m, f.units m = a * f.unitsPerOne := by
  rcases Nat.lt_or_eq_of_le ha with hlt | rfl
  · exact f.exists_whole hlt
  · have hpos := f.fractions_pos
    obtain ⟨m, hm⟩ := f.exists_units (a := f.fractions) (by omega) (f.unitBits + 1)
    refine ⟨m, hm.trans ?_⟩
    rw [Nat.mul_comm 2, Nat.mul_assoc]
    exact congrArg _ Nat.pow_succ'

namespace Binary

open BinaryFormat (double)

/-- A floating-point number is a whole number exactly, with a sign only if that is negative. -/
structure Exact (x : Double) (i : Int) : Prop where
  finite : x.magnitude < double.infinity
  units : x.units = i * double.unitsPerOne
  negative : x.negative = decide (i < 0)

/-- The greatest whole number up to which there is a floating-point number for each. -/
def exactBound : Nat := 9007199254740992

theorem exists_exact {n : Nat} (h : n ≤ exactBound) :
    ∃ m < double.infinity, double.units m = n * double.unitsPerOne := by
  have hbound : exactBound = 2 * double.fractions := by decide
  obtain ⟨m, hm⟩ := double.exists_whole_le (hbound ▸ h)
  refine ⟨m, double.units_strictMono.lt_iff_lt.mp ?_, hm⟩
  calc double.units m = n * double.unitsPerOne := hm
    _ ≤ 2 * double.fractions * double.unitsPerOne := Nat.mul_le_mul_right _ (hbound ▸ h)
    _ < double.units double.infinity := DecimalText.significands_lt_infinity

theorem exact_ofInt {i : Int} (h : i.natAbs ≤ exactBound) : Exact (ofInt i) i := by
  obtain ⟨m, hfinite, hm⟩ := exists_exact h
  have hweight := Nat.lt_trans hfinite double.infinity_lt_signWeight
  have hof : (ofInt i : Double) = ofMagnitude (decide (i < 0)) m := by
    rw [ofInt, ofUnits, ← hm, double.nearest_units hfinite.le]
  rw [hof]
  constructor
  · rwa [magnitude_ofMagnitude _ hweight]
  · rw [Binary.units, negative_ofMagnitude _ hweight, magnitude_ofMagnitude _ hweight, hm,
      Int.natCast_mul]
    split <;> rename_i hneg <;> rw [decide_eq_true_iff] at hneg
    · rw [← Int.neg_mul]
      congr 1
      omega
    · congr 1
      omega
  · exact negative_ofMagnitude _ hweight

/-- Whole numbers of 32 bits are within the bound. -/
theorem natAbs_le_of_fits {i : Int} (h : Literal.fitsInt i = true) : i.natAbs ≤ exactBound := by
  have hint := Literal.fitsInt_iff.mp h
  unfold exactBound
  omega

theorem ofInt_zero : (ofInt 0 : Double) = zero false := by decide +kernel

namespace Exact

variable {x y : Double} {i j : Int}

theorem isNaN (h : Exact x i) : x.isNaN = false := decide_eq_false (Nat.not_lt_of_le h.finite.le)

theorem isInfinite (h : Exact x i) : x.isInfinite = false := decide_eq_false (Nat.ne_of_lt h.finite)

theorem value (h : Exact x i) : x.value = i := by
  rw [Binary.value, h.units, div_eq_iff (unitsPerOne_pos double).ne']
  push_cast
  rfl

theorem toInt? (h : Exact x i) : x.toInt? = some i :=
  toInt?_eq_some_iff.mpr ⟨decide_eq_true h.finite, h.value⟩

theorem magnitude_eq_zero_iff (h : Exact x i) : x.magnitude = 0 ↔ i = 0 := by
  have hone := double.unitsPerOne_pos
  have hunits := h.units
  rw [← double.units_eq_zero_iff, ← Int.natCast_eq_zero]
  constructor
  · intro hzero
    have hx : x.units = 0 := by
      rw [Binary.units]
      split <;> omega
    rw [hx] at hunits
    exact (Int.mul_eq_zero.mp hunits.symm).resolve_right (by omega)
  · rintro rfl
    rw [Int.zero_mul, Binary.units] at hunits
    split at hunits <;> omega

/-- Two whole numbers add up to the floating-point number that is nearest to their sum. -/
theorem add (hx : Exact x i) (hy : Exact y j) : x.add y = ofInt (i + j) := by
  have hone := double.unitsPerOne_pos
  have hsum : x.units + y.units = (i + j) * double.unitsPerOne := by
    rw [hx.units, hy.units, Int.add_mul]
  rw [Binary.add, hx.isNaN, hy.isNaN, hx.isInfinite, hy.isInfinite, hx.negative, hy.negative]
  simp only [Bool.or_false, Bool.false_eq_true, if_false, hsum]
  split <;> rename_i hs
  · have hzero : i + j = 0 := (Int.mul_eq_zero.mp hs).resolve_right (by omega)
    have hsign : (decide (i < 0) && decide (j < 0)) = false := by
      simp
      omega
    rw [hsign, hzero]
    exact ofInt_zero.symm
  · have hsign : (i + j) * double.unitsPerOne < 0 ↔ i + j < 0 := by
      constructor
      · intro h
        by_contra hge
        have hnonneg := Int.mul_nonneg (Int.not_lt.mp hge) (Int.natCast_nonneg double.unitsPerOne)
        omega
      · exact fun h => Int.mul_neg_of_neg_of_pos h (by omega)
    rw [ofInt, Int.natAbs_mul, Int.natAbs_natCast]
    simp only [hsign]

end Exact

/-- A running sum of whole numbers is exact as long as it stays within the bounds. -/
theorem foldl_add_ofInt (l : List Int) (hl : ∀ i ∈ l, i.natAbs ≤ exactBound) {s : Int}
    (hs : ∀ p, p <+: l → (s + p.sum).natAbs ≤ exactBound) :
    (l.map ofInt).foldl Binary.add (ofInt s : Double) = ofInt (s + l.sum) := by
  induction l generalizing s with
  | nil => simp
  | cons i l ih =>
    obtain ⟨hi, hl⟩ := List.forall_mem_cons.mp hl
    have hstart : s.natAbs ≤ exactBound := by simpa using hs [] (List.nil_prefix)
    have hadd : (ofInt s : Double).add (ofInt i) = ofInt (s + i) :=
      (exact_ofInt hstart).add (exact_ofInt hi)
    rw [List.map_cons, List.foldl_cons, hadd, ih hl, List.sum_cons, Int.add_assoc]
    intro p hp
    have hnext := hs (i :: p) ((List.prefix_cons_inj i).mpr hp)
    rwa [List.sum_cons, ← Int.add_assoc] at hnext

end Binary

end FacetedSearch
