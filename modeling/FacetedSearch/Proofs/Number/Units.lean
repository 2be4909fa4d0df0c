import FacetedSearch.Number.Binary
import Mathlib.Order.Monotone.Basic

/-!
# FacetedSearch.Proofs.Number.Units — patterns count magnitudes upwards

A pattern is its sign bit and its magnitude (`Binary.pattern_eq`, `Binary.eq_ofMagnitude`).  The
next magnitude always stands for more units (`BinaryFormat.units_strictMono`), also where the
exponent field goes up by one.
-/

namespace FacetedSearch

namespace BinaryFormat

variable (f : BinaryFormat)

/-- How many fractions there are to an exponent. -/
def fractions : Nat := Nat.pow 2 f.fractionBits

theorem fractions_pos : 0 < f.fractions := Nat.pow_pos (by decide)

theorem unitsPerOne_pos : 0 < f.unitsPerOne := Nat.pow_pos (by decide)

/-- Every magnitude has an exponent field and a fraction field. -/
theorem exists_fields (m : Nat) : ∃ e r, r < f.fractions ∧ m = e * f.fractions + r :=
  ⟨m / f.fractions, m % f.fractions, Nat.mod_lt _ f.fractions_pos, (Nat.div_add_mod' m _).symm⟩

/-- The units of an exponent field and a fraction field. -/
theorem units_fields (e : Nat) {r : Nat} (hr : r < f.fractions) :
    f.units (e * f.fractions + r) =
      if e = 0 then r else (f.fractions + r) * Nat.pow 2 (e - 1) := by
  have hdiv : (e * f.fractions + r) / f.fractions = e := by
    rw [Nat.mul_comm, Nat.mul_add_div f.fractions_pos, Nat.div_eq_of_lt hr, Nat.add_zero]
  have hmod : (e * f.fractions + r) % f.fractions = r := by
    rw [Nat.mul_comm, Nat.mul_add_mod, Nat.mod_eq_of_lt hr]
  change (if (e * f.fractions + r) / f.fractions = 0 then e * f.fractions + r
    else (f.fractions + (e * f.fractions + r) % f.fractions) *
      Nat.pow 2 ((e * f.fractions + r) / f.fractions - 1)) = _
  rw [hdiv, hmod]
  split
  · rename_i he
    rw [he, Nat.zero_mul, Nat.zero_add]
  · rfl

theorem units_lt_succ (m : Nat) : f.units m < f.units (m + 1) := by
  have hpos := f.fractions_pos
  obtain ⟨e, r, hr, rfl⟩ := f.exists_fields m
  rw [f.units_fields e hr]
  by_cases hlast : r + 1 < f.fractions
  · rw [Nat.add_assoc, f.units_fields e hlast]
    split
    · exact Nat.lt_succ_self r
    · exact Nat.mul_lt_mul_of_pos_right (by omega) (Nat.pow_pos (by decide))
  · -- the fraction field is full, so the exponent field goes up
    have hcarry : e * f.fractions + r + 1 = (e + 1) * f.fractions + 0 := by
      rw [Nat.succ_mul]
      omega
    rw [hcarry, f.units_fields (e + 1) hpos, if_neg (Nat.succ_ne_zero e), Nat.add_sub_cancel,
      Nat.add_zero]
    split
    · rename_i he
      rw [he]
      exact Nat.lt_of_lt_of_eq hr (Nat.mul_one _).symm
    · rename_i he
      have hdouble : Nat.pow 2 e = 2 * Nat.pow 2 (e - 1) := by
        rw [Nat.mul_comm]
        exact congrArg (Nat.pow 2) (by omega : e = e - 1 + 1)
      rw [hdouble, ← Nat.mul_assoc]
      exact Nat.mul_lt_mul_of_pos_right (by omega) (Nat.pow_pos (by decide))

theorem units_strictMono : StrictMono f.units := strictMono_nat_of_lt_succ f.units_lt_succ

theorem units_zero : f.units 0 = 0 := by simp [units]

theorem units_eq_zero_iff {m : Nat} : f.units m = 0 ↔ m = 0 := by
  constructor
  · intro h
    exact f.units_strictMono.injective (h.trans f.units_zero.symm)
  · rintro rfl
    exact f.units_zero

end BinaryFormat

namespace Binary

variable {f : BinaryFormat} {x : Binary f}

/-! ## Sign and magnitude -/

/-- Sign bit and magnitude make up the pattern. -/
theorem pattern_eq (x : Binary f) :
    x.pattern = (if x.negative then f.signWeight else 0) + x.magnitude := by
  have hx := x.pattern_lt
  rw [magnitude, negative]
  split <;> rename_i h <;> rw [decide_eq_true_iff] at h
  · rw [Nat.mod_eq_sub_mod h, Nat.mod_eq_of_lt (by omega)]
    omega
  · rw [Nat.mod_eq_of_lt (by omega), Nat.zero_add]

theorem magnitude_lt (x : Binary f) : x.magnitude < f.signWeight :=
  Nat.mod_lt _ f.signWeight_pos

/-- A pattern that stands for a number lies between the infinities. -/
theorem magnitude_le (h : x.isNaN = false) : x.magnitude ≤ f.infinity :=
  Nat.le_of_not_lt (of_decide_eq_false h)

theorem pattern_ofMagnitude (negative : Bool) {m : Nat} (hm : m < f.signWeight) :
    (ofMagnitude negative m : Binary f).pattern = (if negative then f.signWeight else 0) + m := by
  rw [ofMagnitude, ofPattern]
  cases negative
  · simp only [if_false, Bool.false_eq_true, Nat.zero_add]
    exact Nat.mod_eq_of_lt (by omega)
  · simp only [if_true]
    exact Nat.mod_eq_of_lt (by omega)

theorem negative_ofMagnitude (negative : Bool) {m : Nat} (hm : m < f.signWeight) :
    (ofMagnitude negative m : Binary f).negative = negative := by
  rw [Binary.negative, pattern_ofMagnitude negative hm]
  cases negative
  · simpa using hm
  · simp

theorem magnitude_ofMagnitude (negative : Bool) {m : Nat} (hm : m < f.signWeight) :
    (ofMagnitude negative m : Binary f).magnitude = m := by
  rw [magnitude, pattern_ofMagnitude negative hm]
  cases negative <;> simp [Nat.mod_eq_of_lt hm]

theorem eq_ofMagnitude (x : Binary f) : x = ofMagnitude x.negative x.magnitude := by
  rw [← pattern_inj, pattern_ofMagnitude _ x.magnitude_lt, x.pattern_eq]

end Binary

end FacetedSearch
