import FacetedSearch.Proofs.Number.Widening
import Mathlib.Algebra.Order.Field.Basic
import Mathlib.Data.Rat.Cast.Order
import Mathlib.Tactic.FieldSimp
import Mathlib.Tactic.Linarith
import Mathlib.Tactic.Positivity
import Mathlib.Tactic.Ring

/-!
# FacetedSearch.Proofs.Number.Rounding — how far a decimal number is from its pattern

Patterns between two powers of two are equally far apart, so that the nearest one is found by one
division (`BinaryFormat.exists_nearest`) and is off by half a step at most
(`BinaryFormat.nearest_error`).  A decimal number that a pattern stands for is therefore read as it
is (`Binary.ofDecimal_of_units`), and another is moved by a small part of itself
(`Binary.ofDecimal_error`).
-/

namespace FacetedSearch

namespace BinaryFormat

variable (f : BinaryFormat) {n d : Nat}

/-! ## One rounding -/

/-- Rounding moves a quotient by half of one at most. -/
theorem roundHalfEven_error (n : Nat) (hd : 0 < d) :
    2 * n ≤ 2 * (roundHalfEven n d * d) + d ∧ 2 * (roundHalfEven n d * d) ≤ 2 * n + d := by
  have hn : n / d * d + n % d = n := Nat.div_add_mod' n d
  have hr : n % d < d := Nat.mod_lt n hd
  have hup : (n / d + 1) * d = n / d * d + d := Nat.succ_mul ..
  simp only [roundHalfEven]
  split
  · omega
  · split
    · rw [hup]
      omega
    · rcases Nat.mod_two_eq_zero_or_one (n / d) with h | h <;> rw [h]
      · rw [Nat.add_zero]
        omega
      · rw [hup]
        omega

theorem le_roundHalfEven {a : Nat} (hd : 0 < d) (h : a * d ≤ n) : a ≤ roundHalfEven n d := by
  have hq : a ≤ n / d := (Nat.le_div_iff_mul_le hd).mpr h
  simp only [roundHalfEven]
  split
  · exact hq
  · split <;> omega

theorem roundHalfEven_le {b : Nat} (hd : 0 < d) (h : n ≤ b * d) : roundHalfEven n d ≤ b := by
  have herror := (roundHalfEven_error n hd).2
  by_contra hlt
  have hmul : (b + 1) * d ≤ roundHalfEven n d * d := Nat.mul_le_mul_right d (by omega)
  rw [Nat.succ_mul] at hmul
  omega

/-! ## The step between patterns -/

/-- A pattern that stands `q` steps above `s` exponents stands for `q` steps of `2 ^ s` units.  With
as many steps as two exponents have, the next exponent field is reached, where the same holds. -/
theorem units_steps {s q : Nat} (hlow : s = 0 ∨ f.fractions ≤ q) (hhigh : q ≤ 2 * f.fractions) :
    f.units (s * f.fractions + q) = q * Nat.pow 2 s := by
  have hpos := f.fractions_pos
  rcases Nat.lt_or_ge q f.fractions with h | h
  · obtain rfl : s = 0 := hlow.resolve_right (by omega)
    rw [f.units_fields 0 h, if_pos rfl]
    exact (Nat.mul_one q).symm
  · rcases Nat.lt_or_eq_of_le hhigh with h' | rfl
    · have hfields : s * f.fractions + q = (s + 1) * f.fractions + (q - f.fractions) := by
        rw [Nat.succ_mul]
        omega
      rw [hfields, f.units_fields (s + 1) (by omega), if_neg (by omega), Nat.add_sub_cancel' h,
        Nat.add_sub_cancel]
    · have hfields : s * f.fractions + 2 * f.fractions = (s + 2) * f.fractions + 0 := by
        rw [Nat.add_mul, Nat.add_zero]
      rw [hfields, f.units_fields (s + 2) hpos, if_neg (by omega), Nat.add_zero, Nat.mul_comm 2,
        Nat.mul_assoc]
      exact congrArg _ Nat.pow_succ'

/-- A magnitude stands for every whole number of few significant bits. -/
theorem exists_whole {a : Nat} (ha : a < 2 * f.fractions) : ∃ m, f.units m = a * f.unitsPerOne :=
  f.exists_units ha f.unitBits

/-- A magnitude from the first of some steps on is a whole number of these steps. -/
theorem pow_dvd_units {s m : Nat} (h : f.fractions * Nat.pow 2 s ≤ f.units m) :
    Nat.pow 2 s ∣ f.units m := by
  obtain ⟨e, r, hr, rfl⟩ := f.exists_fields m
  rw [f.units_fields e hr] at h ⊢
  split at h <;> rename_i he
  · have hone : 1 ≤ Nat.pow 2 s := Nat.pow_pos (by decide)
    have hfractions := Nat.le_mul_of_pos_right f.fractions hone
    omega
  · have hlt : f.fractions * 2 ^ s < f.fractions * 2 ^ e := by
      have hdouble : 2 ^ e = 2 * 2 ^ (e - 1) := by
        rw [← Nat.pow_succ', Nat.succ_eq_add_one, Nat.sub_add_cancel (by omega)]
      calc f.fractions * 2 ^ s ≤ (f.fractions + r) * 2 ^ (e - 1) := h
        _ < 2 * f.fractions * 2 ^ (e - 1) :=
          Nat.mul_lt_mul_of_pos_right (by omega) (Nat.two_pow_pos _)
        _ = f.fractions * 2 ^ e := by rw [hdouble, Nat.mul_comm 2, Nat.mul_assoc]
    have hs : s < e := (Nat.pow_lt_pow_iff_right (by decide)).mp (Nat.lt_of_mul_lt_mul_left hlt)
    rw [if_neg he]
    exact Nat.dvd_mul_left_of_dvd (Nat.pow_dvd_pow 2 (by omega)) _

/-- The steps to round to are chosen so that at most as many are left as two exponents have, and at
least as many as one has unless a step is a single unit. -/
theorem steps_bounds (hd : 0 < d) {s : Nat} (hs : s = (n / d).log2 - f.fractionBits) :
    (s = 0 ∨ f.fractions * (d * Nat.pow 2 s) ≤ n) ∧ n ≤ 2 * f.fractions * (d * Nat.pow 2 s) := by
  constructor
  · rcases Nat.eq_zero_or_pos s with h0 | hpos
    · exact .inl h0
    · have hv : n / d ≠ 0 := by
        intro h0
        rw [h0, Nat.log2_zero] at hs
        omega
      have hlog : f.fractions * 2 ^ s ≤ n / d := by
        calc f.fractions * 2 ^ s = 2 ^ (f.fractionBits + s) := (Nat.pow_add ..).symm
          _ = 2 ^ (n / d).log2 := by rw [hs, Nat.add_sub_cancel' (by omega)]
          _ ≤ n / d := Nat.log2_self_le hv
      refine .inr ?_
      calc f.fractions * (d * 2 ^ s) = f.fractions * 2 ^ s * d := by
            rw [Nat.mul_comm d, Nat.mul_assoc]
        _ ≤ n := (Nat.le_div_iff_mul_le hd).mp hlog
  · have hlog : n / d < 2 * f.fractions * 2 ^ s := by
      calc n / d < 2 ^ ((n / d).log2 + 1) := Nat.lt_log2_self
        _ ≤ 2 ^ (f.fractionBits + 1 + s) := Nat.pow_le_pow_right (by decide) (by omega)
        _ = 2 * f.fractions * 2 ^ s := by
          rw [Nat.pow_add, Nat.pow_succ, Nat.mul_comm 2]
          rfl
    calc n ≤ 2 * f.fractions * 2 ^ s * d := Nat.le_of_lt ((Nat.div_lt_iff_lt_mul hd).mp hlog)
      _ = 2 * f.fractions * (d * 2 ^ s) := by rw [Nat.mul_assoc, Nat.mul_comm d]

/-- The pattern nearest to a number of units within the range of the format is a whole number of
steps, rounded once. -/
theorem exists_nearest (hd : 0 < d) (h : n ≤ f.units f.infinity * d) :
    ∃ s, f.units (f.nearest n d) = roundHalfEven n (d * Nat.pow 2 s) * Nat.pow 2 s ∧
      (s = 0 ∨ f.fractions * (d * Nat.pow 2 s) ≤ n) := by
  obtain ⟨s, hs⟩ : ∃ s, s = (n / d).log2 - f.fractionBits := ⟨_, rfl⟩
  obtain ⟨hfull, hhigh⟩ := f.steps_bounds hd hs
  have hstep : 0 < d * Nat.pow 2 s := Nat.mul_pos hd (Nat.two_pow_pos s)
  have hunits := f.units_steps (s := s) (q := roundHalfEven n (d * Nat.pow 2 s))
    (hfull.imp_right (le_roundHalfEven hstep)) (roundHalfEven_le hstep hhigh)
  have hdvd : Nat.pow 2 s ∣ f.units f.infinity := by
    rcases hfull with rfl | hfull
    · exact Nat.one_dvd _
    · refine f.pow_dvd_units (Nat.le_of_mul_le_mul_right ?_ hd)
      rw [Nat.mul_assoc, Nat.mul_comm (Nat.pow 2 s)]
      exact Nat.le_trans hfull h
  have hle : s * f.fractions + roundHalfEven n (d * Nat.pow 2 s) ≤ f.infinity := by
    obtain ⟨b, hb⟩ := hdvd
    rw [← f.units_strictMono.le_iff_le, hunits, hb, Nat.mul_comm]
    refine Nat.mul_le_mul_left _ (roundHalfEven_le hstep ?_)
    rw [Nat.mul_comm b, Nat.mul_assoc, ← hb, Nat.mul_comm d]
    exact h
  refine ⟨s, ?_, hfull⟩
  rw [← hunits]
  subst hs
  exact congrArg f.units (Nat.min_eq_left hle)

/-- Where no fraction is lost below the least exponent, rounding moves a quotient by its
`2 * fractions`-th part at most. -/
theorem nearest_error (hd : 0 < d) (h : n ≤ f.units f.infinity * d)
    (hnormal : f.fractions * d ≤ n) :
    |(f.units (f.nearest n d) : ℚ) - n / d| ≤ n / d / (2 * f.fractions) := by
  obtain ⟨s, hunits, hfull⟩ := f.exists_nearest hd h
  have hstep : f.fractions * (d * Nat.pow 2 s) ≤ n := by
    rcases hfull with rfl | hfull
    · exact Nat.le_trans (Nat.le_of_eq (congrArg _ (Nat.mul_one d))) hnormal
    · exact hfull
  obtain ⟨hup, hdown⟩ := roundHalfEven_error n (d := d * Nat.pow 2 s)
    (Nat.mul_pos hd (Nat.two_pow_pos s))
  have hsteps : roundHalfEven n (d * Nat.pow 2 s) * (d * Nat.pow 2 s) =
      f.units (f.nearest n d) * d := by
    rw [hunits, Nat.mul_assoc, Nat.mul_comm (Nat.pow 2 s)]
  rw [hsteps] at hup hdown
  generalize f.units (f.nearest n d) = u at *
  generalize d * Nat.pow 2 s = step at *
  have hdq : (0 : ℚ) < d := Nat.cast_pos.mpr hd
  have hfq : (0 : ℚ) < f.fractions := Nat.cast_pos.mpr f.fractions_pos
  have hupq : (2 * n : ℚ) ≤ 2 * (u * d) + step := by exact_mod_cast hup
  have hdownq : (2 * (u * d) : ℚ) ≤ 2 * n + step := by exact_mod_cast hdown
  have hstepq : (f.fractions * step : ℚ) ≤ n := by exact_mod_cast hstep
  have hhalf : |(u * d - n : ℚ)| ≤ step / 2 := by
    rw [abs_le]
    constructor <;> linarith
  have hsmall : (step : ℚ) / 2 ≤ n / (2 * f.fractions) := by
    rw [div_le_div_iff₀ two_pos (by positivity)]
    linarith
  have hscale : (u : ℚ) - n / d = (u * d - n) / d := by
    rw [sub_div, mul_div_cancel_right₀ _ hdq.ne']
  rw [hscale, abs_div, abs_of_pos hdq, div_right_comm]
  exact div_le_div_of_nonneg_right (hhalf.trans hsmall) hdq.le

end BinaryFormat

namespace Binary

variable {f : BinaryFormat}

/-! ## Values -/

/-- A number with a sign in front of it. -/
def withSign (negative : Bool) (q : ℚ) : ℚ := if negative then -q else q

theorem abs_withSign_sub (negative : Bool) (p q : ℚ) :
    |withSign negative p - withSign negative q| = |p - q| := by
  cases negative
  · rfl
  · change |-p - -q| = _
    rw [← abs_neg]
    congr 1
    ring

/-- What a finite number is, as a fraction. -/
def value (x : Binary f) : ℚ := x.units / f.unitsPerOne

theorem unitsPerOne_pos (f : BinaryFormat) : (0 : ℚ) < f.unitsPerOne :=
  Nat.cast_pos.mpr f.unitsPerOne_pos

theorem value_ofMagnitude (negative : Bool) {m : Nat} (hm : m < f.signWeight) :
    (ofMagnitude negative m : Binary f).value = withSign negative (f.units m / f.unitsPerOne) := by
  rw [value, units, negative_ofMagnitude negative hm, magnitude_ofMagnitude negative hm, withSign]
  cases negative
  · simp
  · simp [neg_div]

/-- The whole number that is read off a number is its value. -/
theorem toInt?_eq_some_iff {x : Binary f} {i : Int} :
    x.toInt? = some i ↔ x.isFinite = true ∧ x.value = i := by
  have hone : (f.unitsPerOne : Int) ≠ 0 :=
    Int.natCast_ne_zero.mpr (Nat.ne_of_gt f.unitsPerOne_pos)
  have hvalue : x.value = i ↔ x.units = i * f.unitsPerOne := by
    rw [value, div_eq_iff (unitsPerOne_pos f).ne']
    exact_mod_cast Iff.rfl
  have hdvd : f.units x.magnitude % f.unitsPerOne = 0 ↔ (f.unitsPerOne : Int) ∣ x.units := by
    rw [← Nat.dvd_iff_mod_eq_zero, units]
    split
    · rw [Int.dvd_neg, Int.natCast_dvd_natCast]
    · rw [Int.natCast_dvd_natCast]
  rw [toInt?, hvalue]
  constructor
  · intro h
    split at h
    · rename_i hif
      rw [Bool.and_eq_true, beq_iff_eq, hdvd] at hif
      refine ⟨hif.1, ?_⟩
      rw [← Option.some.inj h, Int.ediv_mul_cancel hif.2]
    · cases h
  · rintro ⟨hfinite, hunits⟩
    have hmod := hdvd.mpr ⟨i, hunits.trans (Int.mul_comm ..)⟩
    rw [hfinite, hmod, hunits, Int.mul_ediv_cancel _ hone]
    rfl

/-! ## Decimal numbers -/

section Decimal

variable {negative : Bool} {digits : Nat} {exponent : Int}

/-- A power of ten, above and below the line. -/
theorem ten_pow_toNat (e : Int) : (10 : ℚ) ^ e.toNat = 10 ^ e * 10 ^ (-e).toNat := by
  have hten : (10 : ℚ) ≠ 0 := by norm_num
  rw [← zpow_natCast, ← zpow_natCast, ← zpow_add₀ hten]
  congr 1
  omega

/-- A decimal number that is neither zero nor out of range is rounded as a quotient of whole numbers
of units. -/
theorem ofDecimal_eq_ofUnits (hd : digits ≠ 0) (hexp : exponent ≤ f.unitBits)
    (h : 1 ≤ (digits : ℚ) * 10 ^ exponent * f.unitsPerOne) :
    (ofDecimal negative digits exponent : Binary f) =
      ofUnits negative (digits * Nat.pow 10 exponent.toNat * f.unitsPerOne)
        (Nat.pow 10 (-exponent).toNat) := by
  have hlarge : ¬ exponent + (digits.log2 + 1 : Nat) < -(f.unitBits + 1 : Int) := by
    intro hlt
    obtain ⟨k, rfl⟩ := Int.exists_eq_neg_ofNat (a := exponent) (by omega)
    have hlog : digits * f.unitsPerOne < 10 ^ k := by
      calc digits * f.unitsPerOne < 2 ^ (digits.log2 + 1) * 2 ^ f.unitBits :=
            Nat.mul_lt_mul_of_pos_right Nat.lt_log2_self (Nat.two_pow_pos _)
        _ = 2 ^ (digits.log2 + 1 + f.unitBits) := (Nat.pow_add ..).symm
        _ ≤ 2 ^ k := Nat.pow_le_pow_right (by decide) (by omega)
        _ ≤ 10 ^ k := Nat.pow_le_pow_left (by decide) k
    have hlogq : (digits * f.unitsPerOne : ℚ) < 10 ^ k := by exact_mod_cast hlog
    rw [zpow_neg, zpow_natCast, mul_right_comm, ← div_eq_mul_inv, one_le_div (by positivity)] at h
    linarith
  rw [ofDecimal, if_neg hd, if_neg (Int.not_lt.mpr hexp), if_neg hlarge]

/-- The quotient of whole numbers is the decimal number, counted in units. -/
theorem decimal_quotient (digits : Nat) (exponent : Int) :
    ((digits * Nat.pow 10 exponent.toNat * f.unitsPerOne : Nat) : ℚ) =
      digits * 10 ^ exponent * f.unitsPerOne * (Nat.pow 10 (-exponent).toNat : Nat) := by
  have hsplit : ((Nat.pow 10 exponent.toNat : Nat) : ℚ) =
      10 ^ exponent * (Nat.pow 10 (-exponent).toNat : Nat) := by
    have hcast (k : Nat) : ((Nat.pow 10 k : Nat) : ℚ) = 10 ^ k := Nat.cast_pow 10 k
    rw [hcast, hcast, ten_pow_toNat]
  rw [Nat.cast_mul, Nat.cast_mul, hsplit]
  ring

/-- A decimal number that a finite pattern stands for is read as it is. -/
theorem ofDecimal_of_units {m : Nat} (hm : m < f.infinity)
    (hexp : digits ≠ 0 → exponent ≤ f.unitBits)
    (h : (digits : ℚ) * 10 ^ exponent * f.unitsPerOne = f.units m) :
    (ofDecimal negative digits exponent : Binary f) = ofMagnitude negative m := by
  have hzero := f.units_zero
  rcases Nat.eq_zero_or_pos m with rfl | hpos
  · have hdigits : digits = 0 := by
      rw [hzero] at h
      have hone := (unitsPerOne_pos f).ne'
      have hten : (10 : ℚ) ^ exponent ≠ 0 := zpow_ne_zero _ (by norm_num)
      simpa [hone, hten] using h
    rw [ofDecimal, if_pos hdigits, zero]
  · have hunits : 1 ≤ f.units m := Nat.succ_le_of_lt (hzero ▸ f.units_strictMono hpos)
    have hdigits : digits ≠ 0 := by
      rintro rfl
      rw [Nat.cast_zero, zero_mul, zero_mul] at h
      exact absurd (Nat.cast_eq_zero.mp h.symm) (by omega)
    have hn : digits * Nat.pow 10 exponent.toNat * f.unitsPerOne =
        f.units m * Nat.pow 10 (-exponent).toNat := by
      have hq := decimal_quotient (f := f) digits exponent
      rw [h] at hq
      exact_mod_cast hq
    have hround := f.nearest_mul_right (f.units m) 1 (k := Nat.pow 10 (-exponent).toNat)
      (Nat.pow_pos (by decide))
    rw [f.nearest_units (Nat.le_of_lt hm), Nat.one_mul] at hround
    have hlarge : 1 ≤ (digits : ℚ) * 10 ^ exponent * f.unitsPerOne := by
      rw [h]
      exact_mod_cast hunits
    rw [ofDecimal_eq_ofUnits hdigits (hexp hdigits) hlarge, hn, ofUnits, hround]

/-- Where no fraction is lost below the least exponent, rounding moves a decimal number by its
`2 * fractions`-th part at most. -/
theorem ofDecimal_error (hd : digits ≠ 0) (hexp : exponent ≤ f.unitBits)
    (hlow : (f.fractions : ℚ) ≤ digits * 10 ^ exponent * f.unitsPerOne)
    (hhigh : (digits : ℚ) * 10 ^ exponent * f.unitsPerOne ≤ f.units f.infinity) :
    |(ofDecimal negative digits exponent : Binary f).value -
        withSign negative (digits * 10 ^ exponent)| ≤
      digits * 10 ^ exponent / (2 * f.fractions) := by
  have hfull : 1 ≤ (digits : ℚ) * 10 ^ exponent * f.unitsPerOne :=
    le_trans (by exact_mod_cast f.fractions_pos) hlow
  have hquotient := decimal_quotient (f := f) digits exponent
  rw [ofDecimal_eq_ofUnits hd hexp hfull, ofUnits,
    value_ofMagnitude _ (f.nearest_lt_signWeight _ _), abs_withSign_sub]
  generalize digits * Nat.pow 10 exponent.toNat * f.unitsPerOne = n at *
  have hten : 0 < Nat.pow 10 (-exponent).toNat := Nat.pow_pos (by decide)
  generalize Nat.pow 10 (-exponent).toNat = d at *
  generalize (digits : ℚ) * 10 ^ exponent = q at *
  have hdq : (0 : ℚ) < d := Nat.cast_pos.mpr hten
  have hone := unitsPerOne_pos f
  have hnormal : (f.fractions * d : ℚ) ≤ n := by
    rw [hquotient]
    exact mul_le_mul_of_nonneg_right hlow hdq.le
  have hrange : (n : ℚ) ≤ f.units f.infinity * d := by
    rw [hquotient]
    exact mul_le_mul_of_nonneg_right hhigh hdq.le
  have herror := f.nearest_error hten (by exact_mod_cast hrange) (by exact_mod_cast hnormal)
  have hscale (u : Nat) :
      (u : ℚ) / f.unitsPerOne - q = (u - q * f.unitsPerOne) / f.unitsPerOne := by
    rw [sub_div, mul_div_cancel_right₀ _ hone.ne']
  rw [hquotient, mul_div_cancel_right₀ _ hdq.ne'] at herror
  rw [hscale, abs_div, abs_of_pos hone, div_le_iff₀ hone, div_mul_eq_mul_div]
  exact herror

end Decimal

end Binary

end FacetedSearch
