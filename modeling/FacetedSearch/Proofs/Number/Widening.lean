import FacetedSearch.Proofs.Number.Units

/-!
# FacetedSearch.Proofs.Number.Widening — a wider format loses nothing

The units of a pattern are nearest to that pattern (`BinaryFormat.nearest_units`), and a number of
units with few significant bits is the units of some pattern (`BinaryFormat.exists_units`).  So a
32-bit number that is widened to 64 bits is narrowed to itself again (`Binary.narrow_widen`).
-/

namespace FacetedSearch

namespace BinaryFormat

variable (f : BinaryFormat)

/-! ## Rounding what needs none -/

theorem roundHalfEven_mul_right (n d : Nat) {k : Nat} (hk : 0 < k) :
    roundHalfEven (n * k) (d * k) = roundHalfEven n d := by
  have hbelow : 2 * (n % d * k) < d * k ↔ 2 * (n % d) < d := by
    rw [← Nat.mul_assoc]
    exact Nat.mul_lt_mul_right hk
  have habove : d * k < 2 * (n % d * k) ↔ d < 2 * (n % d) := by
    rw [← Nat.mul_assoc]
    exact Nat.mul_lt_mul_right hk
  simp only [roundHalfEven, Nat.mul_div_mul_right n d hk, Nat.mul_mod_mul_right, hbelow, habove]

theorem roundHalfEven_mul_self (q : Nat) {d : Nat} (hd : 0 < d) : roundHalfEven (q * d) d = q := by
  simp [roundHalfEven, Nat.mul_div_cancel q hd, hd]

theorem nearest_mul_right (n d : Nat) {k : Nat} (hk : 0 < k) :
    f.nearest (n * k) (d * k) = f.nearest n d := by
  have hscale (w : Nat) : d * k * w = d * w * k := Nat.mul_right_comm d k w
  simp only [nearest, Nat.mul_div_mul_right n d hk, hscale, roundHalfEven_mul_right _ _ hk]

/-- A leading one before the fraction, shifted. -/
theorem log2_shifted {c : Nat} (hlow : f.fractions ≤ c) (hhigh : c < 2 * f.fractions) (s : Nat) :
    (c * Nat.pow 2 s).log2 = f.fractionBits + s := by
  have hlow : 2 ^ f.fractionBits ≤ c := hlow
  have hhigh : c < 2 ^ (f.fractionBits + 1) := by
    rw [Nat.pow_succ, Nat.mul_comm]
    exact hhigh
  have hs : 0 < 2 ^ s := Nat.two_pow_pos s
  have hc : 0 < 2 ^ f.fractionBits := Nat.two_pow_pos _
  refine (Nat.log2_eq_iff (Nat.mul_ne_zero (by omega) (Nat.ne_of_gt hs))).mpr ⟨?_, ?_⟩
  · rw [Nat.pow_add]
    exact Nat.mul_le_mul_right _ hlow
  · rw [Nat.add_right_comm, Nat.pow_add]
    exact Nat.mul_lt_mul_of_pos_right hhigh hs

/-- The units of a magnitude are nearest to it. -/
theorem nearest_units {m : Nat} (hm : m ≤ f.infinity) : f.nearest (f.units m) 1 = m := by
  obtain ⟨e, r, hr, rfl⟩ := f.exists_fields m
  rw [f.units_fields e hr, nearest, Nat.div_one]
  split
  · rename_i he
    subst he
    have hlog : r.log2 - f.fractionBits = 0 := by
      by_cases h0 : r = 0
      · simp [h0]
      · have := (Nat.log2_lt h0).mpr hr
        omega
    have hround := roundHalfEven_mul_self r Nat.one_pos
    rw [Nat.mul_one] at hround
    simp only [hlog, Nat.zero_mul, Nat.zero_add, Nat.one_mul] at hm ⊢
    exact (congrArg (min · _) hround).trans (Nat.min_eq_left hm)
  · rename_i he
    have hlog := f.log2_shifted (Nat.le_add_right f.fractions r) (by omega) (e - 1)
    have hround := roundHalfEven_mul_self (f.fractions + r) (d := Nat.pow 2 (e - 1))
      (Nat.pow_pos (by decide))
    have hsum : (e - 1) * f.fractions + (f.fractions + r) = e * f.fractions + r := by
      rw [← Nat.add_assoc, ← Nat.succ_mul, Nat.succ_eq_add_one, Nat.sub_add_cancel (by omega)]
    simp only [hlog, Nat.add_sub_cancel_left, Nat.one_mul, hround]
    change min ((e - 1) * f.fractions + (f.fractions + r)) f.infinity = _
    rw [hsum]
    exact Nat.min_eq_left hm

/-- A magnitude stands for every number of units that has few significant bits. -/
theorem exists_units {a : Nat} (ha : a < 2 * f.fractions) (j : Nat) :
    ∃ m, f.units m = a * Nat.pow 2 j := by
  induction j generalizing a with
  | zero =>
    by_cases h : a < f.fractions
    · refine ⟨0 * f.fractions + a, ?_⟩
      rw [f.units_fields 0 h, if_pos rfl]
      exact (Nat.mul_one a).symm
    · refine ⟨1 * f.fractions + (a - f.fractions), ?_⟩
      rw [f.units_fields 1 (by omega), if_neg (by decide), Nat.add_sub_cancel' (by omega)]
  | succ j ih =>
    by_cases h : a < f.fractions
    · obtain ⟨m, hm⟩ := ih (a := 2 * a) (by omega)
      exact ⟨m, hm.trans (by rw [Nat.mul_comm 2 a, Nat.mul_assoc]; exact congrArg _ (Nat.pow_succ').symm)⟩
    · refine ⟨(j + 2) * f.fractions + (a - f.fractions), ?_⟩
      rw [f.units_fields (j + 2) (by omega), if_neg (by omega), Nat.add_sub_cancel' (by omega)]
      rfl

/-- The units of a magnitude have few significant bits. -/
theorem exists_significand (m : Nat) :
    ∃ a j, a < 2 * f.fractions ∧ f.units m = a * Nat.pow 2 j := by
  obtain ⟨e, r, hr, rfl⟩ := f.exists_fields m
  rw [f.units_fields e hr]
  split
  · exact ⟨r, 0, by omega, (Nat.mul_one r).symm⟩
  · exact ⟨f.fractions + r, e - 1, by omega, rfl⟩

/-- The second format has room for every finite number of the first. -/
structure Widens (f g : BinaryFormat) : Prop where
  fractionBits : f.fractionBits ≤ g.fractionBits
  unitBits : f.unitBits ≤ g.unitBits
  infinity : f.units f.infinity * Nat.pow 2 (g.unitBits - f.unitBits) ≤ g.units g.infinity

theorem single_widens : single.Widens double := ⟨by decide, by decide, by decide +kernel⟩

variable {f} {g : BinaryFormat}

namespace Widens

theorem unitsPerOne (h : f.Widens g) :
    g.unitsPerOne = Nat.pow 2 (g.unitBits - f.unitBits) * f.unitsPerOne :=
  (congrArg (Nat.pow 2) (Nat.sub_add_cancel h.unitBits).symm).trans (Nat.pow_add ..)

/-- The units of a finite magnitude, counted in the finer units of a wider format, are the units of
a finite magnitude there. -/
theorem exists_widened (h : f.Widens g) {m : Nat} (hm : m < f.infinity) :
    ∃ w < g.infinity, g.units w = f.units m * Nat.pow 2 (g.unitBits - f.unitBits) := by
  obtain ⟨a, j, ha, hunits⟩ := f.exists_significand m
  have hfractions : f.fractions ≤ g.fractions := Nat.pow_le_pow_right (by decide) h.fractionBits
  obtain ⟨w, hw⟩ := g.exists_units (a := a) (by omega) (j + (g.unitBits - f.unitBits))
  have hwide : g.units w = f.units m * Nat.pow 2 (g.unitBits - f.unitBits) := by
    rw [hw, hunits, Nat.mul_assoc]
    exact congrArg _ (Nat.pow_add ..)
  refine ⟨w, g.units_strictMono.lt_iff_lt.mp ?_, hwide⟩
  calc g.units w = f.units m * Nat.pow 2 (g.unitBits - f.unitBits) := hwide
    _ < f.units f.infinity * Nat.pow 2 (g.unitBits - f.unitBits) :=
      Nat.mul_lt_mul_of_pos_right (f.units_strictMono hm) (Nat.pow_pos (by decide))
    _ ≤ g.units g.infinity := h.infinity

end Widens

end BinaryFormat

namespace Binary

variable {f g : BinaryFormat}

theorem isNaN_ofMagnitude (negative : Bool) {m : Nat} (hm : m ≤ f.infinity) :
    (ofMagnitude negative m : Binary f).isNaN = false := by
  rw [isNaN, magnitude_ofMagnitude negative (Nat.lt_of_le_of_lt hm f.infinity_lt_signWeight)]
  exact decide_eq_false (Nat.not_lt_of_le hm)

theorem convert_inf (negative : Bool) : (inf negative : Binary f).convert g = inf negative := by
  have hm : (inf negative : Binary f).magnitude = f.infinity :=
    magnitude_ofMagnitude negative f.infinity_lt_signWeight
  have hs : (inf negative : Binary f).negative = negative :=
    negative_ofMagnitude negative f.infinity_lt_signWeight
  rw [convert, isInfinite, hm, hs, inf, isNaN_ofMagnitude negative (Nat.le_refl _)]
  simp

theorem convert_ofMagnitude (negative : Bool) {m : Nat} (hm : m < f.infinity) :
    (ofMagnitude negative m : Binary f).convert g =
      ofUnits negative (f.units m * g.unitsPerOne) f.unitsPerOne := by
  have hweight : m < f.signWeight := Nat.lt_trans hm f.infinity_lt_signWeight
  rw [convert, isInfinite, isNaN_ofMagnitude negative (Nat.le_of_lt hm),
    magnitude_ofMagnitude negative hweight, negative_ofMagnitude negative hweight,
    decide_eq_false (Nat.ne_of_lt hm)]
  rfl

/-- Narrowing undoes widening. -/
theorem narrow_widen (hw : f.Widens g) {x : Binary f} (h : x.isNaN = false) :
    (x.convert g).convert f = x := by
  have hone := f.unitsPerOne_pos
  rcases Nat.lt_or_eq_of_le (magnitude_le h) with hfinite | hinf
  · obtain ⟨w, hwfinite, hunits⟩ := hw.exists_widened hfinite
    have hwiden : g.nearest (f.units x.magnitude * g.unitsPerOne) f.unitsPerOne = w := by
      have hround := g.nearest_mul_right (g.units w) 1 hone
      rw [g.nearest_units (Nat.le_of_lt hwfinite), Nat.one_mul, hunits, Nat.mul_assoc,
        ← hw.unitsPerOne] at hround
      exact hround
    have hnarrow : f.nearest (g.units w * f.unitsPerOne) g.unitsPerOne = x.magnitude := by
      have hround := f.nearest_mul_right (f.units x.magnitude) 1
        (k := g.unitsPerOne) (Nat.pow_pos (by decide))
      rw [f.nearest_units (Nat.le_of_lt hfinite), Nat.one_mul, hw.unitsPerOne, ← Nat.mul_assoc,
        ← hunits, ← hw.unitsPerOne] at hround
      exact hround
    calc (x.convert g).convert f
        = ((ofMagnitude x.negative x.magnitude : Binary f).convert g).convert f := by
          rw [← x.eq_ofMagnitude]
      _ = (ofMagnitude x.negative w : Binary g).convert f := by
          rw [convert_ofMagnitude _ hfinite, ofUnits, hwiden]
      _ = ofMagnitude x.negative x.magnitude := by
          rw [convert_ofMagnitude _ hwfinite, ofUnits, hnarrow]
      _ = x := x.eq_ofMagnitude.symm
  · have hx : x = inf x.negative := by
      rw [inf, ← hinf]
      exact x.eq_ofMagnitude
    rw [hx, convert_inf, convert_inf]

/-! ## Literals stand for numbers -/

theorem isNaN_ofUnits (negative : Bool) (n d : Nat) :
    (ofUnits negative n d : Binary f).isNaN = false := isNaN_ofMagnitude negative (Nat.min_le_right _ _)

theorem isNaN_ofDecimal (negative : Bool) (digits : Nat) (exponent : Int) :
    (ofDecimal negative digits exponent : Binary f).isNaN = false := by
  rw [ofDecimal]
  split
  · exact isNaN_ofMagnitude negative (Nat.zero_le _)
  · split
    · exact isNaN_ofMagnitude negative (Nat.le_refl _)
    · split
      · exact isNaN_ofMagnitude negative (Nat.zero_le _)
      · exact isNaN_ofUnits _ _ _

end Binary

end FacetedSearch
