import FacetedSearch.Proofs.Number.Units
import FacetedSearch.Proofs.Number.Whole

/-!
# FacetedSearch.Proofs.Number.TotalOrder — the order of encoded floating-point numbers

`Binary.totalCompare` is the total order of bit patterns, by sign and then by magnitude, and
`Binary.Less` the numeric order.  Terms of floating-point numbers stand in the total order
(`BinaryType.cmp_term`), which puts the lesser of two numbers first (`Binary.Less.totalCompare`).
The main result, `cmp_encoded`, says so of all four types of numbers.
-/

namespace FacetedSearch

open SortKey (cmpNat cmpNat_lt_iff cmpNat_eq_iff cmpNat_swap)

namespace Binary

variable {f : BinaryFormat} {x y : Binary f}

/-! ## The total order of patterns -/

/-- Negative patterns come before the others.  Of two negative ones the larger magnitude comes
first, of two others the smaller. -/
def totalCompare (x y : Binary f) : Ordering :=
  match x.negative, y.negative with
  | true, false => .lt
  | false, true => .gt
  | true, true => compare y.magnitude x.magnitude
  | false, false => compare x.magnitude y.magnitude

theorem rank_eq (x : Binary f) : x.rank =
    if x.negative then f.signWeight - 1 - x.magnitude else f.signWeight + x.magnitude := by
  have hp := x.pattern_eq
  have hm := x.magnitude_lt
  rw [rank]
  split <;> rename_i h <;> simp only [h, if_true, if_false, Bool.false_eq_true] at hp <;> omega

theorem cmpNat_eq_compare (a b : Nat) : cmpNat a b = compare a b :=
  (Nat.compare_eq_ite_lt a b).symm

/-- Ranks are places in the total order. -/
theorem compare_rank (x y : Binary f) : cmpNat x.rank y.rank = x.totalCompare y := by
  have hx := x.magnitude_lt
  have hy := y.magnitude_lt
  rw [x.rank_eq, y.rank_eq, totalCompare, ← cmpNat_eq_compare, ← cmpNat_eq_compare]
  cases x.negative <;> cases y.negative <;> simp only [if_true, if_false, Bool.false_eq_true]
  · simp only [cmpNat, Nat.add_lt_add_iff_left]
  · rw [← cmpNat_swap, cmpNat_lt_iff.mpr (by omega)]
    rfl
  · exact cmpNat_lt_iff.mpr (by omega)
  · have hlt {a b : Nat} (ha : a < f.signWeight) (hb : b < f.signWeight) :
        f.signWeight - 1 - a < f.signWeight - 1 - b ↔ b < a := by omega
    simp only [cmpNat, hlt hx hy, hlt hy hx]

/-! ## Numeric order -/

/-- One number is less than another: fewer units where both are finite, and the infinities stand
outside the finite numbers.  What is no number is less than nothing and nothing is less than it. -/
inductive Less (x y : Binary f) : Prop
  | finite (hx : x.isFinite = true) (hy : y.isFinite = true) (h : x.units < y.units)
  | fromBelow (hx : x = inf true) (hy : y.isNaN = false) (hne : y ≠ inf true)
  | toAbove (hx : x.isNaN = false) (hy : y = inf false) (hne : x ≠ inf false)

theorem magnitude_lt_of_ne_inf {negative : Bool} (hn : x.isNaN = false)
    (hs : x.negative = negative) (hne : x ≠ inf negative) : x.magnitude < f.infinity := by
  refine Nat.lt_of_le_of_ne (magnitude_le hn) fun hm => hne ?_
  rw [x.eq_ofMagnitude, hs, hm, inf]

/-- The total order puts the lesser number first. -/
theorem Less.totalCompare (h : x.Less y) : x.totalCompare y = .lt := by
  have hinf (negative : Bool) : (inf negative : Binary f).negative = negative ∧
      (inf negative : Binary f).magnitude = f.infinity :=
    ⟨negative_ofMagnitude _ f.infinity_lt_signWeight, magnitude_ofMagnitude _ f.infinity_lt_signWeight⟩
  rw [Binary.totalCompare]
  cases h with
  | finite _ _ h =>
    rw [units, units] at h
    cases hsx : x.negative <;> cases hsy : y.negative <;>
      simp only [hsx, hsy, if_true, if_false, Bool.false_eq_true] at h ⊢
    · exact Nat.compare_eq_lt.mpr (f.units_strictMono.lt_iff_lt.mp (Int.ofNat_lt.mp h))
    · omega
    · exact Nat.compare_eq_lt.mpr (f.units_strictMono.lt_iff_lt.mp (by omega))
  | fromBelow hx hy hne =>
    rw [hx, (hinf true).1, (hinf true).2]
    cases hsy : y.negative
    · rfl
    · exact Nat.compare_eq_lt.mpr (magnitude_lt_of_ne_inf hy hsy hne)
  | toAbove hx hy hne =>
    rw [hy, (hinf false).1, (hinf false).2]
    cases hsx : x.negative
    · exact Nat.compare_eq_lt.mpr (magnitude_lt_of_ne_inf hx hsx hne)
    · rfl

end Binary

/-! ## Terms -/

/-- The types of floating-point numbers. -/
inductive BinaryType
  | single
  | double

namespace BinaryType

/-- The format of a type. -/
def format : BinaryType → BinaryFormat
  | .single => .single
  | .double => .double

/-- The term of a number. -/
def term : (t : BinaryType) → Binary t.format → String
  | .single => fun v => (Number.float v).encode
  | .double => fun v => (Number.double v).encode

/-- Terms of one type of floating-point numbers stand in the total order of the patterns. -/
theorem cmp_term {t : BinaryType} (a b : Binary t.format) :
    SortKey.cmp (t.term a) (t.term b) = a.totalCompare b := by
  cases t with
  | single => exact (Number.cmp_encode (a := .float a) (b := .float b) rfl).trans (a.compare_rank b)
  | double => exact (Number.cmp_encode (a := .double a) (b := .double b) rfl).trans (a.compare_rank b)

end BinaryType

/-- Encoding keeps the order.  The terms of two whole numbers of one type compare like the numbers.
Those of two floating-point numbers of one type, whatever their patterns, compare by the total order
of the patterns; so the term of the lesser number comes first. -/
theorem cmp_encoded :
    (∀ (t : WholeType) (a b : t.Carrier),
      SortKey.cmp (t.term a) (t.term b) = compare (t.toInt a) (t.toInt b)) ∧
    (∀ (t : BinaryType) (a b : Binary t.format),
      SortKey.cmp (t.term a) (t.term b) = a.totalCompare b) ∧
    ∀ (t : BinaryType) (a b : Binary t.format), a.Less b →
      SortKey.Before (t.term a) (t.term b) :=
  ⟨fun _ => WholeType.cmp_term, fun _ => BinaryType.cmp_term,
    fun _ a b h => (BinaryType.cmp_term a b).trans h.totalCompare⟩

/-- Negative infinity stands before the least finite number of 32 bits and that before negative
zero; negative zero stands before zero, and infinity before what is no number. -/
theorem encoded_singles :
    let t : BinaryType := .single
    SortKey.Before (t.term (Binary.inf true)) (t.term (Binary.largest true)) ∧
      SortKey.Before (t.term (Binary.largest true)) (t.term (Binary.zero true)) ∧
      SortKey.cmp (t.term (Binary.zero true)) (t.term (Binary.zero false)) = .lt ∧
      SortKey.cmp (t.term (Binary.inf false)) (t.term Binary.nan) = .lt := by
  intro t
  refine ⟨cmp_encoded.2.2 t _ _ (.fromBelow rfl ?_ ?_), cmp_encoded.2.2 t _ _ (.finite ?_ ?_ ?_),
    (cmp_encoded.2.1 t _ _).trans ?_, (cmp_encoded.2.1 t _ _).trans ?_⟩
  all_goals decide +kernel

end FacetedSearch
