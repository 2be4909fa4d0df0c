import FacetedSearch.Number.Sortable
import FacetedSearch.Order

/-!
# FacetedSearch.Proofs.Number.Order — terms stand in the order of their numbers

Fixed-width digits compare like the number they spell (`Hex.cmp_write`), and a rank fits the digits
of its type (`Number.rank_lt`).  So terms of one type compare like ranks (`Number.cmp_encode`), and
those of whole numbers like the numbers themselves (`cmp_encode_int`, `cmp_encode_long`).
-/

namespace FacetedSearch

open SortKey (cmpList cmpNat cmpNat_lt_iff cmpNat_eq_iff cmpNat_swap)

/-! ## Digits -/

/-- Numbers of two digits compare by the first and then by the second. -/
theorem cmpNat_mul_add {m a r b s : Nat} (hr : r < m) (hs : s < m) :
    cmpNat (a * m + r) (b * m + s) = (cmpNat a b).then (cmpNat r s) := by
  have below {a b r s : Nat} (hr : r < m) (h : a < b) : a * m + r < b * m + s := by
    have hmul : (a + 1) * m ≤ b * m := Nat.mul_le_mul_right m h
    rw [Nat.succ_mul] at hmul
    omega
  rcases Nat.lt_trichotomy a b with h | rfl | h
  · rw [cmpNat_lt_iff.mpr h, cmpNat_lt_iff.mpr (below hr h)]
    rfl
  · rw [cmpNat_eq_iff.mpr rfl, Ordering.eq_then, cmpNat, cmpNat]
    simp only [Nat.add_lt_add_iff_left]
  · rw [← cmpNat_swap, cmpNat_lt_iff.mpr (below hs h), ← cmpNat_swap b a, cmpNat_lt_iff.mpr h]
    rfl

namespace Hex

theorem cmp_digit {v w : Nat} (hv : v < 16) (hw : w < 16) :
    SortKey.cmp (digit v) (digit w) = cmpNat v w := by
  have h : ∀ v < 16, ∀ w < 16, SortKey.cmp (digit v) (digit w) = cmpNat v w := by decide
  exact h v hv w hw

theorem cmp_write (w a b : Nat) :
    cmpList (write w a) (write w b) = cmpNat (a % Nat.pow 16 w) (b % Nat.pow 16 w) := by
  induction w with
  | zero =>
    rw [show Nat.pow 16 0 = 1 from rfl, Nat.mod_one, Nat.mod_one]
    rfl
  | succ w ih =>
    have hpos : 0 < Nat.pow 16 w := Nat.pow_pos (by decide)
    rw [write, write, cmpList, ih, cmp_digit (Nat.mod_lt _ (by decide)) (Nat.mod_lt _ (by decide)),
      mod_pow_succ, mod_pow_succ, cmpNat_mul_add (Nat.mod_lt _ hpos) (Nat.mod_lt _ hpos)]

end Hex

/-! ## Terms -/

namespace Binary

variable {f : BinaryFormat}

theorem rank_lt (x : Binary f) : x.rank < 2 * f.signWeight := by
  have hx := x.pattern_lt
  rw [rank, negative]
  split
  · omega
  · rename_i h
    rw [decide_eq_true_iff] at h
    omega

end Binary

namespace Number

theorem rank_lt (n : Number) : n.rank < Nat.pow 16 n.type.width := by
  cases n with
  | int v =>
    have hlt := v.toInt_lt
    have hle := v.le_toInt
    change (v.toInt + 2147483648).toNat < 4294967296
    omega
  | long v =>
    have hlt := v.toInt_lt
    have hle := v.le_toInt
    change (v.toInt + 9223372036854775808).toNat < 18446744073709551616
    omega
  | float v => exact v.rank_lt
  | double v => exact v.rank_lt

/-- Terms of numbers of one type compare like the ranks of the numbers. -/
theorem cmp_encode {a b : Number} (h : a.type = b.type) :
    SortKey.cmp a.encode b.encode = cmpNat a.rank b.rank := by
  change SortKey.cmp a.encode.toList b.encode.toList = _
  rw [encode, encode, String.toList_ofList, String.toList_ofList, h]
  change (SortKey.cmp b.type.tag b.type.tag).then (cmpList _ _) = _
  have ha := a.rank_lt
  rw [h] at ha
  rw [SortKey.cmp_self, Ordering.eq_then, Hex.cmp_write, Nat.mod_eq_of_lt ha,
    Nat.mod_eq_of_lt b.rank_lt]

theorem cmpNat_toNat {a b k : Int} (ha : 0 ≤ a + k) (hb : 0 ≤ b + k) :
    cmpNat (a + k).toNat (b + k).toNat = compare a b := by
  rcases Int.lt_trichotomy a b with h | h | h
  · rw [Int.compare_eq_lt.mpr h, cmpNat_lt_iff]
    omega
  · rw [Int.compare_eq_eq.mpr h, cmpNat_eq_iff]
    omega
  · rw [Int.compare_eq_gt.mpr h, ← cmpNat_swap, Ordering.swap_eq_gt, cmpNat_lt_iff]
    omega

theorem cmp_encode_int (a b : Int32) :
    SortKey.cmp (Number.int a).encode (Number.int b).encode = compare a.toInt b.toInt := by
  have ha := a.le_toInt
  have hb := b.le_toInt
  rw [cmp_encode (a := .int a) (b := .int b) rfl]
  exact cmpNat_toNat (by omega) (by omega)

theorem cmp_encode_long (a b : Int64) :
    SortKey.cmp (Number.long a).encode (Number.long b).encode = compare a.toInt b.toInt := by
  have ha := a.le_toInt
  have hb := b.le_toInt
  rw [cmp_encode (a := .long a) (b := .long b) rfl]
  exact cmpNat_toNat (by omega) (by omega)

end Number

end FacetedSearch
