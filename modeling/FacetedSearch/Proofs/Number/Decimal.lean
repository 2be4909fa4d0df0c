import FacetedSearch.Proofs.Number.Rounding
import FacetedSearch.Proofs.Number.Whole
import Mathlib.Algebra.Order.Field.Power

/-!
# FacetedSearch.Proofs.Number.Decimal — decimal numbers, written and read

`DecimalText` is a decimal number as it is written, with an optional fraction and an optional
exponent, and `DecimalText.value` is the number it spells.  A whole number of 64 bits with neither
is read as it is, and any other as the nearest floating-point number
(`DecimalText.parseNumber?_chars`).  Small whole numbers survive this in every form
(`DecimalText.toInt?_of_value`), and a number with few digits that is not whole does not become
whole (`DecimalText.toInt?_of_fraction`).
-/

namespace FacetedSearch

/-! ## Written numbers -/

/-- A run of at least one digit. -/
structure DigitRun where
  first : Fin 10
  rest : List (Fin 10)

/-- The digits of a run. -/
def DigitRun.digits (r : DigitRun) : List (Fin 10) := r.first :: r.rest

/-- The sign of an exponent, which need not be written. -/
inductive ExponentSign
  | absent
  | plus
  | minus

/-- The characters of a sign. -/
def ExponentSign.chars : ExponentSign → List Char
  | .absent => []
  | .plus => ['+']
  | .minus => ['-']

/-- Whether a sign is a minus. -/
def ExponentSign.negative : ExponentSign → Bool
  | .minus => true
  | .absent | .plus => false

/-- An exponent as it is written, behind a mark in either case. -/
structure ExponentText where
  upper : Bool
  sign : ExponentSign
  run : DigitRun

/-- A decimal number as it is written, without a letter for a type. -/
structure DecimalText where
  whole : WholeText
  fraction : Option DigitRun
  exponent : Option ExponentText

namespace WholeText

/-- The number that digits spell. -/
def spelled (ds : List (Fin 10)) : Nat := ds.foldl (fun n d => 10 * n + d.val) 0

theorem foldl_digits (acc : Nat) (ds : List (Fin 10)) :
    ds.foldl (fun n d => 10 * n + d.val) acc = acc * 10 ^ ds.length + spelled ds := by
  induction ds generalizing acc with
  | nil => simp [spelled]
  | cons d ds ih =>
    rw [spelled, List.foldl_cons, List.foldl_cons, ih, ih (10 * 0 + d.val), List.length_cons,
      Nat.pow_succ]
    ring

theorem spelled_append (ds es : List (Fin 10)) :
    spelled (ds ++ es) = spelled ds * 10 ^ es.length + spelled es := by
  rw [spelled, List.foldl_append, foldl_digits]
  rfl

end WholeText

namespace ExponentText

/-- The characters of an exponent. -/
def chars (e : ExponentText) : List Char :=
  (if e.upper then 'E' else 'e') :: (e.sign.chars ++ e.run.digits.map WholeText.digit)

/-- The number that an exponent spells. -/
def value (e : ExponentText) : Int :=
  Literal.signed e.sign.negative (WholeText.spelled e.run.digits)

theorem exponent?_chars (e : ExponentText) :
    Literal.exponent? e.chars =
      some (some (e.sign.negative, e.run.digits.map WholeText.digit), []) := by
  have hrun : Literal.digits? (e.run.digits.map WholeText.digit) =
      some (e.run.digits.map WholeText.digit, []) := by
    have hends := WholeText.digits?_append (List.cons_ne_nil e.run.first e.run.rest) (s := []) nofun
    rwa [List.append_nil] at hends
  have hmark : (if e.upper then 'E' else 'e') = 'e' ∨ (if e.upper then 'E' else 'e') = 'E' := by
    cases e.upper
    · exact .inl rfl
    · exact .inr rfl
  unfold chars Literal.exponent?
  dsimp only
  rw [if_pos hmark]
  cases e.sign with
  | absent =>
    dsimp only [ExponentSign.chars, List.nil_append]
    rw [DigitRun.digits, List.map_cons] at hrun ⊢
    split
    · rename_i h
      exact absurd (List.cons.inj h).1 (WholeText.digit_ne (.inl rfl))
    · rename_i h
      exact absurd (List.cons.inj h).1 (WholeText.digit_ne (.inr rfl))
    · exact congrArg _ hrun
  | plus => exact congrArg (Option.map _) hrun
  | minus => exact congrArg (Option.map _) hrun

end ExponentText

namespace DecimalText

/-- The digits behind the point. -/
def places (d : DecimalText) : List (Fin 10) := d.fraction.elim [] DigitRun.digits

/-- The number that the exponent spells. -/
def shift (d : DecimalText) : Int := d.exponent.elim 0 ExponentText.value

/-- The number that is spelled: the digits in front of the point count ones and those behind it
count parts, all of them times the power of ten that the exponent names. -/
def value (d : DecimalText) : ℚ :=
  Binary.withSign d.whole.negative
    ((d.whole.magnitude + WholeText.spelled d.places / 10 ^ d.places.length) * 10 ^ d.shift)

/-- The characters of the fraction, with its point. -/
def fractionChars (d : DecimalText) : List Char :=
  d.fraction.elim [] fun r => '.' :: r.digits.map WholeText.digit

/-- The characters of the exponent, with its mark. -/
def exponentChars (d : DecimalText) : List Char := d.exponent.elim [] ExponentText.chars

/-- The characters of the number. -/
def chars (d : DecimalText) : List Char := d.whole.chars ++ (d.fractionChars ++ d.exponentChars)

/-! ## Taking a number apart -/

/-- The parts of the number as a literal. -/
def literal (d : DecimalText) : Literal where
  negative := d.whole.negative
  whole := d.whole.digits
  fraction := d.fraction.map fun r => r.digits.map WholeText.digit
  exponent := d.exponent.map fun e => (e.sign.negative, e.run.digits.map WholeText.digit)
  type := none

theorem head?_exponentChars (d : DecimalText) :
    ∀ c ∈ d.exponentChars.head?, c = 'e' ∨ c = 'E' := by
  rw [exponentChars]
  cases d.exponent with
  | none => nofun
  | some e =>
    rintro c ⟨⟩
    cases e.upper
    · exact .inl rfl
    · exact .inr rfl

theorem head?_behind (d : DecimalText) :
    ∀ c ∈ (d.fractionChars ++ d.exponentChars).head?, c = '.' ∨ c = 'e' ∨ c = 'E' := by
  rw [fractionChars]
  cases d.fraction with
  | none => exact fun c hc => .inr (d.head?_exponentChars c hc)
  | some r =>
    rintro c ⟨⟩
    exact .inl rfl

theorem isDigit_mark {c : Char} (h : c = '.' ∨ c = 'e' ∨ c = 'E') : Text.isDigit c = false := by
  rcases h with rfl | rfl | rfl <;> decide

theorem fraction?_chars (d : DecimalText) :
    Literal.fraction? (d.fractionChars ++ d.exponentChars) =
      some (d.literal.fraction, d.exponentChars) := by
  have hhead := d.head?_exponentChars
  unfold fractionChars literal
  cases d.fraction with
  | none =>
    change Literal.fraction? d.exponentChars = some (none, d.exponentChars)
    unfold Literal.fraction?
    split
    · rename_i h
      rw [h] at hhead
      exact absurd (hhead '.' rfl) (by decide)
    · rfl
  | some r =>
    have hrun := WholeText.digits?_append (List.cons_ne_nil r.first r.rest)
      fun c hc => isDigit_mark (.inr (hhead c hc))
    exact congrArg (Option.map _) hrun

theorem exponent?_chars (d : DecimalText) :
    Literal.exponent? d.exponentChars = some (d.literal.exponent, []) := by
  unfold exponentChars literal
  cases d.exponent with
  | none => rfl
  | some e => exact e.exponent?_chars

theorem ofChars?_chars (d : DecimalText) : Literal.ofChars? d.chars = some d.literal := by
  have hwhole : Literal.digits? (d.whole.digits ++ (d.fractionChars ++ d.exponentChars)) =
      some (d.whole.digits, d.fractionChars ++ d.exponentChars) :=
    WholeText.digits?_append (List.cons_ne_nil _ _) fun c hc => isDigit_mark (d.head?_behind c hc)
  rw [Literal.ofChars?, chars, WholeText.sign_append]
  dsimp only
  rw [hwhole]
  dsimp only [Option.bind_eq_bind, Option.bind_some]
  rw [fraction?_chars]
  dsimp only [Option.bind_some]
  rw [exponent?_chars]
  rfl

/-! ## The number that is read -/

/-- All digits in a row as one number. -/
def coefficient (d : DecimalText) : Nat :=
  WholeText.spelled (d.whole.first :: d.whole.rest ++ d.places)

/-- The power of ten that the last digit counts. -/
def power (d : DecimalText) : Int := d.shift - d.places.length

theorem value_eq (d : DecimalText) :
    d.value = Binary.withSign d.whole.negative (d.coefficient * 10 ^ d.power) := by
  have hten : (10 : ℚ) ≠ 0 := by norm_num
  have hcoefficient : (d.coefficient : ℚ) =
      d.whole.magnitude * 10 ^ d.places.length + WholeText.spelled d.places := by
    rw [coefficient, WholeText.spelled_append]
    push_cast
    rfl
  rw [value, hcoefficient, power, zpow_sub₀ hten, zpow_natCast]
  congr 1
  field_simp

theorem value_of_nonnegative {d : DecimalText} (h : d.whole.negative = false) :
    d.value = d.coefficient * 10 ^ d.power := by
  rw [value_eq, h]
  rfl

theorem decimal?_literal (d : DecimalText) :
    d.literal.decimal? = some (d.coefficient, d.power) := by
  have hfraction : d.literal.fraction.getD [] = d.places.map WholeText.digit := by
    unfold literal places
    cases d.fraction <;> rfl
  have hdigits : Literal.value? (d.literal.whole ++ d.places.map WholeText.digit) =
      some d.coefficient := by
    have hrow : d.literal.whole ++ d.places.map WholeText.digit =
        (d.whole.first :: d.whole.rest ++ d.places).map WholeText.digit := by
      rw [List.map_append]
      rfl
    rw [hrow]
    exact WholeText.valueFrom_digits 0 _
  have hexponent : (Literal.value? (d.literal.exponent.getD (false, [])).2).map
      (Literal.signed (d.literal.exponent.getD (false, [])).1) = some d.shift := by
    unfold literal shift
    cases d.exponent with
    | none => rfl
    | some e => exact congrArg (Option.map _) (WholeText.valueFrom_digits 0 e.run.digits)
  obtain ⟨exponent, hvalue, hshift⟩ := Option.map_eq_some_iff.mp hexponent
  rw [Literal.decimal?, hfraction]
  dsimp only
  rw [hdigits, hvalue]
  change some (d.coefficient, Literal.signed _ exponent - ((d.places.map _).length : Int)) = _
  rw [hshift, List.length_map, power]

/-- The number is a whole one of 64 bits, written with neither fraction nor exponent. -/
def Plain (d : DecimalText) : Prop :=
  d.fraction = none ∧ d.exponent = none ∧ Literal.fitsLong d.whole.value = true

instance decidablePlain (d : DecimalText) : Decidable d.Plain :=
  decidable_of_iff
    (d.fraction.isNone = true ∧ d.exponent.isNone = true ∧ Literal.fitsLong d.whole.value = true)
    (by simp [Plain])

/-- The 64-bit floating-point number nearest to the number. -/
def nearest (d : DecimalText) : Double := Binary.ofDecimal d.whole.negative d.coefficient d.power

theorem value_of_whole {d : DecimalText} (hf : d.fraction = none) (he : d.exponent = none) :
    d.value = d.whole.value := by
  have hspelled : WholeText.spelled [] = 0 := rfl
  rw [value, shift, places, hf, he, Option.elim_none, Option.elim_none, hspelled, WholeText.value,
    Binary.withSign]
  cases d.whole.negative <;> simp

theorem integer?_literal (d : DecimalText) : d.literal.integer? =
    if d.fraction = none ∧ d.exponent = none then some d.whole.value else none := by
  have hwhole : (Literal.value? d.whole.digits).map (Literal.signed d.whole.negative) =
      some d.whole.value := WholeText.integer?_literal d.whole
  unfold Literal.integer? literal
  cases d.fraction with
  | some r => rfl
  | none =>
    cases d.exponent with
    | some e => rfl
    | none => exact hwhole

/-- The number is read as it is spelled if it is plain, and as the nearest floating-point number
otherwise. -/
theorem parseNumber?_chars (d : DecimalText) : parseNumber? (String.ofList d.chars) =
    some (if d.Plain then .narrowest d.whole.value else .double d.nearest) := by
  have hbinary : d.literal.binary? .double = some d.nearest := by
    rw [Literal.binary?, decimal?_literal]
    rfl
  have htype : d.literal.type = none := rfl
  rw [parseNumber?, String.toList_ofList, ofChars?_chars, Option.bind_some, Literal.number?, htype,
    integer?_literal, hbinary]
  by_cases hwhole : d.fraction = none ∧ d.exponent = none
  · rw [if_pos hwhole]
    by_cases hlong : Literal.fitsLong d.whole.value = true
    · rw [if_pos (show d.Plain from ⟨hwhole.1, hwhole.2, hlong⟩), Number.narrowest]
      dsimp only
      rw [if_pos hlong]
      split <;> rfl
    · have hint : ¬ Literal.fitsInt d.whole.value = true := fun h =>
        hlong (WholeType.fitsLong_of_fits (t := .int) h)
      rw [if_neg (show ¬ d.Plain from fun h => hlong h.2.2)]
      dsimp only
      rw [if_neg hint, if_neg hlong]
      rfl
  · rw [if_neg hwhole, if_neg (show ¬ d.Plain from fun h => hwhole ⟨h.1, h.2.1⟩)]
    rfl

/-! ## Whole numbers among floating-point numbers -/

theorem abs_value (d : DecimalText) : |d.value| = d.coefficient * 10 ^ d.power := by
  have hpos : (0 : ℚ) ≤ d.coefficient * 10 ^ d.power := by positivity
  rw [value_eq, Binary.withSign]
  split
  · rw [abs_neg, abs_of_nonneg hpos]
  · exact abs_of_nonneg hpos

theorem power_le {d : DecimalText} (hd : d.coefficient ≠ 0) (h : |d.value| < 2 ^ 53) :
    d.power ≤ 15 := by
  by_contra hlarge
  have hone : (1 : ℚ) ≤ d.coefficient := by exact_mod_cast Nat.one_le_iff_ne_zero.mpr hd
  have hten : (10 : ℚ) ^ (16 : Int) ≤ 10 ^ d.power := zpow_le_zpow_right₀ (by norm_num) (by omega)
  rw [abs_value] at h
  have hlarge : (10 : ℚ) ^ (16 : Int) ≤ d.coefficient * 10 ^ d.power :=
    hten.trans (le_mul_of_one_le_left (zpow_nonneg (by norm_num) _) hone)
  norm_num at h hlarge
  linarith

/-- The format holds all whole numbers of one significand. -/
theorem significands_lt_infinity :
    2 * BinaryFormat.double.fractions * BinaryFormat.double.unitsPerOne <
      BinaryFormat.double.units BinaryFormat.double.infinity := by decide +kernel

theorem two_mul_fractions : 2 * (BinaryFormat.double.fractions : ℚ) = 2 ^ 53 := by
  have h : 2 * BinaryFormat.double.fractions = 2 ^ 53 := by decide
  exact_mod_cast h

/-- A small whole number is read as it is, in whatever form it is written. -/
theorem toInt?_of_value {d : DecimalText} {i : Int} (h : d.value = i) (hi : |d.value| < 2 ^ 53) :
    d.nearest.toInt? = some i := by
  have hnat : (d.coefficient : ℚ) * 10 ^ d.power = (i.natAbs : ℚ) := by
    rw [← abs_value, h, Nat.cast_natAbs, Int.cast_abs]
  have hsmall : i.natAbs < 2 * BinaryFormat.double.fractions := by
    have : (i.natAbs : ℚ) < 2 ^ 53 := by rwa [← hnat, ← abs_value]
    exact_mod_cast this
  obtain ⟨m, hm⟩ := BinaryFormat.double.exists_whole hsmall
  have hfinite : m < BinaryFormat.double.infinity := by
    rw [← BinaryFormat.double.units_strictMono.lt_iff_lt, hm]
    exact lt_of_le_of_lt (Nat.mul_le_mul_right _ (Nat.le_of_lt hsmall)) significands_lt_infinity
  have hweight := Nat.lt_trans hfinite BinaryFormat.double.infinity_lt_signWeight
  have hread : d.nearest = Binary.ofMagnitude d.whole.negative m := by
    refine Binary.ofDecimal_of_units hfinite (fun hd => ?_) ?_
    · exact le_trans (power_le hd hi) (by decide)
    · rw [hnat, hm, Nat.cast_mul]
  rw [hread, Binary.toInt?_eq_some_iff, Binary.value_ofMagnitude _ hweight, hm, Nat.cast_mul,
    mul_div_cancel_right₀ _ (Binary.unitsPerOne_pos _).ne', ← hnat, ← value_eq]
  refine ⟨?_, h⟩
  rw [Binary.isFinite, Binary.magnitude_ofMagnitude _ hweight]
  exact decide_eq_true hfinite

/-- Numbers above the least fractions have all their significant bits. -/
theorem fractions_le_units {c : Nat} {p : Int} (hc : c ≠ 0) (hp : -300 ≤ p) :
    (BinaryFormat.double.fractions : ℚ) ≤ c * 10 ^ p * BinaryFormat.double.unitsPerOne := by
  have hunits : BinaryFormat.double.fractions * 10 ^ 300 ≤ BinaryFormat.double.unitsPerOne := by
    decide +kernel
  have hunitsq : (BinaryFormat.double.fractions : ℚ) * 10 ^ 300 ≤
      BinaryFormat.double.unitsPerOne := by exact_mod_cast hunits
  have hone : (1 : ℚ) ≤ c := by exact_mod_cast Nat.one_le_iff_ne_zero.mpr hc
  have hten : (10 : ℚ) ^ (-300 : Int) ≤ 10 ^ p := zpow_le_zpow_right₀ (by norm_num) hp
  have hpos := Binary.unitsPerOne_pos BinaryFormat.double
  have hleast : (10 : ℚ) ^ (-300 : Int) ≤ c * 10 ^ p :=
    hten.trans (le_mul_of_one_le_left (zpow_nonneg (by norm_num) _) hone)
  calc (BinaryFormat.double.fractions : ℚ)
      ≤ BinaryFormat.double.unitsPerOne / 10 ^ 300 := (le_div_iff₀ (by positivity)).mpr hunitsq
    _ = 10 ^ (-300 : Int) * BinaryFormat.double.unitsPerOne := by
      rw [zpow_neg, mul_comm, ← div_eq_mul_inv]
      rfl
    _ ≤ c * 10 ^ p * BinaryFormat.double.unitsPerOne := mul_le_mul_of_nonneg_right hleast hpos.le

/-- Reading moves a number by a small part of it. -/
theorem nearest_error {d : DecimalText} (hd : d.coefficient ≠ 0) (hp : -300 ≤ d.power)
    (h : |d.value| < 2 ^ 53) : |d.nearest.value - d.value| ≤ |d.value| / 2 ^ 53 := by
  have hroom : 2 * (BinaryFormat.double.fractions : ℚ) * BinaryFormat.double.unitsPerOne ≤
      BinaryFormat.double.units BinaryFormat.double.infinity := by
    exact_mod_cast Nat.le_of_lt significands_lt_infinity
  have hrange : |d.value| * BinaryFormat.double.unitsPerOne ≤
      BinaryFormat.double.units BinaryFormat.double.infinity := by
    rw [two_mul_fractions] at hroom
    exact (mul_le_mul_of_nonneg_right h.le (Binary.unitsPerOne_pos _).le).trans hroom
  have hexp : d.power ≤ BinaryFormat.double.unitBits := (power_le hd h).trans (by decide)
  rw [abs_value] at hrange
  rw [abs_value, ← two_mul_fractions, value_eq]
  exact Binary.ofDecimal_error hd hexp (fractions_le_units hd hp) hrange

theorem signed_eq (negative : Bool) (n : Nat) :
    (Literal.signed negative n : ℚ) = Binary.withSign negative n := by
  cases negative
  · rfl
  · exact Int.cast_neg _

/-- A fraction with few digits is not read as a whole number. -/
theorem toInt?_of_fraction {d : DecimalText} (hd : d.coefficient < 2 ^ 53) (hp : -300 ≤ d.power)
    (h : |d.value| < 2 ^ 53) (hvalue : ∀ i : Int, d.value ≠ i) (i : Int) :
    d.nearest.toInt? ≠ some i := by
  intro hread
  have hzero : d.coefficient ≠ 0 := by
    intro h0
    refine hvalue 0 ?_
    have habs := d.abs_value
    rw [h0, Nat.cast_zero, zero_mul, abs_eq_zero] at habs
    rw [habs, Int.cast_zero]
  have hneg : d.power < 0 := by
    by_contra hpos
    obtain ⟨k, hk⟩ := Int.eq_ofNat_of_zero_le (Int.not_lt.mp hpos)
    refine hvalue (Literal.signed d.whole.negative (d.coefficient * 10 ^ k)) ?_
    rw [value_eq, hk, signed_eq, Nat.cast_mul, Nat.cast_pow, zpow_natCast]
    rfl
  obtain ⟨k, hk⟩ := Int.exists_eq_neg_ofNat (Int.le_of_lt hneg)
  have hten : (0 : ℚ) < 10 ^ k := by positivity
  have hpower : (10 : ℚ) ^ d.power * 10 ^ k = 1 := by
    rw [hk, zpow_neg, zpow_natCast, inv_mul_cancel₀ hten.ne']
  have hscaled : d.value * 10 ^ k = Literal.signed d.whole.negative d.coefficient := by
    rw [value_eq, signed_eq, Binary.withSign, Binary.withSign]
    split
    · rw [neg_mul, mul_assoc, hpower, mul_one]
    · rw [mul_assoc, hpower, mul_one]
  have herror : |i - d.value| * 10 ^ k < 1 := by
    have hnear := nearest_error hzero hp h
    rw [(Binary.toInt?_eq_some_iff.mp hread).2, abs_value] at hnear
    calc |i - d.value| * 10 ^ k ≤ d.coefficient * 10 ^ d.power / 2 ^ 53 * 10 ^ k :=
          mul_le_mul_of_nonneg_right hnear hten.le
      _ = d.coefficient / 2 ^ 53 := by
        rw [div_mul_eq_mul_div, mul_assoc, hpower, mul_one]
      _ < 1 := (div_lt_one (by positivity)).mpr (by exact_mod_cast hd)
  have hcloser : |i * 10 ^ k - Literal.signed d.whole.negative d.coefficient| < 1 := by
    have hscale : |(i - d.value) * 10 ^ k| < 1 := by
      rw [abs_mul, abs_of_pos hten]
      exact herror
    rw [sub_mul, hscaled] at hscale
    exact_mod_cast hscale
  refine hvalue i (mul_right_cancel₀ hten.ne' ?_)
  rw [hscaled]
  exact_mod_cast (sub_eq_zero.mp (Int.abs_lt_one_iff.mp hcloser)).symm

/-- The number looks like one. -/
theorem isNumericLiteral_chars (d : DecimalText) :
    isNumericLiteral (String.ofList d.chars) = true := by
  rw [isNumericLiteral, String.toList_ofList, ofChars?_chars]
  rfl

end DecimalText

end FacetedSearch
