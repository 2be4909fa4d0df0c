import FacetedSearch.Proofs.Number.Decimal
import FacetedSearch.Proofs.Range.Interval
import FacetedSearch.Proofs.Range.Recognition
import FacetedSearch.Proofs.Range.Typing

/-!
# FacetedSearch.Proofs.Range.Exactness — bounds of whole-number fields, exact or refused

A bound of a field of whole numbers is taken as one whole number (`DecimalText.reading?`), which is
read off the digits of a plain one and off the nearest floating-point number of any other.
`DecimalText.Misread` says that rounding makes a difference.  Bounds that are not misread are kept
exactly or refused (`TermRange.parseTyped_exact`).  Fifteen digits are not enough to be misread
(`DecimalText.not_misread_of_short`), and every misread bound goes wrong
(`TermRange.misread_iff_parseTyped`).
-/

namespace FacetedSearch

/-! ## The bounds of a range that is accepted -/

namespace TermRange

variable {field text : String} {type : SortType} {r : TermRange}

/-- Between brackets, a text spells a range if both its bounds can be read. -/
theorem exists_parseTyped_iff {opening closing : Bracket} {low high : List Char}
    (hsides : sides? text.toList = some (opening.char, low, high, closing.char)) :
    (∃ r, parseTyped field text type = .ok r) ↔
      (∃ b, bound field text type low = .ok b) ∧ ∃ b, bound field text type high = .ok b := by
  simp only [parseTyped_eq_ok_iff hsides]
  constructor
  · rintro ⟨r, -, -, hlow, hhigh, -⟩
    exact ⟨⟨_, hlow⟩, _, hhigh⟩
  · rintro ⟨⟨low, hlow⟩, high, hhigh⟩
    exact ⟨⟨field, text, low, high, opening.curly, closing.curly⟩, inclusive_char opening,
      inclusive_char closing, hlow, hhigh, rfl, rfl⟩

/-! ## Numbers as whole numbers -/

theorem fitsLong_of_integral? {n : Number} {i : Int} (h : integral? n = some i) :
    Literal.fitsLong i = true := by
  cases n with
  | int v =>
    rw [← Option.some.inj h]
    exact WholeType.fitsLong_of_fits (t := .int) (Literal.fitsInt_toInt v)
  | long v =>
    rw [← Option.some.inj h]
    exact Literal.fitsLong_iff.mpr ⟨v.le_toInt, v.toInt_lt⟩
  | float v => exact (Option.filter_eq_some_iff.mp h).2
  | double v => exact (Option.filter_eq_some_iff.mp h).2

/-- A field of whole numbers takes a number that is one of them. -/
theorem encodeAs?_whole (t : WholeType) (n : Number) :
    encodeAs? t.sortType n = ((integral? n).filter t.fits).map fun i => t.term (t.ofInt i) := by
  cases t with
  | int => rfl
  | long =>
    have hfits : (integral? n).filter Literal.fitsLong = integral? n := by
      cases hi : integral? n with
      | none => rfl
      | some i => exact if_pos (fitsLong_of_integral? hi)
    change (integral? n).map _ = ((integral? n).filter Literal.fitsLong).map _
    rw [hfits]
    rfl

end TermRange

/-! ## Written bounds -/

namespace DecimalText

/-- Being rounded to a floating-point number takes the number to a value of the type or away from
one. -/
def Misread (t : WholeType) (d : DecimalText) : Prop :=
  ¬ d.Plain ∧ ∃ i : Int, t.fits i = true ∧ ¬ (d.value = i ↔ d.nearest.toInt? = some i)

/-- The whole number as which the number is taken. -/
def reading? (d : DecimalText) : Option Int :=
  if d.Plain then some d.whole.value else d.nearest.toInt?.filter Literal.fitsLong

theorem reading?_eq_some_iff {t : WholeType} {d : DecimalText} {i : Int} (hi : t.fits i = true) :
    d.reading? = some i ↔ if d.Plain then d.value = i else d.nearest.toInt? = some i := by
  rw [reading?]
  split
  · rename_i hplain
    rw [value_of_whole hplain.1 hplain.2.1, Option.some_inj, Int.cast_inj]
  · rw [Option.filter_eq_some_iff]
    exact and_iff_left (WholeType.fitsLong_of_fits hi)

/-- A misread number is one that is not taken as just what it is. -/
theorem misread_iff {t : WholeType} {d : DecimalText} :
    d.Misread t ↔ ∃ i : Int, t.fits i = true ∧ ¬ (d.value = i ↔ d.reading? = some i) := by
  constructor
  · rintro ⟨hplain, i, hi, h⟩
    refine ⟨i, hi, ?_⟩
    rw [reading?_eq_some_iff hi, if_neg hplain]
    exact h
  · rintro ⟨i, hi, h⟩
    rw [reading?_eq_some_iff hi] at h
    split at h
    · exact absurd Iff.rfl h
    · rename_i hplain
      exact ⟨hplain, i, hi, h⟩

/-- A small number with few digits is not misread; any fifteen digits are few enough. -/
theorem not_misread_of_short {d : DecimalText} (t : WholeType) (hd : d.coefficient < 2 ^ 53)
    (hp : -300 ≤ d.power) (h : |d.value| < 2 ^ 53) : ¬ d.Misread t := by
  rintro ⟨-, i, -, hi⟩
  refine hi ?_
  by_cases hwhole : ∃ k : Int, d.value = k
  · obtain ⟨k, hk⟩ := hwhole
    rw [toInt?_of_value hk h, hk, Option.some_inj, Int.cast_inj]
  · rw [not_exists] at hwhole
    exact iff_of_false (hwhole i) (toInt?_of_fraction hd hp h hwhole i)

end DecimalText

namespace TermRange

variable {field text : String} {t : WholeType}

theorem integral?_chars (d : DecimalText) :
    (parseNumber? (String.ofList d.chars)).bind integral? = d.reading? := by
  rw [DecimalText.parseNumber?_chars, Option.bind_some, DecimalText.reading?]
  split
  · rename_i hplain
    exact integral?_narrowest hplain.2.2
  · rfl

/-- A bound of a whole-number field is the term of the number as which it is taken, if that is a
value of the type. -/
theorem bound_decimal (field text : String) (t : WholeType) (d : DecimalText) :
    bound field text t.sortType d.chars =
      match d.reading?.filter t.fits with
      | some i => .ok (some (t.term (t.ofInt i)))
      | none => .error (.rangeBound (String.ofList d.chars) t.sortType field text) := by
  rw [bound, if_neg (not_open_of_isNumericLiteral d.isNumericLiteral_chars), ← integral?_chars,
    DecimalText.parseNumber?_chars]
  dsimp only [Option.bind_some]
  rw [encodeAs?_whole]
  cases (integral? _).filter t.fits <;> rfl

end TermRange

/-- A bound as it is written: left open in one of two ways, or a decimal number. -/
inductive DecimalBound
  | null
  | star
  | decimal (d : DecimalText)

namespace DecimalBound

/-- The characters of a bound. -/
def chars : DecimalBound → List Char
  | .null => ['N', 'U', 'L', 'L']
  | .star => ['*']
  | .decimal d => d.chars

/-- The number that a bound spells, if it spells one. -/
def value? : DecimalBound → Option ℚ
  | .null | .star => none
  | .decimal d => some d.value

/-- The number that a bound spells, if it spells one, is a value of the type. -/
def Fits (b : DecimalBound) (t : WholeType) : Prop :=
  ∀ q, b.value? = some q → ∃ i : Int, t.fits i = true ∧ q = i

/-- The bound spells a number that is not taken as what it is. -/
def Misread (t : WholeType) : DecimalBound → Prop
  | .null | .star => False
  | .decimal d => d.Misread t

/-- What a range keeps of a bound: nothing of an open one, and of a number the term of just this
value of the type. -/
inductive Encodes (t : WholeType) : DecimalBound → Option String → Prop
  | null : Encodes t .null none
  | star : Encodes t .star none
  | decimal (d : DecimalText) (i : Int) (hfits : t.fits i = true) (hvalue : d.value = i) :
    Encodes t (.decimal d) (some (t.term (t.ofInt i)))

theorem fits_of_value {b : DecimalBound} {t : WholeType} {i : Int} (h : b.value? = some (i : ℚ))
    (hi : t.fits i = true) : b.Fits t :=
  fun _ hq => ⟨i, hi, Option.some.inj (hq.symm.trans h)⟩

theorem Encodes.eq_term {b : DecimalBound} {t : WholeType} {stored : Option String} {i : Int}
    (h : b.Encodes t stored) (hi : b.value? = some (i : ℚ)) :
    stored = some (t.term (t.ofInt i)) := by
  cases h with
  | null | star => cases hi
  | decimal d j hfits hvalue =>
    have hij : (j : ℚ) = i := hvalue.symm.trans (Option.some.inj hi)
    rw [Int.cast_inj.mp hij]

theorem exists_encodes_iff {b : DecimalBound} {t : WholeType} :
    (∃ stored, b.Encodes t stored) ↔ b.Fits t := by
  constructor
  · rintro ⟨_, h⟩ q hq
    cases h with
    | null | star => cases hq
    | decimal d i hfits hvalue => exact ⟨i, hfits, (Option.some.inj hq).symm.trans hvalue⟩
  · intro h
    cases b with
    | null => exact ⟨_, .null⟩
    | star => exact ⟨_, .star⟩
    | decimal d =>
      obtain ⟨i, hfits, hvalue⟩ := h d.value rfl
      exact ⟨_, .decimal d i hfits hvalue⟩

end DecimalBound

namespace TermRange

variable {field text : String} {t : WholeType}

theorem bound_eq_ok_iff {b : DecimalBound} {stored : Option String} (h : ¬ b.Misread t) :
    bound field text t.sortType b.chars = .ok stored ↔ b.Encodes t stored := by
  cases b with
  | null =>
    constructor
    · rintro ⟨⟩
      exact .null
    · rintro ⟨⟩
      rfl
  | star =>
    constructor
    · rintro ⟨⟩
      exact .star
    · rintro ⟨⟩
      rfl
  | decimal d =>
    -- no value of the type tells what is spelled from what is taken
    have hreading (i : Int) (hi : t.fits i = true) : d.value = i ↔ d.reading? = some i := by
      by_contra hne
      exact h (DecimalText.misread_iff.mpr ⟨i, hi, hne⟩)
    have hbound := bound_decimal field text t d
    rw [DecimalBound.chars, hbound]
    constructor
    · intro hstored
      split at hstored
      · rename_i i hi
        obtain ⟨hread, hfits⟩ := Option.filter_eq_some_iff.mp hi
        cases hstored
        exact .decimal d i hfits ((hreading i hfits).mpr hread)
      · cases hstored
    · rintro ⟨⟩
      rename_i i hfits hvalue
      rw [(hreading i hfits).mp hvalue, Option.filter_some, if_pos hfits]

/-- A range of a field of whole numbers, written between any two brackets and any two bounds that
each are left open or spell a decimal number which is not misread.  The text is accepted if the
numbers are whole and values of the declared type, and the range then keeps the terms of just these
values; it is refused as badly configured otherwise. -/
theorem parseTyped_exact (t : WholeType) (field text : String) (opening closing : Bracket)
    (low high : DecimalBound)
    (hsides : sides? text.toList = some (opening.char, low.chars, high.chars, closing.char))
    (hlow : ¬ low.Misread t) (hhigh : ¬ high.Misread t) :
    let parsed := parseTyped field text t.sortType
    ((∃ r, parsed = .ok r) ↔ low.Fits t ∧ high.Fits t) ∧
      (∀ e, parsed = .error e → e.kind = .configuration) ∧
      ∀ r, parsed = .ok r → low.Encodes t r.low ∧ high.Encodes t r.high := by
  intro parsed
  refine ⟨?_, fun e he => kind_of_parseTyped he, fun r hr => ?_⟩
  · rw [exists_parseTyped_iff hsides]
    simp only [bound_eq_ok_iff hlow, bound_eq_ok_iff hhigh, DecimalBound.exists_encodes_iff]
  · obtain ⟨-, -, hl, hh, -⟩ := (parseTyped_eq_ok_iff hsides).mp hr
    exact ⟨(bound_eq_ok_iff hlow).mp hl, (bound_eq_ok_iff hhigh).mp hh⟩

/-- The least number of 64 bits. -/
def leastWritten : DecimalText where
  whole := ⟨true, 9, [2, 2, 3, 3, 7, 2, 0, 3, 6, 8, 5, 4, 7, 7, 5, 8, 0, 8]⟩
  fraction := none
  exponent := none

/-- Fifteen hundred, with a fraction and an exponent. -/
def fifteenHundred : DecimalText where
  whole := ⟨false, 1, []⟩
  fraction := some ⟨5, []⟩
  exponent := some ⟨false, .plus, ⟨3, []⟩⟩

/-- The range between the least number of 64 bits and fifteen hundred is kept exactly. -/
theorem parseTyped_fromLeast :
    let text := "\x7b-9223372036854775808 TO 1.5e+3]"
    sides? text.toList = some ('\x7b', leastWritten.chars, fifteenHundred.chars, ']') ∧
      ¬ leastWritten.Misread .long ∧ ¬ fifteenHundred.Misread .long ∧
      ∃ r, parseTyped "count_Range" text .long = .ok r ∧
        r.low = some (Number.long (Int64.ofInt (-9223372036854775808))).encode ∧
        r.high = some (Number.long (Int64.ofInt 1500)).encode := by
  intro text
  have hsides : sides? text.toList =
      some ('\x7b', leastWritten.chars, fifteenHundred.chars, ']') := by decide +kernel
  have hlowvalue : leastWritten.value = (-9223372036854775808 : Int) := by
    have hwhole : leastWritten.whole.value = -9223372036854775808 := by decide +kernel
    rw [DecimalText.value_of_whole rfl rfl, hwhole]
  have hhighvalue : fifteenHundred.value = (1500 : Int) := by
    have hcoefficient : fifteenHundred.coefficient = 15 := by decide
    have hpower : fifteenHundred.power = 2 := by decide
    rw [DecimalText.value_of_nonnegative rfl, hcoefficient, hpower]
    norm_num
  have hlow : ¬ leastWritten.Misread .long := fun h => h.1 ⟨rfl, rfl, by decide⟩
  have hhigh : ¬ fifteenHundred.Misread .long := by
    refine DecimalText.not_misread_of_short .long (by decide) (by decide) ?_
    rw [hhighvalue]
    norm_num
  obtain ⟨hok, -, hkept⟩ := parseTyped_exact .long "count_Range" text ⟨true, false⟩ ⟨false, true⟩
    (.decimal leastWritten) (.decimal fifteenHundred) hsides hlow hhigh
  obtain ⟨r, hr⟩ := hok.mpr ⟨DecimalBound.fits_of_value (congrArg some hlowvalue) (by decide),
    DecimalBound.fits_of_value (congrArg some hhighvalue) (by decide)⟩
  obtain ⟨hl, hh⟩ := hkept r hr
  exact ⟨hsides, hlow, hhigh, r, hr, hl.eq_term (congrArg some hlowvalue),
    hh.eq_term (congrArg some hhighvalue)⟩

/-- A value is the only one with its term. -/
theorem term_ofInt_inj {i j : Int} (hi : t.fits i = true) (hj : t.fits j = true)
    (h : t.term (t.ofInt i) = t.term (t.ofInt j)) : i = j := by
  have hcmp := WholeType.cmp_term (t.ofInt i) (t.ofInt j)
  rw [h, SortKey.cmp_self, WholeType.toInt_ofInt hi, WholeType.toInt_ofInt hj] at hcmp
  exact Int.compare_eq_eq.mp hcmp.symm

/-- The only bounds that go wrong are the misread ones, and all of them do: opposite an open side,
there is a value of the type for which being spelled and being kept come apart. -/
theorem misread_iff_parseTyped {d : DecimalText} {opening closing : Bracket}
    (hsides : sides? text.toList =
      some (opening.char, d.chars, DecimalBound.star.chars, closing.char)) :
    d.Misread t ↔ ∃ i : Int, t.fits i = true ∧ ¬ (d.value = i ↔
      ∃ r, parseTyped field text t.sortType = .ok r ∧ r.low = some (t.term (t.ofInt i))) := by
  have hkept (i : Int) (hi : t.fits i = true) : d.reading? = some i ↔
      ∃ r, parseTyped field text t.sortType = .ok r ∧ r.low = some (t.term (t.ofInt i)) := by
    have hbound := bound_decimal field text t d
    constructor
    · intro hread
      rw [hread, Option.filter_some, if_pos hi] at hbound
      exact ⟨⟨field, text, some (t.term (t.ofInt i)), none, opening.curly, closing.curly⟩,
        (parseTyped_eq_ok_iff hsides).mpr
          ⟨inclusive_char opening, inclusive_char closing, hbound, rfl, rfl, rfl⟩, rfl⟩
    · rintro ⟨r, hr, hlow⟩
      have hstored := ((parseTyped_eq_ok_iff hsides).mp hr).2.2.1
      rw [hbound, hlow] at hstored
      split at hstored
      · rename_i j hj
        obtain ⟨hread, hfits⟩ := Option.filter_eq_some_iff.mp hj
        injection hstored with hterm
        rw [hread, term_ofInt_inj hfits hi (Option.some.inj hterm)]
      · cases hstored
  rw [DecimalText.misread_iff]
  refine exists_congr fun i => and_congr_right fun hi => ?_
  rw [hkept i hi]

/-- One less than the least number of 64 bits. -/
def belowLeast : DecimalText where
  whole := ⟨true, 9, [2, 2, 3, 3, 7, 2, 0, 3, 6, 8, 5, 4, 7, 7, 5, 8, 0, 9]⟩
  fraction := none
  exponent := none

/-- A little less than one. -/
def almostOne : DecimalText where
  whole := ⟨false, 0, []⟩
  fraction := some ⟨9, [9, 9, 9, 9, 9, 9, 9, 9, 9, 9, 9, 9, 9, 9, 9, 9, 9, 9, 9]⟩
  exponent := none

/-- The greatest number of 64 bits, with a fraction of zero. -/
def greatestWritten : DecimalText where
  whole := ⟨false, 9, [2, 2, 3, 3, 7, 2, 0, 3, 6, 8, 5, 4, 7, 7, 5, 8, 0, 7]⟩
  fraction := some ⟨0, []⟩
  exponent := none

/-- Bounds that are misread: a number below all of 64 bits is taken for the least of them, a
fraction for one, and the greatest number of 64 bits is refused. -/
theorem rounded_bounds :
    let below := "[-9223372036854775809 TO NULL]"
    let fraction := "[0.99999999999999999999 TO NULL]"
    let greatest := "[9223372036854775807.0 TO NULL]"
    (sides? below.toList = some ('[', belowLeast.chars, DecimalBound.null.chars, ']') ∧
      belowLeast.value = (-9223372036854775809 : Int) ∧
      WholeType.fits .long (-9223372036854775809) = false ∧
      ∃ r, parseTyped "count_Range" below .long = .ok r ∧
        r.low = some (Number.long (Int64.ofInt (-9223372036854775808))).encode) ∧
    (sides? fraction.toList = some ('[', almostOne.chars, DecimalBound.null.chars, ']') ∧
      (∀ i : Int, almostOne.value ≠ i) ∧
      ∃ r, parseTyped "count_Range" fraction .int = .ok r ∧
        r.low = some (Number.int (Int32.ofInt 1)).encode) ∧
    (sides? greatest.toList = some ('[', greatestWritten.chars, DecimalBound.null.chars, ']') ∧
      greatestWritten.value = (9223372036854775807 : Int) ∧
      WholeType.fits .long 9223372036854775807 = true ∧
      ∃ e, parseTyped "count_Range" greatest .long = .error e) := by
  intro below fraction greatest
  have hbelow : belowLeast.value = (-9223372036854775809 : Int) := by
    have hwhole : belowLeast.whole.value = -9223372036854775809 := by decide +kernel
    rw [DecimalText.value_of_whole rfl rfl, hwhole]
  have hfraction (i : Int) : almostOne.value ≠ i := by
    intro hi
    have hcoefficient : almostOne.coefficient = 99999999999999999999 := by decide +kernel
    have hpower : almostOne.power = -20 := by decide
    rw [DecimalText.value_of_nonnegative rfl, hcoefficient, hpower] at hi
    have hpos : (0 : ℚ) < i := by
      rw [← hi]
      norm_num
    have hone : (i : ℚ) < 1 := by
      rw [← hi]
      norm_num
    have hpos : 0 < i := by exact_mod_cast hpos
    have hone : i < 1 := by exact_mod_cast hone
    omega
  have hgreatest : greatestWritten.value = (9223372036854775807 : Int) := by
    have hcoefficient : greatestWritten.coefficient = 92233720368547758070 := by decide +kernel
    have hpower : greatestWritten.power = -1 := by decide
    rw [DecimalText.value_of_nonnegative rfl, hcoefficient, hpower]
    norm_num
  refine ⟨⟨by decide +kernel, hbelow, by decide, ⟨"count_Range", below, some _, none, false, false⟩,
      ?_, rfl⟩,
    ⟨by decide +kernel, hfraction, ⟨"count_Range", fraction, some _, none, false, false⟩, ?_, rfl⟩,
    ⟨by decide +kernel, hgreatest, by decide,
      .rangeBound "9223372036854775807.0" .long "count_Range" greatest, ?_⟩⟩
  all_goals decide +kernel

end TermRange

end FacetedSearch
