import FacetedSearch.Number.Literal
import FacetedSearch.Proofs.Number.Order
import FacetedSearch.SortType
import Mathlib.Data.List.TakeWhile

/-!
# FacetedSearch.Proofs.Number.Whole — whole numbers, written and typed

`WholeText` is a whole number as it is written, with a minus or without and with any leading zeros.
Reading it gives the number it spells, in the narrower type that holds it
(`parseNumber?_chars`).  `WholeType` is one of the two types of whole numbers; the terms of its
values stand in numeric order (`WholeType.cmp_term`).
-/

namespace FacetedSearch

/-! ## Written numbers -/

/-- A whole number as it is written. -/
structure WholeText where
  negative : Bool
  /-- The digit in front, which may be a zero. -/
  first : Fin 10
  rest : List (Fin 10)

namespace WholeText

/-- The character of a digit. -/
def digit (d : Fin 10) : Char := Char.ofNat (48 + d)

/-- The characters of the digits. -/
def digits (w : WholeText) : List Char := (w.first :: w.rest).map digit

/-- The characters of the number. -/
def chars (w : WholeText) : List Char := if w.negative then '-' :: w.digits else w.digits

/-- The number without its sign. -/
def magnitude (w : WholeText) : Nat := (w.first :: w.rest).foldl (fun n d => 10 * n + d.val) 0

/-- The number that is spelled. -/
def value (w : WholeText) : Int := if w.negative then -(w.magnitude : Int) else w.magnitude

theorem toNat_digit (d : Fin 10) : (digit d).toNat = 48 + d := by
  revert d
  decide

theorem mem_chars {w : WholeText} {c : Char} (h : c ∈ w.chars) : c = '-' ∨ ∃ d, digit d = c := by
  have hdigits (h : c ∈ w.digits) : ∃ d, digit d = c := by
    obtain ⟨d, -, hd⟩ := List.mem_map.mp h
    exact ⟨d, hd⟩
  rw [chars] at h
  split at h
  · exact (List.mem_cons.mp h).imp_right hdigits
  · exact .inr (hdigits h)

theorem digit_ascii (d : Fin 10) : '0'.toNat ≤ (digit d).toNat ∧ (digit d).toNat ≤ '9'.toNat := by
  rw [toNat_digit]
  exact ⟨Nat.le_add_right 48 d, Nat.add_le_add_left (Nat.le_of_lt_succ d.isLt) 48⟩

theorem isDigit_digit (d : Fin 10) : Text.isDigit (digit d) = true :=
  Text.isDigit_of_ascii (digit_ascii d).1 (digit_ascii d).2

theorem valueFrom_digits (acc : Nat) (ds : List (Fin 10)) :
    Literal.valueFrom acc (ds.map digit) = some (ds.foldl (fun n d => 10 * n + d.val) acc) := by
  induction ds generalizing acc with
  | nil => rfl
  | cons d ds ih =>
    have hval : (digit d).toNat - '0'.toNat = d := by
      rw [toNat_digit]
      exact Nat.add_sub_cancel_left 48 d.val
    rw [List.map_cons, Literal.valueFrom, if_pos (digit_ascii d), hval, ih]
    rfl

/-- A run of digits ends where no digit follows. -/
theorem digits?_append {ds : List (Fin 10)} (hds : ds ≠ []) {s : List Char}
    (hs : ∀ c ∈ s.head?, Text.isDigit c = false) :
    Literal.digits? (ds.map digit ++ s) = some (ds.map digit, s) := by
  have hall : ∀ c ∈ ds.map digit, Text.isDigit c = true := by
    intro c hc
    obtain ⟨d, -, rfl⟩ := List.mem_map.mp hc
    exact isDigit_digit d
  have htake : s.takeWhile Text.isDigit = [] ∧ s.dropWhile Text.isDigit = s := by
    cases s with
    | nil => exact ⟨rfl, rfl⟩
    | cons c s =>
      have hc : ¬ Text.isDigit c = true := by simp [hs c rfl]
      exact ⟨List.takeWhile_cons_of_neg hc, List.dropWhile_cons_of_neg hc⟩
  rw [Literal.digits?, List.takeWhile_append_of_pos hall, List.dropWhile_append_of_pos hall,
    htake.1, htake.2, List.append_nil]
  cases ds with
  | nil => exact absurd rfl hds
  | cons d ds => rfl

theorem digit_ne {d : Fin 10} {c : Char} (h : c = '-' ∨ c = '+') : digit d ≠ c := by
  have hall : ∀ d, digit d ≠ '-' ∧ digit d ≠ '+' := by decide
  rcases h with rfl | rfl
  · exact (hall d).1
  · exact (hall d).2

theorem sign_append (w : WholeText) (s : List Char) :
    Literal.sign (w.chars ++ s) = (w.negative, w.digits ++ s) := by
  rw [chars]
  cases w.negative with
  | true => rfl
  | false =>
    rw [if_neg (by decide), digits, List.map_cons, List.cons_append, Literal.sign]
    intro rest h
    exact digit_ne (.inl rfl) (List.cons.inj h).1

theorem sign_chars (w : WholeText) : Literal.sign w.chars = (w.negative, w.digits) := by
  have hsign := w.sign_append []
  rwa [List.append_nil, List.append_nil] at hsign

theorem digits?_digits (w : WholeText) : Literal.digits? w.digits = some (w.digits, []) := by
  have hdigits := digits?_append (List.cons_ne_nil w.first w.rest) (s := []) nofun
  rwa [List.append_nil] at hdigits

/-- The parts of the number as a literal: there is nothing but a sign and digits. -/
def literal (w : WholeText) : Literal where
  negative := w.negative
  whole := w.digits
  fraction := none
  exponent := none
  type := none

theorem ofChars?_chars (w : WholeText) : Literal.ofChars? w.chars = some w.literal := by
  rw [Literal.ofChars?, sign_chars]
  dsimp only
  rw [digits?_digits]
  rfl

theorem integer?_literal (w : WholeText) : w.literal.integer? = some w.value := by
  have hdigits : Literal.value? w.digits = some w.magnitude := valueFrom_digits 0 _
  change (Literal.value? w.digits).map (Literal.signed w.negative) = _
  rw [hdigits]
  rfl

end WholeText

/-- A whole number of the narrower type that holds it. -/
def Number.narrowest (i : Int) : Number :=
  if Literal.fitsInt i then .int (Int32.ofInt i) else .long (Int64.ofInt i)

theorem parseNumber?_chars (w : WholeText) (h : Literal.fitsLong w.value = true) :
    parseNumber? (String.ofList w.chars) = some (Number.narrowest w.value) := by
  rw [parseNumber?, String.toList_ofList, WholeText.ofChars?_chars, Option.bind_some,
    Literal.number?, WholeText.integer?_literal, Number.narrowest]
  dsimp only [WholeText.literal]
  rw [if_pos h]
  split <;> rfl

/-! ## Typed numbers -/

/-- The types of whole numbers. -/
inductive WholeType
  | int
  | long

namespace WholeType

/-- The values of a type. -/
def Carrier : WholeType → Type
  | .int => Int32
  | .long => Int64

/-- The sort type of a field that holds such numbers. -/
def sortType : WholeType → SortType
  | .int => .int
  | .long => .long

/-- Whether a whole number is a value of the type. -/
def fits : WholeType → Int → Bool
  | .int => Literal.fitsInt
  | .long => Literal.fitsLong

/-- The whole number that a value is. -/
def toInt : (t : WholeType) → t.Carrier → Int
  | .int => Int32.toInt
  | .long => Int64.toInt

/-- The value that a whole number is, if it fits. -/
def ofInt : (t : WholeType) → Int → t.Carrier
  | .int => Int32.ofInt
  | .long => Int64.ofInt

/-- The term of a value. -/
def term : (t : WholeType) → t.Carrier → String
  | .int => fun v => (Number.int v).encode
  | .long => fun v => (Number.long v).encode

theorem fitsLong_of_fits {t : WholeType} {i : Int} (h : t.fits i = true) :
    Literal.fitsLong i = true := by
  cases t with
  | int =>
    have hint := Literal.fitsInt_iff.mp h
    apply Literal.fitsLong_iff.mpr
    omega
  | long => exact h

theorem toInt_ofInt {t : WholeType} {i : Int} (h : t.fits i = true) : t.toInt (t.ofInt i) = i := by
  cases t with
  | int =>
    obtain ⟨hlow, hhigh⟩ := Literal.fitsInt_iff.mp h
    exact Int32.toInt_ofInt_of_le hlow hhigh
  | long =>
    obtain ⟨hlow, hhigh⟩ := Literal.fitsLong_iff.mp h
    exact Int64.toInt_ofInt_of_le hlow hhigh

/-- A whole number of 64 bits is kept in its narrowest type as what it is. -/
theorem narrowest_cases {i : Int} (h : Literal.fitsLong i = true) :
    Number.narrowest i = .int (Int32.ofInt i) ∧ (Int32.ofInt i).toInt = i ∨
      Number.narrowest i = .long (Int64.ofInt i) ∧ (Int64.ofInt i).toInt = i := by
  unfold Number.narrowest
  split
  · rename_i hint
    exact .inl ⟨rfl, toInt_ofInt (t := .int) hint⟩
  · exact .inr ⟨rfl, toInt_ofInt (t := .long) h⟩

/-- Terms of one type of whole numbers stand in numeric order. -/
theorem cmp_term {t : WholeType} (a b : t.Carrier) :
    SortKey.cmp (t.term a) (t.term b) = compare (t.toInt a) (t.toInt b) := by
  cases t with
  | int => exact Number.cmp_encode_int a b
  | long => exact Number.cmp_encode_long a b

end WholeType

end FacetedSearch
