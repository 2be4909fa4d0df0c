import FacetedSearch.Proofs.Number.RoundTrip
import FacetedSearch.Number.Literal

/-!
# FacetedSearch.Proofs.Number.Readable — which literals have a number

A text may look like a number and yet spell none: its digits are of another script, or its type
letter asks for a whole number of 64 bits and it has a fraction or an exponent or is too large.
`Literal.Readable` says that nothing of this is so, and then there is a number
(`Literal.number?_isSome_iff`).  No term looks like a number (`not_isNumericLiteral_of_decode`).
-/

namespace FacetedSearch

namespace Literal

variable {l : Literal}

/-- One of the digits 0 to 9. -/
def Arabic (c : Char) : Prop := '0'.toNat ≤ c.toNat ∧ c.toNat ≤ '9'.toNat

/-- All digits of the literal. -/
def allDigits (l : Literal) : List Char :=
  l.whole ++ l.fraction.getD [] ++ (l.exponent.getD (false, [])).2

/-- Nothing keeps the literal from having a number. -/
structure Readable (l : Literal) : Prop where
  digits : ∀ c ∈ l.allDigits, Arabic c
  /-- What is marked as a whole number of 64 bits is one. -/
  long : l.type = some 'L' → ∃ i, l.integer? = some i ∧ fitsLong i = true

/-! ## Values of digits -/

theorem valueFrom_isSome_iff (acc : Nat) {s : List Char} :
    (valueFrom acc s).isSome = true ↔ ∀ c ∈ s, Arabic c := by
  induction s generalizing acc with
  | nil => simp [valueFrom]
  | cons c s ih =>
    rw [valueFrom, List.forall_mem_cons]
    split
    · rename_i hc
      rw [ih]
      exact (and_iff_right hc).symm
    · rename_i hc
      exact iff_of_false nofun fun h => hc h.1

theorem decimal?_isSome_iff : l.decimal?.isSome = true ↔ ∀ c ∈ l.allDigits, Arabic c := by
  have hdigits : l.decimal?.isSome = true ↔ (value? (l.whole ++ l.fraction.getD [])).isSome = true ∧
      (value? (l.exponent.getD (false, [])).2).isSome = true := by
    rw [decimal?]
    dsimp only
    cases value? (l.whole ++ l.fraction.getD []) with
    | none => simp
    | some n => cases value? (l.exponent.getD (false, [])).2 <;> simp
  rw [hdigits, value?, value?, valueFrom_isSome_iff, valueFrom_isSome_iff, allDigits]
  exact List.forall_mem_append.symm

/-- A whole number is a decimal number without places. -/
theorem decimal?_isSome_of_integer? {i : Int} (h : l.integer? = some i) :
    l.decimal?.isSome = true := by
  rw [integer?] at h
  split at h
  · cases h
  · rename_i hnone
    obtain ⟨n, hn, -⟩ := Option.map_eq_some_iff.mp h
    rw [Bool.or_eq_true, not_or, Option.not_isSome_iff_eq_none, Option.not_isSome_iff_eq_none]
      at hnone
    have hwhole : ∀ c ∈ l.whole, Arabic c := by
      rw [← valueFrom_isSome_iff 0]
      exact Option.isSome_of_eq_some hn
    rw [decimal?_isSome_iff, allDigits, hnone.1, hnone.2]
    simpa using hwhole

/-! ## Numbers of literals -/

theorem number?_isSome_of_ne (h : l.type ≠ some 'L') :
    l.number?.isSome = true ↔ l.decimal?.isSome = true := by
  have hbinary (f : BinaryFormat) : (l.binary? f).isSome = true ↔ l.decimal?.isSome = true := by
    rw [binary?, Option.isSome_map]
  rw [number?]
  split
  · contradiction
  · rw [Option.isSome_map, hbinary]
  · rw [Option.isSome_map, hbinary]
  · split
    · rename_i i hi
      have hsome := decimal?_isSome_of_integer? hi
      refine iff_of_true ?_ hsome
      split
      · rfl
      · split
        · rfl
        · rw [Option.isSome_map, hbinary]
          exact hsome
    · rw [Option.isSome_map, hbinary]

/-- A literal has a number exactly if it is readable. -/
theorem number?_isSome_iff : l.number?.isSome = true ↔ l.Readable := by
  by_cases hlong : l.type = some 'L'
  · have hnumber : l.number?.isSome = true ↔ ∃ i, l.integer? = some i ∧ fitsLong i = true := by
      have hshape : l.number? = l.long?.map .long := by
        rw [number?, hlong]
        rfl
      rw [hshape, Option.isSome_map, long?, Option.isSome_map, Option.isSome_iff_exists]
      simp only [Option.filter_eq_some_iff]
    rw [hnumber]
    constructor
    · rintro ⟨i, hi, hfits⟩
      exact ⟨decimal?_isSome_iff.mp (decimal?_isSome_of_integer? hi), fun _ => ⟨i, hi, hfits⟩⟩
    · exact fun h => h.long hlong
  · rw [number?_isSome_of_ne hlong, decimal?_isSome_iff]
    constructor
    · exact fun h => ⟨h, fun htype => absurd htype hlong⟩
    · exact fun h => h.digits

/-! ## Texts -/

/-- A literal begins with a minus or a digit. -/
theorem head_of_ofChars? {c : Char} {s : List Char} (h : ofChars? (c :: s) = some l) :
    c = '-' ∨ Text.isDigit c = true := by
  by_cases hminus : c = '-'
  · exact .inl hminus
  · refine .inr ?_
    have hsign : sign (c :: s) = (false, c :: s) := by
      rw [sign]
      intro rest heq
      exact hminus (List.cons.inj heq).1
    rw [ofChars?, hsign] at h
    obtain ⟨run, hrun, -⟩ := Option.bind_eq_some_iff.mp h
    by_cases hc : Text.isDigit c = true
    · exact hc
    · rw [digits?, List.takeWhile_cons_of_neg hc] at hrun
      cases hrun

end Literal

/-- What is read as a term begins with the tag of a type. -/
theorem Sortable.head?_of_decode {text : String} {n : Number} (h : decode text = .ok n) :
    ∃ t : NumberType, text.toList.head? = some t.tag := by
  rw [decode] at h
  split at h
  · exact ⟨.int, ‹_›⟩
  · exact ⟨.long, ‹_›⟩
  · exact ⟨.float, ‹_›⟩
  · exact ⟨.double, ‹_›⟩
  · cases h

/-- No term looks like a number. -/
theorem not_isNumericLiteral_of_decode {text : String} {n : Number}
    (h : Sortable.decode text = .ok n) : isNumericLiteral text = false := by
  have htag : ∀ t : NumberType, ¬ (t.tag = '-' ∨ Text.isDigit t.tag = true) := by
    intro t
    cases t <;> decide
  obtain ⟨t, ht⟩ := Sortable.head?_of_decode h
  obtain ⟨s, hs⟩ := List.head?_eq_some_iff.mp ht
  rw [isNumericLiteral, hs]
  cases hl : Literal.ofChars? (t.tag :: s) with
  | none => rfl
  | some l => exact absurd (Literal.head_of_ofChars? hl) (htag t)

/-- A text that looks like a number has one. -/
def ReadableText (text : String) : Prop :=
  ∀ l, Literal.ofChars? text.toList = some l → l.Readable

theorem parseNumber?_isSome_iff {text : String} (h : isNumericLiteral text = true) :
    (parseNumber? text).isSome = true ↔ ReadableText text := by
  obtain ⟨l, hl⟩ := Option.isSome_iff_exists.mp h
  rw [parseNumber?, hl, Option.bind_some, Literal.number?_isSome_iff, ReadableText, hl]
  constructor
  · rintro hread _ ⟨⟩
    exact hread
  · exact fun hread => hread l rfl

end FacetedSearch
