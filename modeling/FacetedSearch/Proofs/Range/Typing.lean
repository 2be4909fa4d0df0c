import FacetedSearch.Proofs.Number.Widening
import FacetedSearch.Range.Parser

/-!
# FacetedSearch.Proofs.Range.Typing — bounds that are written with the type of their field

A text is parsed in two ways: with its numeric bounds encoded for the type of a field, or for the
types they are written with.  The two give one range where each numeric bound is written with the
field's type (`TermRange.parseTyped_of_typedAlike`), since encoding a number for its own type does
not change it (`encodeAs?_of_takes`).
-/

namespace FacetedSearch

/-- Whether a field of this type takes numbers of a type as they are written. -/
def SortType.takes (type : SortType) (written : NumberType) : Bool :=
  match type with
  | .int => decide (written = .int)
  | .long => decide (written = .long)
  | .float => decide (written = .float)
  | .double => decide (written = .double)
  | _ => true

namespace Literal

theorem fitsInt_toInt (v : Int32) : fitsInt v.toInt = true := by
  have hlow := v.le_toInt
  have hhigh := v.toInt_lt
  apply fitsInt_iff.mpr
  omega

/-- A text never spells a pattern that stands for no number. -/
theorem isNaN_of_binary? {f : BinaryFormat} {l : Literal} {x : Binary f}
    (h : l.binary? f = some x) : x.isNaN = false := by
  obtain ⟨⟨digits, exponent⟩, -, rfl⟩ := Option.map_eq_some_iff.mp h
  exact Binary.isNaN_ofDecimal _ _ _

theorem isNaN_of_number? {l : Literal} {x : Single} (h : l.number? = some (.float x)) :
    x.isNaN = false := by
  rw [number?] at h
  split at h
  · obtain ⟨_, -, ⟨⟩⟩ := Option.map_eq_some_iff.mp h
  · obtain ⟨y, hy, ⟨⟩⟩ := Option.map_eq_some_iff.mp h
    exact isNaN_of_binary? hy
  · obtain ⟨_, -, ⟨⟩⟩ := Option.map_eq_some_iff.mp h
  · split at h
    · split at h
      · cases h
      · split at h
        · cases h
        · obtain ⟨_, -, ⟨⟩⟩ := Option.map_eq_some_iff.mp h
    · obtain ⟨_, -, ⟨⟩⟩ := Option.map_eq_some_iff.mp h

end Literal

namespace TermRange

variable {field text : String} {type : SortType}

/-- A number is encoded for its own type as it is. -/
theorem encodeAs?_of_takes {n : Number} (h : type.takes n.type = true)
    (hn : ∀ x, n = .float x → x.isNaN = false) : encodeAs? type n = some n.encode := by
  cases type with
  | none | string | stringVal | byte | short | custom => rfl
  | int =>
    cases n with
    | int v =>
      rw [encodeAs?, integral?, Option.filter_some, if_pos (Literal.fitsInt_toInt v), Option.map_some,
        Int32.ofInt_toInt]
    | long | float | double => cases h
  | long =>
    cases n with
    | long v => rw [encodeAs?, integral?, Option.map_some, Int64.ofInt_toInt]
    | int | float | double => cases h
  | float =>
    cases n with
    | float x =>
      rw [encodeAs?, Number.toDouble, Binary.narrow_widen BinaryFormat.single_widens (hn x rfl)]
    | int | long | double => cases h
  | double =>
    cases n with
    | double x => rfl
    | int | long | float => cases h

/-- What the two sides of a text spell, if it has two. -/
def boundTexts (text : String) : List String :=
  match sides? text.toList with
  | some (_, low, high, _) => [String.ofList low, String.ofList high]
  | none => []

/-- Every bound of a text that looks like a number is written with the type of the field. -/
def TypedAlike (type : SortType) (text : String) : Prop :=
  ∀ raw ∈ boundTexts text, ∀ n ∈ parseNumber? raw, type.takes n.type = true

instance decidableTypedAlike (type : SortType) (text : String) : Decidable (TypedAlike type text) :=
  inferInstanceAs (Decidable (∀ raw ∈ boundTexts text, ∀ n ∈ parseNumber? raw, _))

theorem bound_eq_bound {raw : List Char}
    (h : ∀ n ∈ parseNumber? (String.ofList raw), type.takes n.type = true) :
    bound field text type raw = bound field text .none raw := by
  rw [bound, bound]
  split
  · rfl
  · cases hn : parseNumber? (String.ofList raw) with
    | none => rfl
    | some n =>
      have hnumber : ∀ x, n = .float x → x.isNaN = false := by
        rintro x rfl
        obtain ⟨l, -, hl⟩ := Option.bind_eq_some_iff.mp hn
        exact Literal.isNaN_of_number? hl
      have hnone : encodeAs? .none n = some n.encode := rfl
      dsimp only
      rw [encodeAs?_of_takes (h n hn) hnumber, hnone]

/-- With such bounds a text spells the same range both ways. -/
theorem parseTyped_of_typedAlike (h : TypedAlike type text) :
    parseTyped field text type = parse field text := by
  rw [parse, parseTyped, parseTyped]
  cases hs : sides? text.toList with
  | none => rfl
  | some sides =>
    obtain ⟨opening, low, high, closing⟩ := sides
    rw [TypedAlike, boundTexts, hs] at h
    dsimp only at h ⊢
    rw [bound_eq_bound (h (String.ofList low) (by simp)),
      bound_eq_bound (h (String.ofList high) (by simp))]

end TermRange

end FacetedSearch
