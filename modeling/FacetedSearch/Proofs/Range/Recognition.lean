import FacetedSearch.Proofs.Facet.Fault
import FacetedSearch.Proofs.Number.Readable

/-!
# FacetedSearch.Proofs.Range.Recognition — what a range keeps of a bound that looks like a number

Of a readable number a range keeps a term, or the text is refused.  A bound that looks like a number
and is not readable is kept as it is written, which is no term (`TermRange.parseTyped_numeric`).
-/

namespace FacetedSearch

namespace TermRange

variable {field text : String} {type : SortType} {r : TermRange}

/-- A text with two sides spells a range if all four parts of the sides can be read. -/
theorem parseTyped_eq_ok_iff {opening closing : Char} {low high : List Char}
    (hsides : sides? text.toList = some (opening, low, high, closing)) :
    parseTyped field text type = .ok r ↔
      inclusive field text opening = .ok r.lowInclusive ∧
      inclusive field text closing = .ok r.highInclusive ∧
      bound field text type low = .ok r.low ∧ bound field text type high = .ok r.high ∧
      r.field = field ∧ r.text = text := by
  rw [parseTyped, hsides]
  dsimp only
  rw [bind_eq_ok]
  constructor
  · rintro ⟨lowInclusive, hopening, h⟩
    obtain ⟨highInclusive, hclosing, h⟩ := bind_eq_ok.mp h
    obtain ⟨lowBound, hlow, h⟩ := bind_eq_ok.mp h
    obtain ⟨highBound, hhigh, h⟩ := bind_eq_ok.mp h
    cases h
    exact ⟨hopening, hclosing, hlow, hhigh, rfl, rfl⟩
  · rintro ⟨hopening, hclosing, hlow, hhigh, rfl, rfl⟩
    refine ⟨_, hopening, bind_eq_ok.mpr ⟨_, hclosing, bind_eq_ok.mpr ⟨_, hlow, ?_⟩⟩⟩
    exact bind_eq_ok.mpr ⟨_, hhigh, rfl⟩

/-- Whatever the type, a number is encoded as the term of some number. -/
theorem exists_number_of_encodeAs? {n : Number} {term : String} (h : encodeAs? type n = some term) :
    ∃ m : Number, term = m.encode := by
  cases type with
  | int =>
    obtain ⟨i, -, rfl⟩ := Option.map_eq_some_iff.mp h
    exact ⟨_, rfl⟩
  | long =>
    obtain ⟨i, -, rfl⟩ := Option.map_eq_some_iff.mp h
    exact ⟨_, rfl⟩
  | none | string | stringVal | float | double | byte | short | custom =>
    cases h
    exact ⟨_, rfl⟩

/-- What looks like a number does not stand for an open side. -/
theorem not_open_of_isNumericLiteral {raw : String} (h : isNumericLiteral raw = true) :
    ¬ (raw = "NULL" ∨ raw = "*") := by
  have hnull : isNumericLiteral "NULL" ≠ true := by decide
  have hstar : isNumericLiteral "*" ≠ true := by decide
  rintro (rfl | rfl)
  · exact hnull h
  · exact hstar h

/-- The bound that a range keeps of a text which looks like a number: a term where the number is
readable, and otherwise the text, which is none. -/
def Keeps (raw : String) (stored : Option String) : Prop :=
  isNumericLiteral raw = true →
    (ReadableText raw → ∃ s, stored = some s ∧ (∃ n, Sortable.decode s = .ok n) ∧ s ≠ raw) ∧
    (¬ ReadableText raw → stored = some raw ∧ ∀ n, Sortable.decode raw ≠ .ok n)

theorem keeps_bound {raw : List Char} {stored : Option String}
    (h : bound field text type raw = .ok stored) : Keeps (String.ofList raw) stored := by
  intro hnumeric
  have hreadable := parseNumber?_isSome_iff hnumeric
  rw [bound, if_neg (not_open_of_isNumericLiteral hnumeric)] at h
  split at h
  · rename_i hnone
    rw [hnone] at hreadable
    have hraw (n : Number) : Sortable.decode (String.ofList raw) ≠ .ok n := by
      intro hn
      rw [not_isNumericLiteral_of_decode hn] at hnumeric
      cases hnumeric
    cases h
    exact ⟨fun hread => absurd (hreadable.mpr hread) Bool.false_ne_true, fun _ => ⟨rfl, hraw⟩⟩
  · rename_i n hn
    rw [hn] at hreadable
    refine ⟨fun _ => ?_, fun hread => absurd (hreadable.mp rfl) hread⟩
    split at h
    · rename_i term hterm
      obtain ⟨m, rfl⟩ := exists_number_of_encodeAs? hterm
      cases h
      have hdecode := Sortable.decode_encode m
      refine ⟨_, rfl, ⟨m, hdecode⟩, fun hraw => ?_⟩
      rw [hraw] at hdecode
      rw [not_isNumericLiteral_of_decode hdecode] at hnumeric
      cases hnumeric
    · cases h

/-- A text that spells no range is refused as badly configured.  Otherwise it has two sides, and of
each bound that looks like a number the range keeps a term where the number is readable and the text
where it is not. -/
theorem parseTyped_numeric (field text : String) (type : SortType) :
    let parsed := parseTyped field text type
    (∀ e, parsed = .error e → e.kind = .configuration) ∧
      ∀ r, parsed = .ok r → ∃ opening low high closing,
        sides? text.toList = some (opening, low, high, closing) ∧
          Keeps (String.ofList low) r.low ∧ Keeps (String.ofList high) r.high := by
  intro parsed
  refine ⟨fun e he => kind_of_parseTyped he, fun r hr => ?_⟩
  cases hsides : sides? text.toList with
  | none =>
    have hshape : parsed = .error (.rangeShape field text) := by
      change parseTyped field text type = _
      rw [parseTyped, hsides]
    rw [hshape] at hr
    cases hr
  | some sides =>
    obtain ⟨opening, low, high, closing⟩ := sides
    obtain ⟨-, -, hlow, hhigh, -⟩ := (parseTyped_eq_ok_iff hsides).mp hr
    exact ⟨opening, low, high, closing, rfl, keeps_bound hlow, keeps_bound hhigh⟩

/-- A bound with an exponent and one with a type letter, over a field of another type. -/
theorem parseTyped_thousand :
    let text := "[1e3 TO 2.5F\x7d"
    sides? text.toList = some ('[', "1e3".toList, "2.5F".toList, '}') ∧
      isNumericLiteral "1e3" = true ∧ isNumericLiteral "2.5F" = true ∧
      ∃ r, parseTyped "price_Range" text .double = .ok r ∧
        (∃ s, r.low = some s ∧ (∃ n, Sortable.decode s = .ok n) ∧ s ≠ "1e3") ∧
        ∃ s, r.high = some s ∧ (∃ n, Sortable.decode s = .ok n) ∧ s ≠ "2.5F" := by
  intro text
  have hsides : sides? text.toList = some ('[', "1e3".toList, "2.5F".toList, '}') := by
    decide +kernel
  have hlow : isNumericLiteral "1e3" = true := by decide
  have hhigh : isNumericLiteral "2.5F" = true := by decide
  have hlowread : ReadableText "1e3" := (parseNumber?_isSome_iff hlow).mp (by decide +kernel)
  have hhighread : ReadableText "2.5F" := (parseNumber?_isSome_iff hhigh).mp (by decide +kernel)
  obtain ⟨r, hr⟩ : ∃ r, parseTyped "price_Range" text .double = .ok r :=
    ⟨⟨"price_Range", text, some "dc08f400000000000", some "dc004000000000000", false, true⟩,
      by decide +kernel⟩
  obtain ⟨_, _, _, _, hparts, hl, hh⟩ := (parseTyped_numeric "price_Range" text .double).2 r hr
  cases hsides.symm.trans hparts
  rw [String.ofList_toList] at hl hh
  exact ⟨hsides, hlow, hhigh, r, hr, (hl hlow).1 hlowread, (hh hhigh).1 hhighread⟩

/-- A fraction that is marked as a whole number, and a digit of another script, are kept as they are
written. -/
theorem unreadable_kept :
    let marked := "[1.5L TO 9]"
    let foreign := "[\u0663 TO 9]"
    (sides? marked.toList = some ('[', "1.5L".toList, "9".toList, ']') ∧
      isNumericLiteral "1.5L" = true ∧
      (∃ r, parseTyped "count_Range" marked .int = .ok r ∧ r.low = some "1.5L") ∧
      Sortable.decode "1.5L" = .error (.sortableTag "1.5L")) ∧
    (sides? foreign.toList = some ('[', "\u0663".toList, "9".toList, ']') ∧
      isNumericLiteral "\u0663" = true ∧
      (∃ r, parseTyped "count_Range" foreign .int = .ok r ∧ r.low = some "\u0663") ∧
      Sortable.decode "\u0663" = .error (.sortableTag "\u0663")) := by
  intro marked foreign
  refine ⟨⟨by decide +kernel, by decide, ⟨⟨"count_Range", marked, some "1.5L", some "i80000009",
      false, false⟩, ?_, rfl⟩, by decide +kernel⟩,
    ⟨by decide +kernel, by decide, ⟨⟨"count_Range", foreign, some "\u0663", some "i80000009",
      false, false⟩, ?_, rfl⟩, by decide +kernel⟩⟩
  all_goals decide +kernel

end TermRange

end FacetedSearch
