import FacetedSearch.Proofs.Range.Grammar

/-!
# FacetedSearch.Proofs.Range.Undeclared — ranges over undeclared fields of whole numbers

The terms of an undeclared field are 32-bit numbers, but a bound over it is encoded for the type it
is written with, which is 64 bits wide where 32 do not hold the number.  Terms of 64 bits stand
behind all those of 32.  So a bound above the 32-bit numbers compares as it should, and one below
them compares as if it were above them: `undeclaredPlace` is where a bound stands, and the range
holds the interval between the places of its bounds (`TermRange.parse_undeclared`).
-/

namespace FacetedSearch

/-- Where a whole number stands among the 32-bit numbers as the bound of an undeclared field: one that
is too small for 32 bits stands behind all of them. -/
def undeclaredPlace (i : Int) : Int := if i < -2147483648 then 2147483648 else i

namespace Number

/-- Terms of two types compare by their tags. -/
theorem cmp_encode_of_tag {a b : Number} {o : Ordering}
    (h : SortKey.cmp a.type.tag b.type.tag = o) (ho : o ≠ .eq) :
    SortKey.cmp a.encode b.encode = o := by
  change SortKey.cmp a.encode.toList b.encode.toList = o
  rw [encode, encode, String.toList_ofList, String.toList_ofList]
  change (SortKey.cmp a.type.tag b.type.tag).then _ = o
  rw [h]
  cases o with
  | eq => exact absurd rfl ho
  | lt | gt => rfl

/-- A whole number compares with the 32-bit numbers by where it stands. -/
theorem cmp_narrowest (i : Int) (v : Int32) :
    SortKey.cmp (narrowest i).encode (int v).encode = compare (undeclaredPlace i) v.toInt := by
  have hlow := v.le_toInt
  have hhigh := v.toInt_lt
  unfold narrowest undeclaredPlace
  split <;> rename_i hint <;> rw [Literal.fitsInt_iff] at hint
  · have hstands : ¬ i < -2147483648 := by omega
    rw [if_neg hstands, cmp_encode_int, Int32.toInt_ofInt_of_le hint.1 hint.2]
  · have htag : SortKey.cmp 'l' 'i' = .gt := by decide
    rw [cmp_encode_of_tag (a := long (Int64.ofInt i)) (b := int v) htag (by decide), eq_comm,
      Int.compare_eq_gt]
    split <;> omega

end Number

namespace TermRange

/-- A written bound keeps the term of its number, in the narrowest type. -/
theorem kept_chars {b : WrittenBound} (h : b.Fits .long) :
    kept b.chars = b.value?.map fun i => (Number.narrowest i).encode := by
  cases b with
  | null | star => rfl
  | whole w =>
    change kept w.chars = some (Number.narrowest w.value).encode
    unfold kept
    dsimp only
    rw [if_neg (not_open_chars w), parseNumber?_chars w (h w.value rfl)]
    rfl

/-- A range over an undeclared field, between any two brackets and any two bounds that each are left
open or spell a number of 64 bits.  The text is accepted, and the range then holds the term of a
32-bit number exactly if the number lies in the interval between where the bounds stand, to which a
bound belongs if its bracket is a curly one. -/
theorem parse_undeclared (field : String) (opening closing : Bracket) (low high : WrittenBound)
    (hlow : low.Fits .long) (hhigh : high.Fits .long) :
    ∃ r, parse field (rangeText opening low high closing) = .ok r ∧
      ∀ v : Int32, (r.contains (Number.int v).encode = true ↔
        (∀ i, low.value? = some i →
          if opening.curly then undeclaredPlace i ≤ v.toInt else undeclaredPlace i < v.toInt) ∧
        ∀ i, high.value? = some i →
          if closing.curly then v.toInt ≤ undeclaredPlace i else v.toInt < undeclaredPlace i) := by
  have hparsed := parseTyped_rangeText field .none opening low high closing
  dsimp only at hparsed
  rw [bound_none, bound_none] at hparsed
  refine ⟨_, hparsed, fun v => ?_⟩
  rw [contains, Bool.and_eq_true, aboveLow_iff (kept_chars hlow), belowHigh_iff (kept_chars hhigh)]
  refine and_congr (forall₂_congr fun i _ => ?_) (forall₂_congr fun i _ => ?_)
  · rw [Number.cmp_narrowest, inOrder_compare]
  · rw [← SortKey.cmp_swap, Number.cmp_narrowest, Int.compare_swap, inOrder_compare]

/-- From minus five, which is left out, up to three thousand millions, for which 32 bits are too
few. -/
theorem parse_toThreeThousandMillions :
    let low : WrittenBound := .whole { negative := true, first := 5, rest := [] }
    let high : WrittenBound := .whole
      { negative := false, first := 3, rest := [0, 0, 0, 0, 0, 0, 0, 0, 0] }
    let text := "[-5 TO 3000000000\x7d"
    rangeText ⟨false, false⟩ low high ⟨true, true⟩ = text ∧ low.Fits .long ∧ high.Fits .long ∧
      ∃ r, parse "count_Range" text = .ok r ∧ r.contains (Number.int 2147483647).encode = true ∧
        ¬ r.contains (Number.int (-5)).encode = true := by
  intro low high text
  have hlow : low.Fits .long := by
    rintro i ⟨⟩
    decide
  have hhigh : high.Fits .long := by
    rintro i ⟨⟩
    decide
  have htext : rangeText ⟨false, false⟩ low high ⟨true, true⟩ = text := by decide
  obtain ⟨r, hr, hcontains⟩ :=
    parse_undeclared "count_Range" ⟨false, false⟩ ⟨true, true⟩ low high hlow hhigh
  rw [htext] at hr
  refine ⟨htext, hlow, hhigh, r, hr, (hcontains 2147483647).mpr ⟨?_, ?_⟩, fun h => ?_⟩
  · rintro i ⟨⟩
    decide
  · rintro i ⟨⟩
    decide
  · have hfive := ((hcontains (-5)).mp h).1 (-5) rfl
    revert hfive
    decide

/-- Zero is above minus two thousand millions and more, but no 32-bit number is in the range from
there on. -/
theorem parse_belowAll :
    let low : WrittenBound := .whole
      { negative := true, first := 2, rest := [1, 4, 7, 4, 8, 3, 6, 4, 9] }
    let text := "\x7b-2147483649 TO *]"
    rangeText ⟨true, false⟩ low .star ⟨false, true⟩ = text ∧ low.Fits .long ∧
      ∃ r, parse "count_Range" text = .ok r ∧ r.contains (Number.int 0).encode = false ∧
        (∀ i, low.value? = some i → i ≤ (0 : Int32).toInt) := by
  intro low text
  have hlow : low.Fits .long := by
    rintro i ⟨⟩
    decide
  refine ⟨by decide, hlow, ⟨"count_Range", text, some "l7fffffff7fffffff", none, true, false⟩, ?_,
    by decide, ?_⟩
  · decide +kernel
  · rintro i ⟨⟩
    decide

end TermRange

end FacetedSearch
