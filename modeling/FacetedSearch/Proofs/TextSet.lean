import FacetedSearch.TextSet
import Mathlib.Data.List.Destutter

/-!
# FacetedSearch.Proofs.TextSet — sets of texts are canonical

The ascending list of a set is what sorting leaves once repeated neighbours are dropped
(`toList_ofList_eq_destutter`): in a sorted list equal texts are neighbours.  Sets are equal where
their members are, so the checksum that is compared first never decides between sets of the same
members, and where different sets have one checksum the members decide.  There are such sets: a
zero inside a text reads like the end of the text (`ofTexts_regrouped`).
-/

namespace FacetedSearch

open SortKey (Before)

/-! ## Sorting and dropping repeated neighbours -/

namespace SortKey

variable {κ : Type} [SortKey κ] {a b c : κ}

/-- Whether the first key does not stand behind the second. -/
def notBehind (a b : κ) : Bool := decide (¬ Before b a)

theorem notBehind_iff : notBehind a b = true ↔ ¬ Before b a := decide_eq_true_iff

theorem notBehind_trans (h : notBehind a b = true) (h' : notBehind b c = true) :
    notBehind a c = true := by
  rw [notBehind_iff] at *
  intro hca
  by_cases hab : a = b
  · subst hab
    exact h' hca
  · rcases before_or hab with hab | hba
    · exact h' (before_trans hca hab)
    · exact h hba

theorem notBehind_total (a b : κ) : (notBehind a b || notBehind b a) = true := by
  rw [Bool.or_eq_true, notBehind_iff, notBehind_iff, ← not_and_or]
  exact fun ⟨hba, hab⟩ => before_asymm hba hab

theorem notBehind_antisymm (h : notBehind a b = true) (h' : notBehind b a = true) : a = b := by
  rw [notBehind_iff] at h h'
  by_contra hne
  rcases before_or hne with hab | hba
  · exact h' hab
  · exact h hba

end SortKey

open SortKey (notBehind)

namespace SortedSet

variable {κ : Type} [SortKey κ] [DecidableEq κ]

/-- However a list is sorted, dropping repeated neighbours leaves the ascending list of its
members. -/
theorem toList_ofList_eq_destutter {l sorted : List κ} (hperm : sorted.Perm l)
    (hsorted : sorted.Pairwise fun a b => notBehind a b = true) :
    (ofList l).toList = sorted.destutter (· ≠ ·) := by
  have : Std.Antisymm fun a b : κ => notBehind a b = true :=
    ⟨fun _ _ => SortKey.notBehind_antisymm⟩
  rw [hsorted.destutter_eq_dedup]
  refine eq_of_ascending (ofList l).ascending ?_ fun k => ?_
  · have hkept := hsorted.sublist (List.dedup_sublist sorted)
    refine hkept.imp₂ (fun a b hab hne => ?_) (List.nodup_dedup sorted)
    exact (SortKey.before_or hne).resolve_right (SortKey.notBehind_iff.mp hab)
  · rw [List.mem_dedup, hperm.mem_iff]
    exact mem_ofList

theorem toList_ofList_eq_mergeSort (l : List κ) :
    (ofList l).toList = (l.mergeSort notBehind).destutter (· ≠ ·) := by
  have hsorted : (l.mergeSort notBehind).Pairwise fun a b => notBehind a b = true :=
    @List.pairwise_mergeSort κ notBehind (fun _ _ _ => SortKey.notBehind_trans)
      SortKey.notBehind_total l
  exact toList_ofList_eq_destutter (List.mergeSort_perm l notBehind) hsorted

end SortedSet

/-! ## Lists of texts with one checksum -/

namespace Checksum

/-- A zero inside a text reads like the end of the text. -/
theorem textBytes_zero (s t : String) :
    textBytes (s ++ "\x00" ++ t) = textBytes s ++ textBytes t := by
  have hzero : "\x00".toUTF8.data.toList = [0] := by decide
  have happend (s t : String) :
      (s ++ t).toUTF8.data.toList = s.toUTF8.data.toList ++ t.toUTF8.data.toList :=
    ByteArray.toList_data_append
  rw [textBytes, happend, happend, hzero, textBytes, textBytes, List.append_assoc]

theorem ofTexts_regrouped (s t u : String) :
    ofTexts [s, t ++ "\x00" ++ u] = ofTexts [s ++ "\x00" ++ t, u] := by
  simp [ofTexts, textBytes_zero]

end Checksum

/-! ## Equality of sets -/

namespace TextSet

theorem ofList_eq_iff {a b : List String} : ofList a = ofList b ↔ ∀ t, t ∈ a ↔ t ∈ b := by
  rw [← members_inj]
  constructor
  · intro h t
    rw [← SortedSet.mem_ofList, ← SortedSet.mem_ofList (l := b)]
    exact Iff.of_eq (congrArg (t ∈ ·) h)
  · intro h
    refine SortedSet.ext_mem fun t => ?_
    rw [ofList, ofList, SortedSet.mem_ofList, SortedSet.mem_ofList]
    exact h t

theorem ofValues_eq_ok {values : List String} (h : values ≠ []) :
    ofValues values = .ok (ofList values) := by
  rw [ofValues, if_neg (by simpa using h)]

/-- Two sets of two texts each, which run together to the same bytes. -/
theorem exists_checksum_eq : ∃ c d : List String, c ≠ [] ∧ d ≠ [] ∧
    (ofList c).checksum = (ofList d).checksum ∧ ¬ (ofList c == ofList d) = true := by
  refine ⟨["a", "b" ++ "\x00" ++ "c"], ["a" ++ "\x00" ++ "b", "c"], by simp, by simp, ?_, ?_⟩
  · have hfirst : (ofList ["a", "b" ++ "\x00" ++ "c"]).members.toList =
        ["a", "b" ++ "\x00" ++ "c"] := by decide
    have hsecond : (ofList ["a" ++ "\x00" ++ "b", "c"]).members.toList =
        ["a" ++ "\x00" ++ "b", "c"] := by decide
    rw [checksum_eq, checksum_eq, hfirst, hsecond]
    exact Checksum.ofTexts_regrouped "a" "b" "c"
  · rw [beq_iff, ofList_eq_iff]
    intro h
    exact absurd ((h "a").mp (by simp)) (by decide)

/-- Sets of texts are canonical.  Two lists of texts have one set exactly where they have the same
members, in whatever order and however often; it is listed in strictly ascending order, which is
what sorting the texts and dropping repeated neighbours gives.  There is a set of stored values for
each list that is not empty, and comparing two of them, by their checksums first, tells whether the
lists have the same members; equal sets have one hash.  Different sets may have one checksum all
the same. -/
theorem canonical_ofList (a b : List String) :
    (ofList a = ofList b ↔ ∀ t, t ∈ a ↔ t ∈ b) ∧
      (ofList a).toList.Pairwise Before ∧ (∀ t, t ∈ (ofList a).toList ↔ t ∈ a) ∧
      (ofList a).toList = (a.mergeSort notBehind).destutter (· ≠ ·) ∧
      (a ≠ [] → b ≠ [] → ∃ s t, ofValues a = .ok s ∧ ofValues b = .ok t ∧
        ((s == t) = true ↔ ∀ x, x ∈ a ↔ x ∈ b) ∧ ((s == t) = true → hash s = hash t)) ∧
      ∃ c d : List String, c ≠ [] ∧ d ≠ [] ∧
        (ofList c).checksum = (ofList d).checksum ∧ ¬ (ofList c == ofList d) = true := by
  refine ⟨ofList_eq_iff, (SortedSet.ofList a).ascending, fun t => SortedSet.mem_ofList,
    SortedSet.toList_ofList_eq_mergeSort a, fun ha hb => ?_, exists_checksum_eq⟩
  refine ⟨ofList a, ofList b, ofValues_eq_ok ha, ofValues_eq_ok hb, ?_, fun heq => ?_⟩
  · rw [beq_iff]
    exact ofList_eq_iff
  · rw [beq_iff.mp heq]

end TextSet

end FacetedSearch
