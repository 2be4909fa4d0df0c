import FacetedSearch.SortedSet
import FacetedSearch.Checksum
import FacetedSearch.Error

/-!
# FacetedSearch.TextSet — sets of texts with their checksum

A set of texts carries the checksum of its ascending members.  Equality looks at the checksums
first and at the members then, so sets with one checksum stay apart; the hash is the checksum.
-/

namespace FacetedSearch

/-- A set of texts and its checksum. -/
structure TextSet where
  members : SortedSet String
  checksum : UInt32
  checksum_eq : checksum = Checksum.ofTexts members.toList

namespace TextSet

/-- The set of a list of texts. -/
def ofList (texts : List String) : TextSet :=
  { members := SortedSet.ofList texts, checksum := _, checksum_eq := rfl }

/-- The members, in ascending order. -/
def toList (s : TextSet) : List String := s.members.toList

/-- Whether two sets agree, by checksum first. -/
def beq (s t : TextSet) : Bool := s.checksum == t.checksum && s.toList == t.toList

instance beqInstance : BEq TextSet := ⟨beq⟩

instance hashable : Hashable TextSet := ⟨fun s => hash s.checksum⟩

theorem members_inj {s t : TextSet} : s.members = t.members ↔ s = t := by
  constructor
  · intro h
    cases s with | mk m c e =>
    cases t with | mk m' c' e' =>
    cases h; subst e; subst e'; rfl
  · rintro rfl; rfl

theorem beq_iff {s t : TextSet} : (s == t) = true ↔ s = t := by
  change beq s t = true ↔ _
  rw [beq, Bool.and_eq_true, beq_iff_eq, beq_iff_eq, toList, toList, SortedSet.toList_inj,
    members_inj]
  exact ⟨fun h => h.2, fun h => ⟨h ▸ rfl, h⟩⟩

/-- The set of stored values; there has to be one. -/
def ofValues (values : List String) : Except Error TextSet :=
  if values.isEmpty then .error .noValues else .ok (ofList values)

end TextSet

end FacetedSearch
