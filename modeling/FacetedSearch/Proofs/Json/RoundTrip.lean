import FacetedSearch.Json.Parser
import FacetedSearch.Json.Printer
import FacetedSearch.Proofs.Json.Lexing

/-!
# FacetedSearch.Proofs.Json.RoundTrip — a tree that is written is read back

The tokens of a tree are kept apart (`Tree.apart_tokens`), and taking them in one by one finishes
the tree whatever is open around it (`Tree.foldlM_tokens`).  So the text of a tree reads as that
tree (`Tree.read?_render`).  All of these go by `Tree.induction`, with an induction over the items
or members inside.
-/

namespace FacetedSearch.Json

namespace Tree

/-- To show something of every tree, show it of a list and of an object whose parts all have it. -/
@[elab_as_elim]
theorem induction {motive : Tree → Prop} (null : motive .null) (boolean : ∀ b, motive (.boolean b))
    (natural : ∀ n, motive (.natural n)) (otherNumber : motive .otherNumber)
    (text : ∀ s, motive (.text s)) (list : ∀ items, (∀ t ∈ items, motive t) → motive (.list items))
    (object : ∀ members, (∀ m ∈ members, motive m.2) → motive (.object members)) (t : Tree) :
    motive t :=
  @Tree.rec motive (fun items => ∀ t ∈ items, motive t) (fun members => ∀ m ∈ members, motive m.2)
    (fun m => motive m.2) null boolean natural otherNumber text list object
    (fun _ h => absurd h List.not_mem_nil)
    (fun _ _ ht hitems => List.forall_mem_cons.mpr ⟨ht, hitems⟩)
    (fun _ h => absurd h List.not_mem_nil)
    (fun _ _ hm hmembers => List.forall_mem_cons.mpr ⟨hm, hmembers⟩) (fun _ _ h => h) t

open Token (Follows Apart)

/-! ## The tokens of a tree are kept apart -/

theorem follows_furtherItems (items : List Tree) (rest : List Token) :
    Follows (furtherItems items ++ rest) := by
  cases items <;> rfl

theorem follows_furtherMembers (members : List (Option String × Tree)) (rest : List Token) :
    Follows (furtherMembers members ++ rest) := by
  cases members <;> rfl

theorem apart_furtherItems {items : List Tree} {rest : List Token}
    (h : ∀ t ∈ items, ∀ rest, Follows rest → Apart rest → Apart (t.tokens ++ rest))
    (hrest : Apart rest) : Apart (furtherItems items ++ rest) := by
  induction items with
  | nil => exact .cons rfl hrest
  | cons t items ih =>
    obtain ⟨ht, hitems⟩ := List.forall_mem_cons.mp h
    rw [furtherItems, List.append_assoc]
    exact .cons rfl (ht _ (follows_furtherItems items rest) (ih hitems))

theorem apart_furtherMembers {members : List (Option String × Tree)} {rest : List Token}
    (h : ∀ m ∈ members, ∀ rest, Follows rest → Apart rest → Apart (m.2.tokens ++ rest))
    (hrest : Apart rest) : Apart (furtherMembers members ++ rest) := by
  induction members with
  | nil => exact .cons rfl hrest
  | cons m members ih =>
    obtain ⟨key, value⟩ := m
    obtain ⟨hm, hmembers⟩ := List.forall_mem_cons.mp h
    rw [furtherMembers, List.append_assoc]
    exact .cons rfl (.cons rfl (.cons rfl
      (hm _ (follows_furtherMembers members rest) (ih hmembers))))

theorem apart_append (t : Tree) : ∀ rest, Follows rest → Apart rest → Apart (t.tokens ++ rest) := by
  induction t using induction with
  | null | boolean | otherNumber | text | natural =>
    intro rest hfollows hrest
    exact ⟨fun _ => hfollows, hrest⟩
  | list items ih =>
    intro rest hfollows hrest
    rw [tokens]
    cases items with
    | nil => exact .cons rfl (.cons rfl hrest)
    | cons t items =>
      obtain ⟨ht, hitems⟩ := List.forall_mem_cons.mp ih
      rw [itemTokens, List.cons_append, List.append_assoc]
      exact .cons rfl (ht _ (follows_furtherItems items rest) (apart_furtherItems hitems hrest))
  | object members ih =>
    intro rest hfollows hrest
    rw [tokens]
    cases members with
    | nil => exact .cons rfl (.cons rfl hrest)
    | cons m members =>
      obtain ⟨key, value⟩ := m
      obtain ⟨hm, hmembers⟩ := List.forall_mem_cons.mp ih
      rw [memberTokens]
      simp only [List.cons_append, List.append_assoc]
      exact .cons rfl (.cons rfl (.cons rfl
        (hm _ (follows_furtherMembers members rest) (apart_furtherMembers hmembers hrest))))

theorem apart_tokens (t : Tree) : Apart t.tokens := by
  have h := t.apart_append [] trivial trivial
  rwa [List.append_nil] at h

/-! ## Taking in the tokens of a tree -/

/-- A value may stand at the front of a list as it may anywhere. -/
theorem foldlM_expectItem (t : Tree) (around : List Frame) (rest : List Token) :
    (t.tokens ++ rest).foldlM Reading.step (.expectItem around) =
      (t.tokens ++ rest).foldlM Reading.step (.expectValue (.list [] :: around)) := by
  cases t <;> rfl

theorem foldlM_furtherItems {items : List Tree}
    (h : ∀ t ∈ items, ∀ around rest, (t.tokens ++ rest).foldlM Reading.step (.expectValue around) =
      rest.foldlM Reading.step (.behind t around))
    (value : Tree) (before : List Tree) (around : List Frame) (rest : List Token) :
    (furtherItems items ++ rest).foldlM Reading.step (.behind value (.list before :: around)) =
      rest.foldlM Reading.step
        (.behind (.list (before.reverse ++ value :: items)) around) := by
  induction items generalizing value before with
  | nil =>
    change rest.foldlM Reading.step (.behind (.list (value :: before).reverse) around) = _
    rw [List.reverse_cons]
  | cons t items ih =>
    obtain ⟨ht, hitems⟩ := List.forall_mem_cons.mp h
    rw [furtherItems, List.append_assoc]
    calc (t.tokens ++ (furtherItems items ++ rest)).foldlM Reading.step
          (.expectValue (.list (value :: before) :: around))
        = (furtherItems items ++ rest).foldlM Reading.step
            (.behind t (.list (value :: before) :: around)) := ht _ _
      _ = rest.foldlM Reading.step
            (.behind (.list ((value :: before).reverse ++ t :: items)) around) := ih hitems t _
      _ = rest.foldlM Reading.step
            (.behind (.list (before.reverse ++ value :: t :: items)) around) := by
        rw [List.reverse_cons, List.append_assoc, List.singleton_append]

theorem foldlM_furtherMembers {members : List (Option String × Tree)}
    (h : ∀ m ∈ members, ∀ around rest,
      (m.2.tokens ++ rest).foldlM Reading.step (.expectValue around) =
        rest.foldlM Reading.step (.behind m.2 around))
    (key : Option String) (value : Tree) (before : List (Option String × Tree))
    (around : List Frame) (rest : List Token) :
    (furtherMembers members ++ rest).foldlM Reading.step
        (.behind value (.object before key :: around)) =
      rest.foldlM Reading.step
        (.behind (.object (before.reverse ++ (key, value) :: members)) around) := by
  induction members generalizing key value before with
  | nil =>
    change rest.foldlM Reading.step
      (.behind (.object ((key, value) :: before).reverse) around) = _
    rw [List.reverse_cons]
  | cons m members ih =>
    obtain ⟨next, t⟩ := m
    obtain ⟨ht, hmembers⟩ := List.forall_mem_cons.mp h
    rw [furtherMembers, List.append_assoc]
    calc (t.tokens ++ (furtherMembers members ++ rest)).foldlM Reading.step
          (.expectValue (.object ((key, value) :: before) next :: around))
        = (furtherMembers members ++ rest).foldlM Reading.step
            (.behind t (.object ((key, value) :: before) next :: around)) := ht _ _
      _ = rest.foldlM Reading.step (.behind
            (.object (((key, value) :: before).reverse ++ (next, t) :: members)) around) :=
        ih hmembers next t _
      _ = rest.foldlM Reading.step (.behind
            (.object (before.reverse ++ (key, value) :: (next, t) :: members)) around) := by
        rw [List.reverse_cons, List.append_assoc, List.singleton_append]

/-- Where a value has to come, the tokens of a tree give that tree. -/
theorem foldlM_tokens (t : Tree) : ∀ around rest,
    (t.tokens ++ rest).foldlM Reading.step (.expectValue around) =
      rest.foldlM Reading.step (.behind t around) := by
  induction t using induction with
  | null | boolean | natural | otherNumber | text => exact fun _ _ => rfl
  | list items ih =>
    intro around rest
    cases items with
    | nil => rfl
    | cons t items =>
      obtain ⟨ht, hitems⟩ := List.forall_mem_cons.mp ih
      rw [tokens, itemTokens, List.cons_append, List.append_assoc]
      calc (t.tokens ++ (furtherItems items ++ rest)).foldlM Reading.step (.expectItem around)
          = (t.tokens ++ (furtherItems items ++ rest)).foldlM Reading.step
              (.expectValue (.list [] :: around)) := foldlM_expectItem t around _
        _ = (furtherItems items ++ rest).foldlM Reading.step (.behind t (.list [] :: around)) :=
          ht _ _
        _ = rest.foldlM Reading.step (.behind (.list (t :: items)) around) :=
          foldlM_furtherItems hitems t [] around rest
  | object members ih =>
    intro around rest
    cases members with
    | nil => rfl
    | cons m members =>
      obtain ⟨key, value⟩ := m
      obtain ⟨hm, hmembers⟩ := List.forall_mem_cons.mp ih
      rw [tokens, memberTokens, List.cons_append, List.append_assoc]
      calc (value.tokens ++ (furtherMembers members ++ rest)).foldlM Reading.step
            (.expectValue (.object [] key :: around))
          = (furtherMembers members ++ rest).foldlM Reading.step
              (.behind value (.object [] key :: around)) := hm _ _
        _ = rest.foldlM Reading.step (.behind (.object ((key, value) :: members)) around) :=
          foldlM_furtherMembers hmembers key value [] around rest

theorem ofTokens?_tokens (t : Tree) : ofTokens? t.tokens = some t := by
  have h := t.foldlM_tokens [] []
  rw [List.append_nil] at h
  rw [ofTokens?, h]
  rfl

/-- A tree that is written is read back. -/
theorem read?_render (t : Tree) : read? t.render = some t := by
  rw [read?, render, String.toList_ofList, Token.read?_spelled t.apart_tokens, Option.bind_some,
    ofTokens?_tokens]

end Tree

end FacetedSearch.Json
