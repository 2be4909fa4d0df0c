import FacetedSearch.Json.Tree

/-!
# FacetedSearch.Json.Record — reading trees as records, lists and choices

A record is written as an object, or as a list of its parts in their order.  An object gives every
part at most once, and other members are passed over unless the record is closed.  What is read may
nest only so deep: `room` counts the containers that may still be opened, and what is passed over
takes up no room.
-/

namespace FacetedSearch.Json

/-- The way a record is written. -/
structure RecordForm where
  /-- The names of the parts, in their order. -/
  names : List String
  /-- How many parts a list has to give. -/
  least : Nat := names.length
  /-- Whether other members are refused. -/
  closed : Bool := false

namespace RecordForm

/-- Whether the keys of an object are those of the record: none broken, none of its names twice,
and no other where the record is closed. -/
def accepts (form : RecordForm) (keys : List (Option String)) : Bool :=
  keys.all (fun key => key.any fun k => !form.closed || form.names.contains k) &&
    form.names.all fun name => decide (keys.count (some name) ≤ 1)

/-- The parts of a record in their order, those that are given. -/
def parts? (form : RecordForm) : Tree → Option (List (Option Tree))
  | .list items =>
    if form.least ≤ items.length ∧ items.length ≤ form.names.length then
      some (items.map some ++ List.replicate (form.names.length - items.length) none)
    else none
  | .object members =>
    if form.accepts (members.map Prod.fst) then
      some (form.names.map fun name => members.lookup (some name))
    else none
  | _ => none

end RecordForm

/-- Read what a container holds, if there is room for one. -/
def within {α : Type} (room : Nat) (read : Nat → Option α) : Option α :=
  match room with
  | 0 => none
  | room + 1 => read room

/-! ## Parts of a record -/

/-- A part that has to be given. -/
def required {α : Type} (read : Tree → Option α) (part : Option Tree) : Option α := part.bind read

/-- A part that may be left out or null. -/
def optional {α : Type} (read : Tree → Option α) : Option Tree → Option (Option α)
  | none | some .null => some none
  | some t => (read t).map some

/-- A part that has a value where it is left out. -/
def defaulted {α : Type} (value : α) (read : Tree → Option α) : Option Tree → Option α
  | none => some value
  | some t => read t

/-! ## Values -/

namespace Tree

/-- The string of a text. -/
def text? : Tree → Option String
  | .text s => s
  | _ => none

/-- The truth value of a tree. -/
def boolean? : Tree → Option Bool
  | .boolean b => some b
  | _ => none

/-- The whole number of a tree, if it has no more than the given bits. -/
def word? (bits : Nat) : Tree → Option Nat
  | .natural n => if n < Nat.pow 2 bits then some n else none
  | _ => none

/-- The items of a list, each read alike. -/
def items? {α : Type} (read : Tree → Option α) : Tree → Option (List α)
  | .list items => items.mapM read
  | _ => none

/-- One of some names: a text, or the key of a null. -/
def choice? {α : Type} (ofName? : String → Option α) (room : Nat) : Tree → Option α
  | .text s => s.bind ofName?
  | .object [(key, .null)] => within room fun _ => key.bind ofName?
  | _ => none

end Tree

end FacetedSearch.Json
