import FacetedSearch.Toml.Text

/-!
# FacetedSearch.Toml.Key — keys of TOML, alone and in paths

A key is a word or a text on one line.  Points join keys to a path, which leads through tables to
what its last key names.
-/

namespace FacetedSearch.Toml

/-- The keys that lead to a value or a table. -/
abbrev Path := List String

/-- Whether a character may stand in a key without marks. -/
def isKeyChar (c : Char) : Bool := c.isAlphanum || c == '_' || c == '-'

/-- A key. -/
def key? (s : List Char) : Option (List Char × List Char) :=
  match lineText? s with
  | some key => some key
  | none =>
    let key := s.takeWhile isKeyChar
    if key.isEmpty then none else some (key, s.dropWhile isKeyChar)

/-- A path of at most `room` keys, with the blanks around each. -/
def pathWithin : (room : Nat) → Scan Path
  | 0, _ => none
  | room + 1, s => do
    let (key, s) ← key? (skipGap s)
    match skipGap s with
    | '.' :: s =>
      let (path, s) ← pathWithin room s
      return (String.ofList key :: path, s)
    | s => return ([String.ofList key], s)

/-- The greatest number of keys in a path, and of lists and tables around a value. -/
def nestingLimit : Nat := 79

/-- A path. -/
def path? (s : List Char) : Option (Path × List Char) := pathWithin nestingLimit s

end FacetedSearch.Toml
