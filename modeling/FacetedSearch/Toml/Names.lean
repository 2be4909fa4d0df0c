import FacetedSearch.SortedMap
import FacetedSearch.Toml.Key
import FacetedSearch.Toml.Value

/-!
# FacetedSearch.Toml.Names — what the paths of a document name

A path names a value, a table or a list of tables; below a list, paths lead into its last table.
A table comes about in three ways.  A header opens it, which may be done once.  A longer header
leads through it, which leaves it to be opened.  Or a dotted key leads through it, and then only
dotted keys from the same table reach into it.
-/

namespace FacetedSearch.Toml

/-- What a path names. -/
inductive Named
  | value (v : Value)
  /-- A table that a header opened. -/
  | opened
  /-- A table that headers of others lead through. -/
  | passed
  /-- A table that dotted keys lead through. -/
  | dotted
  /-- A list of tables. -/
  | tables
deriving DecidableEq

/-- What each path names. -/
abbrev Names := SortedMap Path Named

namespace Names

/-- Lead a path through the tables below another one, making those that are not there.  A dotted
key leads through no table that has been opened. -/
def lead (names : Names) (dotted : Bool) (below : Path) : Path → Option Names
  | [] => some names
  | key :: rest =>
    let here := below ++ [key]
    match names.get? here with
    | none => lead (names.insert here (if dotted then .dotted else .passed)) dotted here rest
    | some (.value _) => none
    | some .opened => if dotted then none else lead names dotted here rest
    | some _ => lead names dotted here rest

/-- Name a value by a path within a table.  Where the path is a dotted key, a dotted key has to
have made the table that it ends in. -/
def give (names : Names) (table path : Path) (v : Value) : Option Names := do
  let parent := path.dropLast
  let names ← names.lead true table parent
  if !parent.isEmpty && names.get? (table ++ parent) != some .dotted then none
  else if names.contains (table ++ path) then none
  else return names.insert (table ++ path) (.value v)

/-- Open the table that a header names. -/
def openTable (names : Names) (path : Path) : Option Names := do
  let names ← names.lead false [] path.dropLast
  match names.get? path with
  | none | some .passed => return names.insert path .opened
  | _ => none

/-- Append a table to the list that a header names.  Paths lead into the list's former tables no
more. -/
def openNext (names : Names) (path : Path) : Option Names := do
  let names ← names.lead false [] path.dropLast
  match names.get? path with
  | none | some .tables =>
    return (names.filterKeys fun p => !path.isPrefixOf p).insert path .tables
  | _ => none

/-- The value that a key names outside of all tables, and whether it names anything there. -/
def top? (names : Names) (key : String) : Option Named := names.get? [key]

end Names

end FacetedSearch.Toml
