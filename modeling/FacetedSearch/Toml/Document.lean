import FacetedSearch.Toml.Names

/-!
# FacetedSearch.Toml.Document — documents of keys and values

A document is a list of statements, each with a line end of its own: one gives a path its value,
the others are headers, to whose table the paths behind them belong.  A list may stretch over
lines; a table written as a value stays on its line, its texts and lists apart.
-/

namespace FacetedSearch.Toml

/-! ## Values that hold others -/

mutual

/-- A value with at most `fuel` steps and `room` lists and tables around its scalars. -/
def valueWithin : (fuel room : Nat) → Scan Value
  | fuel + 1, room + 1, '[' :: rest =>
    (itemsWithin fuel room rest).map fun rest => (.list, rest)
  | fuel + 1, room + 1, '\x7b' :: rest =>
    match skipGap rest with
    | '\x7d' :: rest => some (.table, rest)
    | rest => (fieldsWithin fuel room ∅ rest).map fun rest => (.table, rest)
  | _, _, s => scalar? s

/-- What stands behind the items of a list and its end. -/
def itemsWithin : (fuel room : Nat) → List Char → Option (List Char)
  | 0, _, _ => none
  | fuel + 1, room, s => do
    match ← skipFiller false s with
    | ']' :: rest => return rest
    | s =>
      let (_, s) ← valueWithin fuel room s
      match ← skipFiller false s with
      | ',' :: rest => itemsWithin fuel room rest
      | ']' :: rest => return rest
      | _ => none

/-- What stands behind the fields of a table and its end, with what the fields before them name. -/
def fieldsWithin : (fuel room : Nat) → Names → List Char → Option (List Char)
  | 0, _, _, _ => none
  | fuel + 1, room, names, s => do
    let (path, s) ← path? s
    match s with
    | '=' :: s =>
      let (v, s) ← valueWithin fuel room (skipGap s)
      let names ← names.give [] path v
      match skipGap s with
      | ',' :: rest => fieldsWithin fuel room names rest
      | '\x7d' :: rest => return rest
      | _ => none
    | _ => none

end

/-- A value. -/
def value? (s : List Char) : Option (Value × List Char) :=
  valueWithin (s.length + 1) nestingLimit s

/-! ## Statements -/

/-- What a document states. -/
inductive Statement
  /-- The path has the value in the table whose header stands before. -/
  | gives (path : Path) (v : Value)
  /-- The paths behind belong to this table. -/
  | opens (path : Path)
  /-- The paths behind belong to a further table of this list. -/
  | opensNext (path : Path)
deriving DecidableEq

/-- A statement with its line end, behind blanks. -/
def statement? (s : List Char) : Option (Statement × List Char) :=
  match s with
  | '[' :: '[' :: s => do
    match ← path? s with
    | (path, ']' :: ']' :: s) => return (.opensNext path, ← lineEnd? s)
    | _ => none
  | '[' :: s => do
    match ← path? s with
    | (path, ']' :: s) => return (.opens path, ← lineEnd? s)
    | _ => none
  | s => do
    match ← path? s with
    | (path, '=' :: s) =>
      let (v, s) ← value? (skipGap s)
      return (.gives path v, ← lineEnd? s)
    | _ => none

/-- The statements of a text with at most `fuel` lines. -/
def statementsWithin : (fuel : Nat) → List Char → Option (List Statement)
  | 0, _ => none
  | fuel + 1, s =>
    match skipGap s with
    | [] => some []
    | s =>
      match lineEnd? s with
      | some rest => statementsWithin fuel rest
      | none => do
        let (statement, rest) ← statement? s
        return statement :: (← statementsWithin fuel rest)

/-- The statements of a text. -/
def statements? (s : List Char) : Option (List Statement) := statementsWithin (s.length + 1) s

/-! ## Documents -/

/-- What has been read of a document. -/
structure Reading where
  names : Names := ∅
  /-- The table that paths belong to. -/
  table : Path := []

/-- Take in a statement. -/
def Reading.take (r : Reading) : Statement → Option Reading
  | .gives path v => (r.names.give r.table path v).map fun names => { r with names }
  | .opens path => (r.names.openTable path).map fun names => { names, table := path }
  | .opensNext path => (r.names.openNext path).map fun names => { names, table := path }

/-- What a document names. -/
def read? (text : String) : Option Names := do
  let statements ← statements? (withoutReturns (withoutMark text.toList))
  return (← statements.foldlM Reading.take {}).names

end FacetedSearch.Toml
