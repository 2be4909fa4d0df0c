import FacetedSearch.Generation

/-!
# FacetedSearch.Generation.Session — reading a generation through its caches

A session reads one generation.  It may fail, and what it has put into the caches before stays
there.  Tables are built from the view on their first use and kept until the caches are cleared; a
table that is there already is never replaced.
-/

namespace FacetedSearch

/-- A computation that reads a generation, and may fail. -/
abbrev Session (α : Type) := ExceptT Error (StateM Generation) α

namespace Session

/-- Record a call on the view, and give the view. -/
def call (c : ViewCall) : Session View := do
  modify fun g => { g with calls := c :: g.calls }
  return (← get).view

/-- Change the caches. -/
def updateCaches (f : Caches → Caches) : Session Unit :=
  modify fun g => { g with caches := f g.caches }

/-- Ask the view for the documents that answer a search. -/
def search (r : SearchRequest) : Session DocSet := do
  let view ← call .search
  view.search r

/-- Ask the view for the pairs of a field. -/
def scan (field : String) : Session (List (String × DocId)) := do
  let view ← call (.scan field)
  view.scan field

/-- Ask the view for the stored values of a document's field. -/
def read (d : DocId) (field : String) : Session (List String) := do
  let view ← call (.read d field)
  view.read d field

/-- Build the term table of a field from the view. -/
def buildTerms (field : String) : Session TermTable := do
  let pairs ← scan field
  let limit := (← get).view.maxDoc
  TermTable.ofPairs field limit pairs

/-- Note that a facet field is used now. -/
def recordUse (field : String) (now : Nat) : Session Unit :=
  updateCaches fun c => { c with uses := c.uses.alter field fun last => max now (last.getD now) }

/-- Note that a facet field is used now, and tell whether its term table is there. -/
def isCached (field : String) (now : Nat) : Session Bool := do
  recordUse field now
  return (← get).caches.terms.contains field

/-- The term table of a field, built on first use. -/
def termTable (field : String) : Session TermTable := do
  match (← get).caches.terms.get? field with
  | some table => return table
  | none =>
    let table ← buildTerms field
    updateCaches fun c => { c with terms := c.terms.insertNew field table }
    return table

/-- Put a term table under a field unless one is there, and give the one that is there then. -/
def setTermTable (field : String) (table : TermTable) : Session TermTable := do
  updateCaches fun c => { c with terms := c.terms.insertNew field table }
  return ((← get).caches.terms.get? field).getD table

/-- The number table of a field for a sort type, built from its term table on first use. -/
def numberTable (field : String) (type : SortType) : Session NumberTable := do
  let terms ← termTable field
  match (← get).caches.numbers.get? (field, type) with
  | some table => return table
  | none =>
    let table ← NumberTable.ofTerms terms type
    updateCaches fun c => { c with numbers := c.numbers.insertNew (field, type) table }
    return table

/-- Read the stored values of a document over some fields, which have to have one. -/
def readValues (d : DocId) (fields : TextSet) : Session TextSet := do
  let values ← fields.toList.mapM (read d)
  match TextSet.ofValues values.flatten with
  | .ok set => return set
  | .error _ => throw (.noStoredValues d fields.toList)

/-- The distinct stored values of a document over some fields.  They are kept under the checksum
of the fields; where other fields with that checksum came first, they are read anew each time. -/
def fieldValues (d : DocId) (fields : List String) : Session TextSet := do
  let fields := TextSet.ofList fields
  match (← get).caches.values.get? (d, fields.checksum) with
  | some kept =>
    if kept.fields == fields then return kept.values else readValues d fields
  | none =>
    let values ← readValues d fields
    updateCaches fun c =>
      { c with values := c.values.insertNew (d, fields.checksum) { fields, values } }
    return values

/-- Take in the pairs of each field in turn. -/
def gatherFields (terms : DocumentTerms) : List String → Session DocumentTerms
  | [] => return terms
  | field :: rest => do
    let pairs ← scan field
    gatherFields (terms.addField field pairs) rest

/-- The terms of all fields, built once in the generation's life. -/
def documentTerms : Session DocumentTerms := do
  let g ← get
  match g.documentTerms with
  | some terms => return terms
  | none =>
    let terms ← gatherFields { documents := g.view.maxDoc.toNat } g.view.fields
    modify fun g => { g with documentTerms := some terms }
    return terms

end Session

namespace Generation

/-- Run a session on a generation. -/
def run {α : Type} (g : Generation) (s : Session α) : Except Error α × Generation :=
  StateT.run (ExceptT.run s) g

/-- The facet fields used less than `maxAge` ago, in ascending order. -/
def usedFields (g : Generation) (now maxAge : Nat) : List String :=
  (g.caches.uses.filterValues fun last => decide (now - last < maxAge)).keys

/-- The term table under each of some fields, if it is there. -/
def cachedTables (g : Generation) (fields : List String) : List (String × Option TermTable) :=
  fields.map fun field => (field, g.caches.terms.get? field)

end Generation

end FacetedSearch
