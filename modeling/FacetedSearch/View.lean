import FacetedSearch.Index.Search

/-!
# FacetedSearch.View — one generation of an index as its readers see it

A view answers searches, walks the term and document pairs of a field, reads stored values, and is
closed when its last reader is done; any of these may fail.  The view of an index in memory fails
only for documents it does not have.  Another view is made from it by giving other pairs for some
fields, by telling another document limit, or by letting some of its answers fail.
-/

namespace FacetedSearch

/-- The answers of one generation of an index. -/
structure View where
  /-- The limit that document numbers of the generation stay below. -/
  maxDoc : DocId
  /-- The indexed fields. -/
  fields : List String
  /-- The documents that answer a search. -/
  search : SearchRequest → Except Error DocSet
  /-- The term and document pairs of a field, in the order they are visited. -/
  scan : String → Except Error (List (String × DocId))
  /-- The stored values of a document's field. -/
  read : DocId → String → Except Error (List String)
  /-- Letting go of what backs the generation. -/
  close : Except Error Unit

/-- The answers of a view that fail, each with its report. -/
structure Faults where
  search : Option String := none
  scan : Option String := none
  read : Option String := none
  close : Option String := none

namespace View

/-- The view of an index in memory. -/
def ofIndex (idx : Index) : View where
  maxDoc := idx.maxDoc
  fields := idx.fields
  search r := .ok (idx.search r.query)
  scan field := .ok (idx.pairs field)
  read := idx.storedValues
  close := .ok ()

/-- The view with another document limit. -/
def withMaxDoc (v : View) (limit : DocId) : View := { v with maxDoc := limit }

/-- The view with given pairs for some fields, which it then has besides its own. -/
def withPairs (v : View) (given : SortedMap String (List (String × DocId))) : View :=
  { v with
    fields := (SortedSet.ofList (v.fields ++ given.keys)).toList
    scan := fun field => match given.get? field with
      | some pairs => .ok pairs
      | none => v.scan field }

/-- The answer, unless a fault reports otherwise. -/
def faulted {α : Type} (fault : Option String) (answer : Except Error α) : Except Error α :=
  match fault with
  | some report => .error (.reported .resource report)
  | none => answer

/-- The view with some of its answers failing. -/
def withFaults (v : View) (faults : Faults) : View :=
  { v with
    search := fun r => faulted faults.search (v.search r)
    scan := fun field => faulted faults.scan (v.scan field)
    read := fun id field => faulted faults.read (v.read id field)
    close := faulted faults.close v.close }

end View

end FacetedSearch
