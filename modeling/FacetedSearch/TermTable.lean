import FacetedSearch.Document
import FacetedSearch.Number.Sortable
import FacetedSearch.SortedMap

/-!
# FacetedSearch.TermTable — the terms of each document

An index lists the documents of each term; facets need the terms of each document.  A `TermTable`
holds them for one field, in the order in which the field's pairs are visited, and a `NumberTable`
holds the numbers those terms decode to.  `DocumentTerms` holds the terms of all fields.
-/

namespace FacetedSearch

/-- The terms of one field, document by document. -/
structure TermTable where
  field : String
  /-- How many documents the generation has room for. -/
  documents : Nat
  /-- The terms of each document that has one. -/
  rows : SortedMap DocId (List String)
  /-- How many runs of one term the visited pairs consist of. -/
  distinct : Nat
deriving DecidableEq

namespace TermTable

/-- Append a term to the row of a document. -/
def addPair (rows : SortedMap DocId (List String)) (pair : String × DocId) :
    SortedMap DocId (List String) :=
  rows.alter pair.2 fun terms => terms.getD [] ++ [pair.1]

/-- How many runs of one term a list has behind a term. -/
def runsAfter (previous : Option String) : List String → Nat
  | [] => 0
  | t :: ts => (if previous = some t then 0 else 1) + runsAfter (some t) ts

/-- The table of a field's visited pairs; every document has to be below the limit. -/
def ofPairs (field : String) (limit : DocId) (pairs : List (String × DocId)) :
    Except Error TermTable :=
  match (pairs.filter fun p => decide (limit.toNat ≤ p.2.toNat)).getLast? with
  | some (_, d) => .error (.postingBeyond field d limit.toNat)
  | none => .ok {
      field, documents := limit.toNat, rows := pairs.foldl addPair ∅
      distinct := runsAfter none (pairs.map Prod.fst) }

/-- The terms of a document. -/
def terms (t : TermTable) (d : DocId) : List String := (t.rows.get? d).getD []

end TermTable

/-- The numbers of one field, document by document. -/
structure NumberTable where
  rows : SortedMap DocId (List Double)
deriving DecidableEq

/-- The number that a term of a field of this sort type stands for.  Undeclared fields hold 32-bit
whole numbers. -/
def SortType.decode (type : SortType) (term : String) : Except Error Double :=
  match type with
  | .long => (Sortable.decodeLong term).map fun v => Binary.ofInt v.toInt
  | .float => (Sortable.decodeFloat term).map (Binary.convert .double)
  | .double => Sortable.decodeDouble term
  | _ => (Sortable.decodeInt term).map fun v => Binary.ofInt v.toInt

namespace NumberTable

/-- Add the row of what a document's terms decode to. -/
def addRow (type : SortType) (t : NumberTable) (row : DocId × List String) :
    Except Error NumberTable :=
  (row.2.mapM type.decode).map fun numbers => { rows := t.rows.insert row.1 numbers }

/-- The table of what every term of a term table decodes to, document by document. -/
def ofTerms (terms : TermTable) (type : SortType) : Except Error NumberTable :=
  terms.rows.entries.foldlM (addRow type) { rows := ∅ }

/-- The numbers of a document. -/
def values (t : NumberTable) (d : DocId) : List Double := (t.rows.get? d).getD []

end NumberTable

/-- The terms of every field, document by document. -/
structure DocumentTerms where
  /-- How many documents the generation has room for. -/
  documents : Nat
  rows : SortedMap DocId (SortedMap String (List String)) := ∅
deriving DecidableEq

namespace DocumentTerms

/-- Append a term to a document's list for a field; documents beyond the limit are passed over. -/
def addPair (field : String) (t : DocumentTerms) (pair : String × DocId) : DocumentTerms :=
  if pair.2.toNat < t.documents then
    { t with rows := t.rows.alter pair.2 fun fields =>
        (fields.getD ∅).alter field fun terms => terms.getD [] ++ [pair.1] }
  else t

/-- Take in the visited pairs of a field. -/
def addField (t : DocumentTerms) (field : String) (pairs : List (String × DocId)) :
    DocumentTerms :=
  pairs.foldl (addPair field) t

/-- The terms of a document for each field that has one, if the generation has room for it. -/
def get? (t : DocumentTerms) (d : DocId) : Option (SortedMap String (List String)) :=
  if d.toNat < t.documents then some ((t.rows.get? d).getD ∅) else none

end DocumentTerms

end FacetedSearch
