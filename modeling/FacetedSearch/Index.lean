import FacetedSearch.Document
import FacetedSearch.Number.Sortable
import FacetedSearch.Schema
import FacetedSearch.SortedSet

/-!
# FacetedSearch.Index — an inverted index in memory

Every value of a document is a term of its field and is stored with the document; a number is also
a sortable term of the field's range field.  A term lists the documents that have it.  A document
number is taken once a document with a value has it.
-/

namespace FacetedSearch

/-- A set of documents. -/
abbrev DocSet := SortedSet DocId

/-- The terms of one field, each with the documents that have it. -/
abbrev TermDocs := SortedMap String DocSet

/-- An index of documents. -/
structure Index where
  /-- For each field its terms. -/
  postings : SortedMap String TermDocs := ∅
  /-- For each document with a value the stored values of its fields. -/
  stored : SortedMap DocId (SortedMap String (List String)) := ∅
  /-- One more than the greatest number of an added document. -/
  slots : Nat := 0
  /-- How many documents have been added. -/
  docCount : Nat := 0
  /-- How often the index has been closed. -/
  closes : Nat := 0
deriving DecidableEq

namespace Index

/-- List a document under a term. -/
def post (field term : String) (id : DocId) (idx : Index) : Index :=
  { idx with postings := idx.postings.alter field fun terms =>
      (terms.getD ∅).alter term fun docs => (docs.getD ∅).insert id }

/-- Store a value's text with a document. -/
def store (field text : String) (id : DocId) (idx : Index) : Index :=
  { idx with stored := idx.stored.alter id fun fields =>
      (fields.getD ∅).alter field fun texts => texts.getD [] ++ [text] }

/-- Index one value of a document. -/
def addValue (id : DocId) (idx : Index) (field : String) (v : Value) : Index :=
  let idx := (idx.post field v.toText id).store field v.toText id
  match v.number? with
  | none => idx
  | some n => idx.post (rangeField field) n.encode id

/-- Index a document, unless its number is taken. -/
def add (idx : Index) (doc : Document) : Except Error Index :=
  if idx.stored.contains doc.id then .error (.alreadyIndexed doc.id)
  else
    let filled := doc.values.foldl (fun idx (field, v) => idx.addValue doc.id field v) idx
    .ok { filled with
      slots := max idx.slots (doc.id.toNat + 1), docCount := idx.docCount + 1 }

/-- The index of a list of documents. -/
def ofDocuments (docs : List Document) : Except Error Index := docs.foldlM add {}

/-- One more than the greatest document number, as a document number. -/
def maxDoc (idx : Index) : DocId := UInt32.ofNat idx.slots

/-- The indexed fields, in ascending order. -/
def fields (idx : Index) : List String := idx.postings.keys

/-- The terms of a field, if it is indexed. -/
def terms? (idx : Index) (field : String) : Option TermDocs := idx.postings.get? field

/-- The documents of a term, if it is indexed. -/
def docs? (idx : Index) (field term : String) : Option DocSet :=
  (idx.terms? field).bind fun terms => terms.get? term

/-- The documents with a value. -/
def allDocs (idx : Index) : DocSet := ⟨idx.stored.keys, idx.stored.keys_ascending⟩

/-- Every term of a field with every document that has it, in ascending order of terms and of
documents within a term. -/
def pairs (idx : Index) (field : String) : List (String × DocId) :=
  match idx.terms? field with
  | none => []
  | some terms => terms.entries.flatMap fun (term, docs) => docs.toList.map fun d => (term, d)

/-- The stored values of a document's field, in the order they were added. -/
def storedValues (idx : Index) (id : DocId) (field : String) : Except Error (List String) :=
  if id.toNat < idx.slots then
    .ok (((idx.stored.get? id).bind fun fields => fields.get? field).getD [])
  else .error (.outsideGeneration id)

/-- The index once more closed. -/
def close (idx : Index) : Index := { idx with closes := idx.closes + 1 }

end Index

end FacetedSearch
