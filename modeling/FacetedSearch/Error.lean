import FacetedSearch.SortType
import FacetedSearch.Facet.Mode
import FacetedSearch.Text.Quoted

/-!
# FacetedSearch.Error — what can go wrong, and how it is told

Every failure is a cause with what it concerns.  Its kind says who has to act on it, and `message`
is the only place that holds the wording.
-/

namespace FacetedSearch

/-- Whom a failure concerns. -/
inductive ErrorKind
  /-- A bad facet, range, sort type or setting. -/
  | configuration
  /-- The index could not be opened or read. -/
  | resource
  /-- A text is not in the form it should have. -/
  | parse
  /-- The operation does not fit the present state. -/
  | invalidState
  /-- A file could not be read. -/
  | io
deriving DecidableEq

namespace ErrorKind

/-- The name of a kind. -/
def name : ErrorKind → String
  | .configuration => "Configuration"
  | .resource => "Resource"
  | .parse => "Parse"
  | .invalidState => "InvalidState"
  | .io => "Io"

end ErrorKind

/-- The sets of names that requests and definitions choose from. -/
inductive Vocabulary
  | sortType
  | facetMode
  | aggregation
  | termOrder
deriving DecidableEq

/-- What the names of a vocabulary stand for. -/
def Vocabulary.label : Vocabulary → String
  | .sortType => "sort type"
  | .facetMode => "facet mode"
  | .aggregation => "facet aggregation"
  | .termOrder => "term sort mode"

/-- The causes of failure. -/
inductive Error
  /-- A name outside its vocabulary. -/
  | unknownName (vocabulary : Vocabulary) (name : String)
  /-- A text that is not two sides around one separator. -/
  | rangeShape (field text : String)
  /-- A side of a range without one of the four brackets at its outer end. -/
  | rangeBracket (bracket : Char) (field text : String)
  /-- A numeric bound that the field's declared type does not hold. -/
  | rangeBound (bound : String) (type : SortType) (field text : String)
  /-- An encoded number without one of the four tags. -/
  | sortableTag (text : String)
  /-- An encoded number with another tag or length than its type has. -/
  | sortableWidth (tag : Char) (digits : Nat) (text : String)
  /-- An encoded number whose digits are no digits. -/
  | sortableDigits (text : String)
  /-- A document number that is taken. -/
  | alreadyIndexed (document : UInt32)
  /-- A document number that the generation does not reach. -/
  | outsideGeneration (document : UInt32)
  /-- A posting for a document that the generation does not reach. -/
  | postingBeyond (field : String) (document : UInt32) (documents : Nat)
  /-- A value set without values. -/
  | noValues
  /-- A document without stored values over some fields. -/
  | noStoredValues (document : UInt32) (fields : List String)
  /-- A facet without a name. -/
  | facetUnnamed
  /-- A facet that aggregates over no field. -/
  | facetWithoutField (facet : String) (aggregation : Aggregation)
  /-- A facet that aggregates over a field without numbers. -/
  | facetNotNumeric (facet : String) (aggregation : Aggregation) (field : String) (type : SortType)
  /-- A facet whose aggregation field holds a term that does not decode. -/
  | facetUnreadable (facet field reason : String)
  /-- No generation could be held within the allowed attempts. -/
  | noLiveGeneration (index : String) (attempts : Nat)
  /-- A new generation could not be opened. -/
  | openingFailed (index reason : String)
  /-- A settings text that is not understood. -/
  | malformedConfig
  /-- A request text that is not understood. -/
  | malformedRequest
  /-- A failure reported from outside: by the index, by an opener or by the file system. -/
  | reported (kind : ErrorKind) (context : String)
deriving DecidableEq

namespace Error

/-- The kind of a cause. -/
def kind : Error → ErrorKind
  | .unknownName .. | .rangeShape .. | .rangeBracket .. | .rangeBound .. => .configuration
  | .sortableTag .. | .sortableWidth .. | .sortableDigits .. => .parse
  | .alreadyIndexed .. => .invalidState
  | .outsideGeneration .. | .postingBeyond .. => .resource
  | .noValues | .noStoredValues .. => .configuration
  | .facetUnnamed | .facetWithoutField .. | .facetNotNumeric .. => .configuration
  | .facetUnreadable .. => .parse
  | .noLiveGeneration .. => .invalidState
  | .openingFailed .. => .resource
  | .malformedConfig | .malformedRequest => .configuration
  | .reported kind _ => kind

/-- The wording of a value set without values. -/
def noValuesMessage : String :=
  "Cannot apply distinct facet on empty fields, did you forget to store them in the index?"

/-- The wording of a cause. -/
def message : Error → String
  | .unknownName vocabulary name => s!"Could not understand {vocabulary.label} '{name}'"
  | .rangeShape field text => s!"Could not understand range query '{text}' of facet {field}"
  | .rangeBracket bracket field text =>
    s!"Could not understand range prefix '{bracket}' in range '{text}' of facet {field}"
  | .rangeBound bound type field text =>
    s!"Range bound '{bound}' is not a valid {type.name} in range '{text}' of facet {field}"
  | .sortableTag text => s!"Not a sortable numeric: {Text.quote text}"
  | .sortableWidth tag digits text =>
    s!"Expected '{tag}' numeric of width {digits}, got {Text.quote text}"
  | .sortableDigits text =>
    s!"Malformed sortable numeric {Text.quote text}: invalid digit found in string"
  | .alreadyIndexed document => s!"Document {document.toNat} already indexed"
  | .outsideGeneration document => s!"Document {document.toNat} is outside this generation"
  | .postingBeyond field document documents =>
    s!"Field {field} has a posting for document {document.toNat} beyond max_doc {documents}"
  | .noValues => noValuesMessage
  | .noStoredValues document fields =>
    let names := ", ".intercalate fields
    s!"{noValuesMessage} (document {document.toNat}, fields {names})"
  | .facetUnnamed => "Facet definition has no field name"
  | .facetWithoutField facet aggregation =>
    s!"Facet {facet} uses {aggregation.name} aggregation but has no aggregation field"
  | .facetNotNumeric facet aggregation field type =>
    s!"Facet {facet} cannot apply {aggregation.name} aggregation over field {field} " ++
      s!"with sort type {type.name}"
  | .facetUnreadable facet field reason => s!"Facet {facet} could not read {field} value: {reason}"
  | .noLiveGeneration index attempts =>
    s!"Could not check out a live generation of index {index} after {attempts} attempts"
  | .openingFailed index reason => s!"Failed to open new generation of index {index}: {reason}"
  | .malformedConfig => "Invalid config"
  | .malformedRequest => "Invalid request"
  | .reported _ context => context

/-- The kind and the wording in one line. -/
def display (e : Error) : String := s!"{e.kind.name}: {e.message}"

/-- Whether the failure is one of configuration. -/
def isConfiguration (e : Error) : Bool := e.kind == .configuration

end Error

end FacetedSearch
