import FacetedSearch.Facet
import FacetedSearch.Json.Parser
import FacetedSearch.Json.Printer
import FacetedSearch.Json.Record

/-!
# FacetedSearch.Facet.Json — facet requests as JSON

A request is an object of a search, its facets and a page.  A query is the name of its kind, with
its parts where it has some.  What a facet definition leaves out has its default.  No more than 127
containers may be nested in what is read of a request.
-/

namespace FacetedSearch

open Json

/-! ## Writing -/

namespace Json.Tree

/-- The text of a string. -/
def ofString (s : String) : Tree := .text (some s)

/-- A record with all its parts. -/
def record (parts : List (String × Tree)) : Tree :=
  .object (parts.map fun (name, value) => (some name, value))

/-- A tree, or null. -/
def orNull {α : Type} (write : α → Tree) : Option α → Tree
  | none => .null
  | some a => write a

end Json.Tree

/-- A span of time as its seconds and nanoseconds. -/
def Duration.toJson (d : Duration) : Tree :=
  .record [("secs", .natural d.seconds), ("nanos", .natural d.nanos)]

/-- A range with its bounds. -/
def TermRange.toJson (r : TermRange) : Tree :=
  .record [
    ("field", .ofString r.field), ("range_text", .ofString r.text),
    ("low", .orNull .ofString r.low), ("high", .orNull .ofString r.high),
    ("low_inclusive", .boolean r.lowInclusive), ("high_inclusive", .boolean r.highInclusive)]

namespace Query

/-- A kind of query with its parts. -/
def ofKind (kind : String) (parts : List (String × Tree)) : Tree := .record [(kind, .record parts)]

mutual

/-- A query as the name of its kind and its parts. -/
def toJson : Query → Tree
  | .all => .ofString "MatchAll"
  | .term field value => ofKind "Term" [("field", .ofString field), ("value", .ofString value)]
  | .startsWith field start =>
    ofKind "Prefix" [("field", .ofString field), ("prefix", .ofString start)]
  | .range field r => ofKind "Range" [("field", .ofString field), ("range", r.toJson)]
  | .bool must should mustNot =>
    ofKind "Bool" [
      ("must", .list (eachToJson must)), ("should", .list (eachToJson should)),
      ("must_not", .list (eachToJson mustNot))]

/-- Each of some queries. -/
def eachToJson : List Query → List Tree
  | [] => []
  | q :: qs => q.toJson :: eachToJson qs

end

end Query

/-- A search as its query and timeout. -/
def SearchRequest.toJson (r : SearchRequest) : Tree :=
  .record [("query", r.query.toJson), ("timeout", .orNull Duration.toJson r.timeout)]

/-- A facet definition with all its parts. -/
def FacetDefinition.toJson (d : FacetDefinition) : Tree :=
  .record [
    ("name", .ofString d.name), ("mode", .ofString d.mode.name),
    ("aggregation", .ofString d.aggregation.name),
    ("aggregation_field", .orNull .ofString d.aggregationField),
    ("ranges", .list (d.ranges.map .ofString)), ("term_sort_mode", .ofString d.order.name),
    ("max_results", .orNull .natural d.maxResults),
    ("include_remaining_terms", .boolean d.includeRemaining)]

namespace FacetRequest

/-- A request with all its parts. -/
def toJson (r : FacetRequest) : Tree :=
  .record [
    ("query", r.search.toJson), ("facets", .list (r.facets.map FacetDefinition.toJson)),
    ("start", .natural r.start), ("page_size", .orNull .natural r.pageSize)]

/-- A request as JSON text. -/
def render (r : FacetRequest) : String := r.toJson.render

end FacetRequest

/-! ## Reading -/

/-- A span of time; its nanoseconds may carry over into 64 bits of seconds. -/
def Duration.ofJson? (room : Nat) (t : Tree) : Option Duration :=
  within room fun _ => do
    let form : RecordForm := { names := ["secs", "nanos"], closed := true }
    match ← form.parts? t with
    | [seconds, nanos] =>
      let d := Duration.ofParts (← required (Tree.word? 64) seconds) (← required (Tree.word? 32) nanos)
      if d.seconds < 18446744073709551616 then some d else none
    | _ => none

/-- A range with its bounds, which are not looked at. -/
def TermRange.ofJson? (room : Nat) (t : Tree) : Option TermRange :=
  within room fun _ => do
    let form : RecordForm :=
      { names := ["field", "range_text", "low", "high", "low_inclusive", "high_inclusive"] }
    match ← form.parts? t with
    | [field, text, low, high, lowInclusive, highInclusive] =>
      return {
        field := ← required Tree.text? field, text := ← required Tree.text? text
        low := ← optional Tree.text? low, high := ← optional Tree.text? high
        lowInclusive := ← required Tree.boolean? lowInclusive
        highInclusive := ← required Tree.boolean? highInclusive }
    | _ => none

namespace Query

/-- The two texts of a record. -/
def twoTexts? (first second : String) (room : Nat) (t : Tree) : Option (String × String) :=
  within room fun _ => do
    match ← RecordForm.parts? { names := [first, second] } t with
    | [a, b] => return (← required Tree.text? a, ← required Tree.text? b)
    | _ => none

/-- A field and a range. -/
def rangeOfJson? (room : Nat) (t : Tree) : Option Query :=
  within room fun room => do
    match ← RecordForm.parts? { names := ["field", "range"] } t with
    | [field, r] =>
      return .range (← required Tree.text? field) (← required (TermRange.ofJson? room) r)
    | _ => none

/-- The three lists of a combined query, from a reader of their items. -/
def boolOfJson? (read : Tree → Option Query) (t : Tree) : Option Query := do
  match ← RecordForm.parts? { names := ["must", "should", "must_not"] } t with
  | [must, should, mustNot] =>
    return .bool (← required (Tree.items? read) must) (← required (Tree.items? read) should)
      (← required (Tree.items? read) mustNot)
  | _ => none

/-- A query by the name of its kind.  A combined query takes up room for its name, its record and
its lists. -/
def ofJson? : (room : Nat) → Tree → Option Query
  | _, .text kind => if kind = some "MatchAll" then some .all else none
  | room + 1, .object [(some kind, body)] =>
    match kind with
    | "MatchAll" => match body with
      | .null => some .all
      | _ => none
    | "Term" => (twoTexts? "field" "value" room body).map fun (field, value) => .term field value
    | "Prefix" =>
      (twoTexts? "field" "prefix" room body).map fun (field, start) => .startsWith field start
    | "Range" => rangeOfJson? room body
    | "Bool" => match room with
      | inner + 2 => boolOfJson? (ofJson? inner) body
      | _ => none
    | _ => none
  | _, _ => none

end Query

/-- A search; the timeout may be left out. -/
def SearchRequest.ofJson? (room : Nat) (t : Tree) : Option SearchRequest :=
  within room fun room => do
    match ← RecordForm.parts? { names := ["query", "timeout"] } t with
    | [query, timeout] =>
      return {
        query := ← required (Query.ofJson? room) query
        timeout := ← optional (Duration.ofJson? room) timeout }
    | _ => none

/-- A facet definition; every part may be left out. -/
def FacetDefinition.ofJson? (room : Nat) (t : Tree) : Option FacetDefinition :=
  within room fun room => do
    let form : RecordForm := {
      names := ["name", "mode", "aggregation", "aggregation_field", "ranges", "term_sort_mode",
        "max_results", "include_remaining_terms"]
      least := 0 }
    match ← form.parts? t with
    | [name, mode, aggregation, field, ranges, order, maxResults, remaining] =>
      let texts := fun t => within room fun _ => Tree.items? Tree.text? t
      return {
        name := ← defaulted "" Tree.text? name
        mode := ← defaulted .terms (Tree.choice? FacetMode.ofName? room) mode
        aggregation := ← defaulted .count (Tree.choice? Aggregation.ofName? room) aggregation
        aggregationField := ← optional Tree.text? field
        ranges := ← defaulted [] texts ranges
        order := ← defaulted .termAscending (Tree.choice? TermOrder.ofName? room) order
        maxResults := ← optional (Tree.word? 64) maxResults
        includeRemaining := ← defaulted false Tree.boolean? remaining }
    | _ => none

namespace FacetRequest

/-- How many containers may be nested in what is read of a request. -/
def nestingLimit : Nat := 127

/-- A request; the page may be left out. -/
def ofJson? (t : Tree) : Option FacetRequest :=
  within nestingLimit fun room => do
    let form : RecordForm := { names := ["query", "facets", "start", "page_size"], least := 2 }
    match ← form.parts? t with
    | [search, facets, start, pageSize] =>
      let definitions := fun t => within room fun room =>
        Tree.items? (FacetDefinition.ofJson? room) t
      return {
        search := ← required (SearchRequest.ofJson? room) search
        facets := ← required definitions facets
        start := ← defaulted 0 (Tree.word? 64) start
        pageSize := ← optional (Tree.word? 64) pageSize }
    | _ => none

/-- The request that a JSON text spells. -/
def parse (text : String) : Except Error FacetRequest :=
  match (Tree.read? text).bind ofJson? with
  | some r => .ok r
  | none => .error .malformedRequest

end FacetRequest

end FacetedSearch
