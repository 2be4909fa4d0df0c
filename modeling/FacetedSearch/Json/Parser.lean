import FacetedSearch.Json.Token
import FacetedSearch.Json.Tree

/-!
# FacetedSearch.Json.Parser — trees from tokens

The tokens are taken in one by one.  The state says what may come next and keeps the containers
that are open, each with what it holds so far, the latest first.  A text is one value and nothing
behind it.
-/

namespace FacetedSearch.Json

/-- An open container that waits for a value. -/
inductive Frame
  | list (items : List Tree)
  | object (members : List (Option String × Tree)) (key : Option String)

/-- What may come next, and the open containers around it. -/
inductive Reading
  /-- A value. -/
  | expectValue (around : List Frame)
  /-- The first item of a list, or its end. -/
  | expectItem (around : List Frame)
  /-- The first key of an object, or its end. -/
  | expectMember (around : List Frame)
  /-- A further key of an object. -/
  | expectKey (members : List (Option String × Tree)) (around : List Frame)
  /-- The colon behind a key. -/
  | expectColon (members : List (Option String × Tree)) (key : Option String) (around : List Frame)
  /-- Whatever stands behind a finished value. -/
  | behind (value : Tree) (around : List Frame)

namespace Reading

/-- Take in a token where a value has to come. -/
def start (around : List Frame) : Token → Option Reading
  | .openList => some (.expectItem around)
  | .openObject => some (.expectMember around)
  | .null => some (.behind .null around)
  | .boolean b => some (.behind (.boolean b) around)
  | .natural n => some (.behind (.natural n) around)
  | .otherNumber => some (.behind .otherNumber around)
  | .text s => some (.behind (.text s) around)
  | _ => none

/-- Take in a token behind a finished value. -/
def finish (value : Tree) : List Frame → Token → Option Reading
  | .list items :: around, .comma => some (.expectValue (.list (value :: items) :: around))
  | .list items :: around, .closeList => some (.behind (.list (value :: items).reverse) around)
  | .object members key :: around, .comma => some (.expectKey ((key, value) :: members) around)
  | .object members key :: around, .closeObject =>
    some (.behind (.object ((key, value) :: members).reverse) around)
  | _, _ => none

/-- Take in a token. -/
def step : Reading → Token → Option Reading
  | .expectValue around, token => start around token
  | .expectItem around, .closeList => some (.behind (.list []) around)
  | .expectItem around, token => start (.list [] :: around) token
  | .expectMember around, .closeObject => some (.behind (.object []) around)
  | .expectMember around, .text key => some (.expectColon [] key around)
  | .expectKey members around, .text key => some (.expectColon members key around)
  | .expectColon members key around, .colon => some (.expectValue (.object members key :: around))
  | .behind value around, token => finish value around token
  | _, _ => none

/-- The tree that has been read, where it is complete and nothing is open. -/
def tree? : Reading → Option Tree
  | .behind value [] => some value
  | _ => none

end Reading

/-- The tree of a list of tokens. -/
def Tree.ofTokens? (tokens : List Token) : Option Tree :=
  (tokens.foldlM Reading.step (.expectValue [])).bind Reading.tree?

/-- The tree of a text. -/
def Tree.read? (text : String) : Option Tree := (Token.read? text.toList).bind Tree.ofTokens?

end FacetedSearch.Json
