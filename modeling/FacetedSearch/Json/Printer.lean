import FacetedSearch.Json.Token
import FacetedSearch.Json.Tree

/-!
# FacetedSearch.Json.Printer — trees written as text

A tree is written as its tokens one behind the other, with nothing between them.
-/

namespace FacetedSearch.Json

namespace Tree

mutual

/-- The tokens of a tree. -/
def tokens : Tree → List Token
  | .null => [.null]
  | .boolean b => [.boolean b]
  | .natural n => [.natural n]
  | .otherNumber => [.otherNumber]
  | .text s => [.text s]
  | .list items => .openList :: itemTokens items
  | .object members => .openObject :: memberTokens members

/-- The tokens of the items of a list, and of its end. -/
def itemTokens : List Tree → List Token
  | [] => [.closeList]
  | item :: rest => item.tokens ++ furtherItems rest

/-- The tokens of the items behind another, and of the end of the list. -/
def furtherItems : List Tree → List Token
  | [] => [.closeList]
  | item :: rest => .comma :: item.tokens ++ furtherItems rest

/-- The tokens of the members of an object, and of its end. -/
def memberTokens : List (Option String × Tree) → List Token
  | [] => [.closeObject]
  | (key, value) :: rest => .text key :: .colon :: value.tokens ++ furtherMembers rest

/-- The tokens of the members behind another, and of the end of the object. -/
def furtherMembers : List (Option String × Tree) → List Token
  | [] => [.closeObject]
  | (key, value) :: rest =>
    .comma :: .text key :: .colon :: value.tokens ++ furtherMembers rest

end

/-- The text of a tree. -/
def render (t : Tree) : String := String.ofList (t.tokens.flatMap Token.spell)

end Tree

end FacetedSearch.Json
