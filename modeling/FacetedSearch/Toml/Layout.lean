/-!
# FacetedSearch.Toml.Layout — blanks, comments and line ends of TOML

Each reader of this format takes what it reads from the front of a text and gives it with the rest
of the text.  The readers see line feeds only: `withoutReturns` takes away the carriage return that
may precede one, and no reader takes any other.
-/

namespace FacetedSearch.Toml

/-- What is taken from the front of a text, and the rest of the text. -/
abbrev Scan (α : Type) := List Char → Option (α × List Char)

/-- Whether a character may stand in a comment or a text as it is: the tab, and all that are no
control characters. -/
def isPlain (c : Char) : Bool := c == '\t' || (decide (0x20 ≤ c.toNat) && c != '\x7f')

/-- Whether a character is blank within a line. -/
def isGap (c : Char) : Bool := c == ' ' || c == '\t'

/-- The text behind blanks. -/
def skipGap (s : List Char) : List Char := s.dropWhile isGap

/-- The text behind blanks, comments and line ends.  A comment that no line end closes is
refused. -/
def skipFiller (comment : Bool) : List Char → Option (List Char)
  | [] => if comment then none else some []
  | c :: rest =>
    if c == '\n' then skipFiller false rest
    else if comment then if isPlain c then skipFiller true rest else none
    else if c == '#' then skipFiller true rest
    else if isGap c then skipFiller false rest
    else some (c :: rest)

/-- The text behind the line, where nothing but a comment stands on the rest of it. -/
def lineEnd? (s : List Char) : Option (List Char) :=
  let behind := match skipGap s with
    | '#' :: comment => comment.dropWhile isPlain
    | s => s
  match behind with
  | [] => some []
  | '\n' :: rest => some rest
  | _ => none

/-- A text without the carriage returns that precede line feeds. -/
def withoutReturns : List Char → List Char
  | '\r' :: '\n' :: rest => '\n' :: withoutReturns rest
  | c :: rest => c :: withoutReturns rest
  | [] => []

/-- A text without the mark that may stand at its start. -/
def withoutMark (s : List Char) : List Char :=
  match s with
  | '\ufeff' :: rest => rest
  | _ => s

theorem length_skipGap_le (s : List Char) : (skipGap s).length ≤ s.length :=
  (List.dropWhile_sublist _).length_le

end FacetedSearch.Toml
