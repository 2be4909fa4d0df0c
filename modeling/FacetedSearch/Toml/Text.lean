import FacetedSearch.Number.Hex
import FacetedSearch.Toml.Layout

/-!
# FacetedSearch.Toml.Text — quoted texts of TOML

A text stands between quotes or between apostrophes, and only between quotes does it have escapes.
One between single marks stays on its line.  One between triple marks may have several lines; a
line end right behind its opening marks is no part of it, and up to two marks may stand before its
closing ones.
-/

namespace FacetedSearch.Toml

/-- The character that a backslash and a letter stand for. -/
def escaped? (letter : Char) : Option Char :=
  match letter with
  | 'b' => some '\x08'
  | 't' => some '\t'
  | 'n' => some '\n'
  | 'f' => some '\x0c'
  | 'r' => some '\r'
  | '"' => some '"'
  | '\\' => some '\\'
  | _ => none

/-- The character of a code point; a surrogate is none. -/
def character? (code : Nat) : Option Char :=
  if h : code.isValidChar then some (Char.ofNatAux code h) else none

/-- A character spelled by its code point in hexadecimal digits. -/
def coded? (digits : List Char) : Option Char := (Hex.read? digits).bind character?

/-- A character behind its backslash. -/
def escape? (s : List Char) : Option (Char × List Char) :=
  match s with
  | 'u' :: a :: b :: c :: d :: rest => (coded? [a, b, c, d]).map fun x => (x, rest)
  | 'U' :: a :: b :: c :: d :: e :: f :: g :: h :: rest =>
    (coded? [a, b, c, d, e, f, g, h]).map fun x => (x, rest)
  | letter :: rest => (escaped? letter).map fun x => (x, rest)
  | [] => none

theorem length_escape?_lt {s rest : List Char} {x : Char} (h : escape? s = some (x, rest)) :
    rest.length < s.length := by
  unfold escape? at h
  split at h
  · obtain ⟨_, _, h⟩ := Option.map_eq_some_iff.mp h
    cases h; simp only [List.length_cons]; omega
  · obtain ⟨_, _, h⟩ := Option.map_eq_some_iff.mp h
    cases h; simp only [List.length_cons]; omega
  · obtain ⟨_, _, h⟩ := Option.map_eq_some_iff.mp h
    cases h; simp only [List.length_cons]; omega
  · cases h

/-- A text with escapes on one line, behind its opening quote. -/
def quoted? (s : List Char) : Option (List Char × List Char) :=
  match s with
  | [] => none
  | '"' :: rest => some ([], rest)
  | '\\' :: rest =>
    match _h : escape? rest with
    | none => none
    | some (x, behind) => (quoted? behind).map fun (text, rest) => (x :: text, rest)
  | c :: rest =>
    if isPlain c then (quoted? rest).map fun (text, rest) => (c :: text, rest) else none
termination_by s.length
decreasing_by
  · have := length_escape?_lt _h
    simp only [List.length_cons]; omega
  · simp only [List.length_cons]; omega

/-- A text without escapes on one line, behind its opening apostrophe. -/
def literal? (s : List Char) : Option (List Char × List Char) :=
  let text := s.takeWhile fun c => isPlain c && c != '\''
  match s.drop text.length with
  | '\'' :: rest => some (text, rest)
  | _ => none

/-- What stands behind a line end that a backslash takes away, with all blanks and further line
ends. -/
def joined? (s : List Char) : Option (List Char) :=
  match skipGap s with
  | '\n' :: rest => some (rest.dropWhile fun c => isGap c || c == '\n')
  | _ => none

theorem length_joined?_lt {s rest : List Char} (h : joined? s = some rest) :
    rest.length < s.length := by
  have hle := length_skipGap_le s
  unfold joined? at h
  split at h
  · rename_i behind hs
    have hd := (List.dropWhile_sublist (l := behind) fun c => isGap c || c == '\n').length_le
    cases h
    rw [hs, List.length_cons] at hle
    omega
  · cases h

/-- A text with escapes on several lines, behind its opening quotes. -/
def longQuoted? (s : List Char) : Option (List Char × List Char) :=
  match s with
  | [] => none
  | '"' :: '"' :: '"' :: '"' :: '"' :: rest => some (['"', '"'], rest)
  | '"' :: '"' :: '"' :: '"' :: rest => some (['"'], rest)
  | '"' :: '"' :: '"' :: rest => some ([], rest)
  | '\\' :: rest =>
    match _hj : joined? rest, _he : escape? rest with
    | some behind, _ => longQuoted? behind
    | none, some (x, behind) => (longQuoted? behind).map fun (text, rest) => (x :: text, rest)
    | none, none => none
  | c :: rest =>
    if isPlain c || c == '\n' then (longQuoted? rest).map fun (text, rest) => (c :: text, rest)
    else none
termination_by s.length
decreasing_by
  · have := length_joined?_lt _hj
    simp only [List.length_cons]; omega
  · have := length_escape?_lt _he
    simp only [List.length_cons]; omega
  · simp only [List.length_cons]; omega

/-- A text without escapes on several lines, behind its opening apostrophes. -/
def longLiteral? : Scan (List Char)
  | [] => none
  | '\'' :: '\'' :: '\'' :: '\'' :: '\'' :: rest => some (['\'', '\''], rest)
  | '\'' :: '\'' :: '\'' :: '\'' :: rest => some (['\''], rest)
  | '\'' :: '\'' :: '\'' :: rest => some ([], rest)
  | c :: rest =>
    if isPlain c || c == '\n' then (longLiteral? rest).map fun (text, rest) => (c :: text, rest)
    else none

/-- A text without the line end that may stand at its start. -/
def withoutBreak (s : List Char) : List Char :=
  match s with
  | '\n' :: rest => rest
  | _ => s

/-- A text that stays on its line, of either kind. -/
def lineText? : Scan (List Char)
  | '"' :: rest => quoted? rest
  | '\'' :: rest => literal? rest
  | _ => none

/-- A text of any kind. -/
def text? : Scan (List Char)
  | '"' :: '"' :: '"' :: rest => longQuoted? (withoutBreak rest)
  | '\'' :: '\'' :: '\'' :: rest => longLiteral? (withoutBreak rest)
  | s => lineText? s

end FacetedSearch.Toml
