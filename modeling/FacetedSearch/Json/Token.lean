import FacetedSearch.Number.Hex

/-!
# FacetedSearch.Json.Token — the tokens of a JSON text

A text is read into punctuation, words, numbers and quoted texts.  Blanks and line ends stand
between tokens and are no tokens themselves.  `spell` writes a token in its shortest form.
-/

namespace FacetedSearch.Json

/-- A token of a JSON text. -/
inductive Token
  | openList
  | closeList
  | openObject
  | closeObject
  | colon
  | comma
  | null
  | boolean (b : Bool)
  /-- A number without sign, fraction and exponent. -/
  | natural (n : Nat)
  /-- Any other number. -/
  | otherNumber
  /-- A quoted text; `none` is one with half of a surrogate pair. -/
  | text (s : Option String)
deriving DecidableEq

/-- Whether a character may stand between tokens. -/
def isGap (c : Char) : Bool := c == ' ' || c == '\n' || c == '\t' || c == '\r'

/-! ## Quoted texts -/

/-- What one character or one escape of a quoted text stands for. -/
inductive TextUnit
  | char (c : Char)
  /-- Half of a pair that stands for one character. -/
  | surrogate (code : Nat)
deriving DecidableEq

namespace TextUnit

/-- The unit of a 16-bit code. -/
def ofCode (code : Nat) : TextUnit :=
  if 0xD800 ≤ code ∧ code < 0xE000 then .surrogate code else .char (Char.ofNat code)

/-- The text of some units; every half of a pair has to stand next to its other half. -/
def assemble : List TextUnit → Option (List Char)
  | [] => some []
  | .char c :: rest => (assemble rest).map (c :: ·)
  | .surrogate high :: .surrogate low :: rest =>
    if high < 0xDC00 ∧ 0xDC00 ≤ low then
      (assemble rest).map (Char.ofNat (0x10000 + (high - 0xD800) * 0x400 + (low - 0xDC00)) :: ·)
    else none
  | .surrogate _ :: _ => none

end TextUnit

/-- The character that a backslash and a letter stand for. -/
def escaped? (letter : Char) : Option Char :=
  match letter with
  | '"' => some '"'
  | '\\' => some '\\'
  | '/' => some '/'
  | 'b' => some '\x08'
  | 'f' => some '\x0c'
  | 'n' => some '\n'
  | 'r' => some '\r'
  | 't' => some '\t'
  | _ => none

/-- The units up to the closing quote, and what stands behind it.  Control characters have to be
escaped. -/
def quoted? : List Char → Option (List TextUnit × List Char)
  | [] => none
  | '"' :: rest => some ([], rest)
  | '\\' :: 'u' :: a :: b :: c :: d :: rest => do
    let code ← Hex.read? [a, b, c, d]
    let (units, rest) ← quoted? rest
    return (TextUnit.ofCode code :: units, rest)
  | '\\' :: letter :: rest => do
    let c ← escaped? letter
    let (units, rest) ← quoted? rest
    return (.char c :: units, rest)
  | c :: rest =>
    if c.toNat < 0x20 then none
    else do
      let (units, rest) ← quoted? rest
      return (.char c :: units, rest)

theorem length_quoted?_lt {s rest : List Char} {units : List TextUnit}
    (h : quoted? s = some (units, rest)) : rest.length < s.length := by
  fun_induction quoted? s generalizing units rest with
  | case1 => cases h
  | case2 => cases h; exact Nat.lt_succ_self _
  | case3 a b c d tail ih =>
    obtain ⟨code, -, h⟩ := Option.bind_eq_some_iff.mp h
    obtain ⟨⟨u, r⟩, hq, h⟩ := Option.bind_eq_some_iff.mp h
    cases h
    have := ih hq
    simp only [List.length_cons]
    omega
  | case4 letter tail hne ih =>
    obtain ⟨code, -, h⟩ := Option.bind_eq_some_iff.mp h
    obtain ⟨⟨u, r⟩, hq, h⟩ := Option.bind_eq_some_iff.mp h
    cases h
    have := ih hq
    simp only [List.length_cons]
    omega
  | case5 => cases h
  | case6 c tail h1 h2 h3 hc ih =>
    obtain ⟨⟨u, r⟩, hq, h⟩ := Option.bind_eq_some_iff.mp h
    cases h
    have := ih hq
    simp only [List.length_cons]
    omega

/-- The letter that is written behind a backslash for a character, if there is one. -/
def escapeLetter? (c : Char) : Option Char :=
  match c with
  | '"' => some '"'
  | '\\' => some '\\'
  | '\x08' => some 'b'
  | '\x0c' => some 'f'
  | '\n' => some 'n'
  | '\r' => some 'r'
  | '\t' => some 't'
  | _ => none

/-- How a character of a text is written between quotes.  A control character without a letter is
written by its code. -/
def escape (c : Char) : List Char :=
  match escapeLetter? c with
  | some letter => ['\\', letter]
  | none => if c.toNat < 0x20 then '\\' :: 'u' :: Hex.write 4 c.toNat else [c]

/-! ## Numbers -/

/-- A run of at least one digit, and what stands behind it. -/
def digits? (s : List Char) : Option (List Char × List Char) :=
  let run := s.takeWhile Char.isDigit
  if run.isEmpty then none else some (run, s.dropWhile Char.isDigit)

/-- The whole part of a number: a zero alone, or digits that do not start with one. -/
def whole? (s : List Char) : Option (List Char × List Char) :=
  match s with
  | '0' :: rest => some (['0'], rest)
  | _ => digits? s

/-- Whether there is a fraction, and what stands behind it. -/
def fraction? (s : List Char) : Option (Bool × List Char) :=
  match s with
  | '.' :: rest => (digits? rest).map fun (_, rest) => (true, rest)
  | _ => some (false, s)

/-- What stands behind an optional sign. -/
def skipSign (s : List Char) : List Char :=
  match s with
  | '+' :: rest => rest
  | '-' :: rest => rest
  | _ => s

/-- Whether there is an exponent, and what stands behind it. -/
def exponent? (s : List Char) : Option (Bool × List Char) :=
  match s with
  | 'e' :: rest => (digits? (skipSign rest)).map fun (_, rest) => (true, rest)
  | 'E' :: rest => (digits? (skipSign rest)).map fun (_, rest) => (true, rest)
  | _ => some (false, s)

/-- A number without a sign, and what stands behind it. -/
def unsigned? (s : List Char) : Option (Token × List Char) := do
  let (digits, s) ← whole? s
  let (fraction, s) ← fraction? s
  let (exponent, s) ← exponent? s
  return (if fraction || exponent then .otherNumber else .natural (Nat.ofDigitChars 10 digits 0), s)

theorem length_digits?_lt {s run rest : List Char} (h : digits? s = some (run, rest)) :
    rest.length < s.length := by
  unfold digits? at h
  cases s with
  | nil => cases h
  | cons c cs =>
    by_cases hc : c.isDigit = true
    · simp only [List.takeWhile_cons, List.dropWhile_cons, hc, if_true, List.isEmpty_cons,
        Bool.false_eq_true, if_false, Option.some.injEq, Prod.mk.injEq] at h
      rw [← h.2, List.length_cons]
      exact Nat.lt_succ_of_le (List.dropWhile_sublist _).length_le
    · simp [hc] at h

theorem length_whole?_lt {s run rest : List Char} (h : whole? s = some (run, rest)) :
    rest.length < s.length := by
  unfold whole? at h
  split at h
  · cases h; exact Nat.lt_succ_self _
  · exact length_digits?_lt h

theorem length_fraction?_le {s rest : List Char} {b : Bool} (h : fraction? s = some (b, rest)) :
    rest.length ≤ s.length := by
  unfold fraction? at h
  split at h
  · obtain ⟨⟨d, r⟩, hd, h⟩ := Option.map_eq_some_iff.mp h
    cases h
    exact Nat.le_succ_of_le (Nat.le_of_lt (length_digits?_lt hd))
  · cases h; exact Nat.le_refl _

theorem length_skipSign_le (s : List Char) : (skipSign s).length ≤ s.length := by
  unfold skipSign
  split <;> simp

theorem length_exponent?_le {s rest : List Char} {b : Bool} (h : exponent? s = some (b, rest)) :
    rest.length ≤ s.length := by
  unfold exponent? at h
  split at h
  case h_3 => cases h; exact Nat.le_refl _
  all_goals
    obtain ⟨⟨d, r⟩, hd, h⟩ := Option.map_eq_some_iff.mp h
    cases h
    have h1 := length_digits?_lt hd
    rename_i tail
    have h2 := length_skipSign_le tail
    simp only [List.length_cons]
    omega

theorem length_unsigned?_lt {s rest : List Char} {t : Token} (h : unsigned? s = some (t, rest)) :
    rest.length < s.length := by
  unfold unsigned? at h
  obtain ⟨⟨d, r1⟩, h1, h⟩ := Option.bind_eq_some_iff.mp h
  obtain ⟨⟨f, r2⟩, h2, h⟩ := Option.bind_eq_some_iff.mp h
  obtain ⟨⟨e, r3⟩, h3, h⟩ := Option.bind_eq_some_iff.mp h
  cases h
  have := length_whole?_lt h1
  have := length_fraction?_le h2
  have := length_exponent?_le h3
  omega

/-! ## Tokens -/

namespace Token

/-- The token at the front of a text that starts with no gap, and what stands behind it. -/
def next? : List Char → Option (Token × List Char)
  | '[' :: rest => some (.openList, rest)
  | ']' :: rest => some (.closeList, rest)
  | '\x7b' :: rest => some (.openObject, rest)
  | '\x7d' :: rest => some (.closeObject, rest)
  | ':' :: rest => some (.colon, rest)
  | ',' :: rest => some (.comma, rest)
  | 'n' :: 'u' :: 'l' :: 'l' :: rest => some (.null, rest)
  | 't' :: 'r' :: 'u' :: 'e' :: rest => some (.boolean true, rest)
  | 'f' :: 'a' :: 'l' :: 's' :: 'e' :: rest => some (.boolean false, rest)
  | '"' :: rest => do
    let (units, rest) ← quoted? rest
    return (.text ((TextUnit.assemble units).map String.ofList), rest)
  | '-' :: rest => (unsigned? rest).map fun (_, rest) => (.otherNumber, rest)
  | s => unsigned? s

/-- A token takes up some of the text. -/
theorem length_next?_lt {s rest : List Char} {t : Token} (h : next? s = some (t, rest)) :
    rest.length < s.length := by
  unfold next? at h
  split at h
  case h_10 =>
    obtain ⟨⟨u, r⟩, hq, h⟩ := Option.bind_eq_some_iff.mp h
    cases h
    exact Nat.lt_succ_of_lt (length_quoted?_lt hq)
  case h_11 =>
    obtain ⟨⟨u, r⟩, hu, h⟩ := Option.map_eq_some_iff.mp h
    cases h
    exact Nat.lt_succ_of_lt (length_unsigned?_lt hu)
  case h_12 => exact length_unsigned?_lt h
  all_goals
    cases h
    simp only [List.length_cons]
    omega

/-- The tokens of a text, if it consists of tokens. -/
def read? (s : List Char) : Option (List Token) :=
  match _hs : s.dropWhile isGap with
  | [] => some []
  | c :: rest =>
    match _ht : next? (c :: rest) with
    | none => none
    | some (token, behind) => (read? behind).map (token :: ·)
termination_by s.length
decreasing_by
  have h := length_next?_lt _ht
  rw [← _hs] at h
  exact Nat.lt_of_lt_of_le h (List.dropWhile_sublist isGap).length_le

/-- How a token is written. -/
def spell : Token → List Char
  | .openList => ['[']
  | .closeList => [']']
  | .openObject => ['\x7b']
  | .closeObject => ['\x7d']
  | .colon => [':']
  | .comma => [',']
  | .null => ['n', 'u', 'l', 'l']
  | .boolean true => ['t', 'r', 'u', 'e']
  | .boolean false => ['f', 'a', 'l', 's', 'e']
  | .natural n => Nat.toDigits 10 n
  | .otherNumber => ['-', '0']
  | .text (some s) => '"' :: s.toList.flatMap escape ++ ['"']
  | .text none => ['"', '\\', 'u', 'd', '8', '0', '0', '"']

end Token

end FacetedSearch.Json
