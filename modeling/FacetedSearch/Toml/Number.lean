import FacetedSearch.Number.Hex
import FacetedSearch.Number.Binary
import FacetedSearch.Toml.Layout

/-!
# FacetedSearch.Toml.Number — numbers of TOML

A whole number is written in decimal with an optional sign, or without one in base sixteen, eight
or two.  A number with a fraction or an exponent is a floating-point number.  Digits may be set
apart by single underscores.
-/

namespace FacetedSearch.Toml

/-- The digits behind another digit, without the underscores between them. -/
def furtherDigits (isDigit : Char → Bool) : List Char → List Char × List Char
  | '_' :: c :: rest =>
    if isDigit c then
      let (digits, rest) := furtherDigits isDigit rest
      (c :: digits, rest)
    else ([], '_' :: c :: rest)
  | c :: rest =>
    if isDigit c then
      let (digits, rest) := furtherDigits isDigit rest
      (c :: digits, rest)
    else ([], c :: rest)
  | [] => ([], [])

/-- A run of at least one digit. -/
def digits? (isDigit : Char → Bool) : Scan (List Char)
  | c :: rest =>
    if isDigit c then
      let (digits, rest) := furtherDigits isDigit rest
      some (c :: digits, rest)
    else none
  | [] => none

/-- A whole number in decimal without a sign: a zero alone, or digits that do not start with
one. -/
def decimal? (s : List Char) : Option (List Char × List Char) :=
  match s with
  | '0' :: rest => some (['0'], rest)
  | _ => digits? Char.isDigit s

/-- Whether there is a minus, and the text behind an optional sign. -/
def sign (s : List Char) : Bool × List Char :=
  match s with
  | '-' :: rest => (true, rest)
  | '+' :: rest => (false, rest)
  | _ => (false, s)

/-- Whether a character is a digit below a base up to sixteen. -/
def isBaseDigit (base : Nat) (c : Char) : Bool := (Hex.value? c).any fun v => decide (v < base)

/-- The value of digits in a base. -/
def baseValue (base : Nat) (digits : List Char) : Nat :=
  digits.foldl (fun n c => base * n + (Hex.value? c).getD 0) 0

/-- A whole number in another base, behind its mark. -/
def based? (base : Nat) (s : List Char) : Option (Int × List Char) :=
  (digits? (isBaseDigit base) s).map fun (digits, rest) => ((baseValue base digits : Int), rest)

/-- A whole number, in whatever base it is written. -/
def integer? (s : List Char) : Option (Int × List Char) :=
  match s with
  | '0' :: 'x' :: rest => based? 16 rest
  | '0' :: 'o' :: rest => based? 8 rest
  | '0' :: 'b' :: rest => based? 2 rest
  | _ =>
    let (negative, s) := sign s
    (decimal? s).map fun (digits, rest) =>
      let n := baseValue 10 digits
      (if negative then -(n : Int) else n, rest)

/-- The digits of a fraction behind its point. -/
def fraction? (s : List Char) : Option (List Char × List Char) :=
  match s with
  | '.' :: rest => digits? Char.isDigit rest
  | _ => none

/-- An exponent behind its mark. -/
def exponent? (s : List Char) : Option (Int × List Char) :=
  match s with
  | c :: rest =>
    if c == 'e' || c == 'E' then
      let (negative, rest) := sign rest
      (digits? Char.isDigit rest).map fun (digits, rest) =>
        let n := baseValue 10 digits
        (if negative then -(n : Int) else n, rest)
    else none
  | [] => none

/-- A number with a fraction or an exponent, as the nearest floating-point number.  One beyond the
greatest is refused. -/
def float? (s : List Char) : Option (Double × List Char) := do
  let (negative, s) := sign s
  let (whole, s) ← decimal? s
  let value := fun digits exponent rest => do
    let x := Binary.ofDecimal negative (baseValue 10 (whole ++ digits)) (exponent - digits.length)
    if x == Binary.inf false then none else return (x, rest)
  match fraction? s with
  | some (digits, rest) => match exponent? rest with
    | some (exponent, rest) => value digits exponent rest
    | none => value digits 0 rest
  | none => match exponent? s with
    | some (exponent, rest) => value [] exponent rest
    | none => none

/-- The infinities, and what is no number. -/
def special? (s : List Char) : Option (Double × List Char) :=
  let (negative, s) := sign s
  match s with
  | 'i' :: 'n' :: 'f' :: rest => some (Binary.inf negative, rest)
  | 'n' :: 'a' :: 'n' :: rest => some (Binary.nan, rest)
  | _ => none

end FacetedSearch.Toml
