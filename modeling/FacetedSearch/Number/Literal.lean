import FacetedSearch.Number
import FacetedSearch.Text.CharClass

/-!
# FacetedSearch.Number.Literal — numbers as people write them

A numeric literal is an optional minus, digits, an optional fraction, an optional exponent and an
optional letter for the type.  Any script's decimal digits make a text look like a number, but
only the digits 0 to 9 give it a value.  Without a type letter a whole number takes the narrowest
type that holds it, and everything else is a 64-bit floating-point number.
-/

namespace FacetedSearch

/-- The parts of a numeric literal, as they are written. -/
structure Literal where
  negative : Bool
  whole : List Char
  /-- The digits behind the point. -/
  fraction : Option (List Char)
  /-- Whether the exponent is negative, and its digits. -/
  exponent : Option (Bool × List Char)
  /-- The letter for the type, in upper case. -/
  type : Option Char
deriving DecidableEq

namespace Literal

/-- A run of at least one digit, and what follows it. -/
def digits? (s : List Char) : Option (List Char × List Char) :=
  let run := s.takeWhile Text.isDigit
  if run.isEmpty then none else some (run, s.dropWhile Text.isDigit)

/-- An optional minus. -/
def sign (s : List Char) : Bool × List Char :=
  match s with
  | '-' :: rest => (true, rest)
  | _ => (false, s)

/-- An optional fraction; a point without digits behind it is refused. -/
def fraction? (s : List Char) : Option (Option (List Char) × List Char) :=
  match s with
  | '.' :: rest => (digits? rest).map fun (d, rest) => (some d, rest)
  | _ => some (none, s)

/-- An optional exponent, which may have a sign; a mark without digits behind it is refused. -/
def exponent? (s : List Char) : Option (Option (Bool × List Char) × List Char) :=
  match s with
  | c :: rest =>
    if c = 'e' ∨ c = 'E' then
      match rest with
      | '-' :: rest => (digits? rest).map fun (d, rest) => (some (true, d), rest)
      | '+' :: rest => (digits? rest).map fun (d, rest) => (some (false, d), rest)
      | _ => (digits? rest).map fun (d, rest) => (some (false, d), rest)
    else some (none, s)
  | [] => some (none, s)

/-- An optional letter for the type, at the end of the text. -/
def type? (s : List Char) : Option (Option Char) :=
  match s with
  | [] => some none
  | ['l'] | ['L'] => some (some 'L')
  | ['f'] | ['F'] => some (some 'F')
  | ['d'] | ['D'] => some (some 'D')
  | _ => none

/-- The parts of a text, if it is a numeric literal. -/
def ofChars? (s : List Char) : Option Literal := do
  let (negative, s) := sign s
  let (whole, s) ← digits? s
  let (fraction, s) ← fraction? s
  let (exponent, s) ← exponent? s
  let type ← type? s
  return { negative, whole, fraction, exponent, type }

/-- The value of a run of the digits 0 to 9, after `acc` in front of it. -/
def valueFrom (acc : Nat) : List Char → Option Nat
  | [] => some acc
  | c :: cs =>
    if '0'.toNat ≤ c.toNat ∧ c.toNat ≤ '9'.toNat then
      valueFrom (10 * acc + (c.toNat - '0'.toNat)) cs
    else none

/-- The value of a run of the digits 0 to 9. -/
def value? (digits : List Char) : Option Nat := valueFrom 0 digits

/-- The number with a sign in front of it. -/
def signed (negative : Bool) (n : Nat) : Int := if negative then -(n : Int) else n

/-- The whole number that the literal spells, if it has neither fraction nor exponent. -/
def integer? (l : Literal) : Option Int :=
  if l.fraction.isSome || l.exponent.isSome then none
  else (value? l.whole).map (signed l.negative)

/-- The digits of whole part and fraction as one number, and the power of ten it counts. -/
def decimal? (l : Literal) : Option (Nat × Int) := do
  let fraction := l.fraction.getD []
  let digits ← value? (l.whole ++ fraction)
  let (negative, exponent) := l.exponent.getD (false, [])
  let exponent ← value? exponent
  return (digits, signed negative exponent - (fraction.length : Nat))

/-- The nearest floating-point number. -/
def binary? (f : BinaryFormat) (l : Literal) : Option (Binary f) :=
  l.decimal?.map fun (digits, exponent) => Binary.ofDecimal l.negative digits exponent

/-- Whether a whole number fits 32 bits. -/
def fitsInt (i : Int) : Bool := decide (-2147483648 ≤ i) && decide (i < 2147483648)

/-- Whether a whole number fits 64 bits. -/
def fitsLong (i : Int) : Bool :=
  decide (-9223372036854775808 ≤ i) && decide (i < 9223372036854775808)

theorem fitsInt_iff {i : Int} : fitsInt i = true ↔ -2147483648 ≤ i ∧ i < 2147483648 := by
  simp [fitsInt]

theorem fitsLong_iff {i : Int} :
    fitsLong i = true ↔ -9223372036854775808 ≤ i ∧ i < 9223372036854775808 := by
  simp [fitsLong]

/-- The 64-bit whole number that the literal spells. -/
def long? (l : Literal) : Option Int64 := (l.integer?.filter fitsLong).map Int64.ofInt

/-- The number of a literal: of the type that its letter names, or of the narrowest type. -/
def number? (l : Literal) : Option Number :=
  match l.type with
  | some 'L' => l.long?.map .long
  | some 'F' => (l.binary? .single).map .float
  | some _ => (l.binary? .double).map .double
  | none =>
    match l.integer? with
    | some i =>
      if fitsInt i then some (.int (Int32.ofInt i))
      else if fitsLong i then some (.long (Int64.ofInt i))
      else (l.binary? .double).map .double
    | none => (l.binary? .double).map .double

end Literal

/-- Whether a text looks like a number. -/
def isNumericLiteral (text : String) : Bool := (Literal.ofChars? text.toList).isSome

/-- The number that a text spells. -/
def parseNumber? (text : String) : Option Number :=
  (Literal.ofChars? text.toList).bind Literal.number?

end FacetedSearch
