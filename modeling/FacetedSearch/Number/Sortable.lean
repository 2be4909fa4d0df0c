import FacetedSearch.Error
import FacetedSearch.Number
import FacetedSearch.Number.Hex

/-!
# FacetedSearch.Number.Sortable — numbers as terms in numeric order

A number is indexed as a tag for its type and the fixed-width hexadecimal digits of its *rank*,
its place among all numbers of the type.  So the ordinal order of two such terms of one type is
the order of their ranks: whole numbers in numeric order, floating-point numbers with the negative
patterns first and the larger magnitude first among those.
-/

namespace FacetedSearch

namespace NumberType

/-- The character in front of the digits. -/
def tag : NumberType → Char
  | .int => 'i'
  | .long => 'l'
  | .float => 'f'
  | .double => 'd'

/-- How many hexadecimal digits a rank takes. -/
def width : NumberType → Nat
  | .int | .float => 8
  | .long | .double => 16

end NumberType

namespace Binary

variable {f : BinaryFormat}

/-- The place of a pattern among all patterns of its format. -/
def rank (x : Binary f) : Nat :=
  if x.negative then 2 * f.signWeight - 1 - x.pattern else x.pattern + f.signWeight

/-- The number of a place. -/
def ofRank (r : Nat) : Binary f :=
  ofPattern (if f.signWeight ≤ r then r - f.signWeight else 2 * f.signWeight - 1 - r)

end Binary

namespace Number

/-- The place of a number among all numbers of its type. -/
def rank : Number → Nat
  | .int v => (v.toInt + 2147483648).toNat
  | .long v => (v.toInt + 9223372036854775808).toNat
  | .float v => v.rank
  | .double v => v.rank

/-- The term of a number. -/
def encode (n : Number) : String :=
  String.ofList (n.type.tag :: Hex.write n.type.width n.rank)

end Number

namespace Sortable

/-- How many bytes some characters take. -/
def byteCount : List Char → Nat
  | [] => 0
  | c :: cs => c.utf8Size + byteCount cs

/-- The digits behind the tag of a type: the text has to start with the tag, and what follows has
to fill as many bytes as the type has digits. -/
def payload (type : NumberType) (text : String) : Except Error (List Char) :=
  match text.toList with
  | c :: rest =>
    if c = type.tag ∧ byteCount rest = type.width then .ok rest
    else .error (.sortableWidth type.tag type.width text)
  | [] => .error (.sortableWidth type.tag type.width text)

/-- The rank behind the tag of a type.  The digits may stand in either case, and a plus sign may
take the place of the first. -/
def rank (type : NumberType) (text : String) : Except Error Nat := do
  let digits ← payload type text
  let digits := if digits.head? = some '+' then digits.tail else digits
  match Hex.read? digits with
  | some r => .ok r
  | none => .error (.sortableDigits text)

/-- The 32-bit whole number of a term. -/
def decodeInt (text : String) : Except Error Int32 :=
  (rank .int text).map fun r => Int32.ofInt (r - 2147483648)

/-- The 64-bit whole number of a term. -/
def decodeLong (text : String) : Except Error Int64 :=
  (rank .long text).map fun r => Int64.ofInt (r - 9223372036854775808)

/-- The 32-bit floating-point number of a term. -/
def decodeFloat (text : String) : Except Error Single := (rank .float text).map Binary.ofRank

/-- The 64-bit floating-point number of a term. -/
def decodeDouble (text : String) : Except Error Double := (rank .double text).map Binary.ofRank

/-- The number of a term, whose tag tells its type. -/
def decode (text : String) : Except Error Number :=
  match text.toList.head? with
  | some 'i' => (decodeInt text).map .int
  | some 'l' => (decodeLong text).map .long
  | some 'f' => (decodeFloat text).map .float
  | some 'd' => (decodeDouble text).map .double
  | _ => .error (.sortableTag text)

end Sortable

end FacetedSearch
