import FacetedSearch.Number.Binary

/-!
# FacetedSearch.Number.Shortest — the shortest decimal that reads back

A finite magnitude is the nearest pattern to every real number of an interval around it, whose
ends lie half way to its neighbours and belong to it when its pattern is even.  Among the decimals
in that interval the text uses one with the fewest digits, and of those the nearest; the greater
of two equally near.  It is written out in full, without an exponent.
-/

namespace FacetedSearch

/-- A decimal `digits * 10 ^ exponent`. -/
structure Decimal where
  digits : Nat
  exponent : Int
deriving DecidableEq

namespace BinaryFormat

/-- A multiple of `10 ^ e` in the interval of the magnitude pattern `m`, nearest to its value. -/
def decimalOn (f : BinaryFormat) (m : Nat) (e : Int) : Option Nat :=
  let scale := Nat.pow 10 (-e).toNat
  let value := 2 * f.units m * scale
  let low := (f.units m + f.units (m - 1)) * scale
  let high := (f.units m + f.units (m + 1)) * scale
  let step := 2 * f.unitsPerOne * Nat.pow 10 e.toNat
  let inside (d : Nat) : Bool :=
    if m % 2 = 0 then decide (low ≤ d * step) && decide (d * step ≤ high)
    else decide (low < d * step) && decide (d * step < high)
  let d := value / step
  if inside d && (!inside (d + 1) || decide (value - d * step < (d + 1) * step - value)) then some d
  else if inside (d + 1) then some (d + 1)
  else none

/-- The shortest decimal for the magnitude pattern `m`: the first found from the coarsest grid
down.  On the grid whose step divides the units the magnitude itself is found. -/
def shortest (f : BinaryFormat) (m : Nat) : Decimal :=
  let top := (toString (f.units m / f.unitsPerOne)).length
  let grids := (List.range (top + f.unitBits + 1)).map fun (i : Nat) => (top : Int) - i
  (grids.findSome? fun e => (f.decimalOn m e).map fun d => ⟨d, e⟩).getD ⟨0, 0⟩

end BinaryFormat

/-- The decimal written out in full: zeros fill the places up to the point on either side. -/
def Decimal.positional (d : Decimal) : List Char :=
  let digits := Nat.toDigits 10 d.digits
  if 0 ≤ d.exponent then digits ++ List.replicate d.exponent.toNat '0'
  else
    let places := (-d.exponent).toNat
    let padded := List.replicate (places + 1 - digits.length) '0' ++ digits
    let whole := padded.length - places
    padded.take whole ++ '.' :: padded.drop whole

namespace Binary

variable {f : BinaryFormat}

/-- The text of a number: a sign for a set sign bit, the shortest decimal, and a word where the
pattern stands for an infinity or for no number. -/
def toText (x : Binary f) : String :=
  if x.isNaN then "NaN"
  else
    let body :=
      if x.isInfinite then ['i', 'n', 'f']
      else if x.magnitude = 0 then ['0']
      else (f.shortest x.magnitude).positional
    String.ofList (if x.negative then '-' :: body else body)

end Binary

end FacetedSearch
