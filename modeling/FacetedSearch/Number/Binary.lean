/-!
# FacetedSearch.Number.Binary — binary floating-point numbers by their patterns

A number of a binary interchange format is its bit pattern: a sign bit, an exponent field and a
fraction field.  Without the sign bit the pattern counts the representable magnitudes in ascending
order, so comparison of magnitudes is comparison of patterns.  Every finite magnitude is a whole
number of *units*, the least positive magnitude; sums and conversions are exact in units and are
rounded once, to the nearest pattern and to the even one of two equally near.
-/

namespace FacetedSearch

/-- The sizes of the two fields of a binary interchange format. -/
structure BinaryFormat where
  /-- Bits of the fraction field. -/
  fractionBits : Nat
  /-- Bits of the exponent field. -/
  exponentBits : Nat
deriving DecidableEq

namespace BinaryFormat

/-- The 32-bit format. -/
def single : BinaryFormat := ⟨23, 8⟩

/-- The 64-bit format. -/
def double : BinaryFormat := ⟨52, 11⟩

/-- One more than the largest magnitude pattern; the weight of the sign bit. -/
def signWeight (f : BinaryFormat) : Nat := Nat.pow 2 (f.fractionBits + f.exponentBits)

/-- The magnitude pattern of infinity; those above it are not numbers. -/
def infinity (f : BinaryFormat) : Nat := (Nat.pow 2 f.exponentBits - 1) * Nat.pow 2 f.fractionBits

/-- How many bits one is wide when counted in units. -/
def unitBits (f : BinaryFormat) : Nat := Nat.pow 2 (f.exponentBits - 1) - 2 + f.fractionBits

/-- How many units make one. -/
def unitsPerOne (f : BinaryFormat) : Nat := Nat.pow 2 f.unitBits

/-- The units of a finite magnitude pattern.  A zero exponent field counts fractions alone;
otherwise a leading one stands before the fraction and the exponent field doubles the units. -/
def units (f : BinaryFormat) (m : Nat) : Nat :=
  let fractions := Nat.pow 2 f.fractionBits
  let e := m / fractions
  if e = 0 then m else (fractions + m % fractions) * Nat.pow 2 (e - 1)

/-- The whole number nearest to `n / d`, the even one of two equally near. -/
def roundHalfEven (n d : Nat) : Nat :=
  let q := n / d
  let r := n % d
  if 2 * r < d then q else if d < 2 * r then q + 1 else q + q % 2

/-- The magnitude pattern nearest to `n / d` units; infinity from half a step above the largest
finite magnitude on. -/
def nearest (f : BinaryFormat) (n d : Nat) : Nat :=
  let s := (n / d).log2 - f.fractionBits
  min (s * Nat.pow 2 f.fractionBits + roundHalfEven n (d * Nat.pow 2 s)) f.infinity

theorem infinity_lt_signWeight (f : BinaryFormat) : f.infinity < f.signWeight := by
  have he : 0 < Nat.pow 2 f.exponentBits := Nat.pow_pos (by decide)
  have hf : 0 < Nat.pow 2 f.fractionBits := Nat.pow_pos (by decide)
  have hs : f.signWeight = Nat.pow 2 f.exponentBits * Nat.pow 2 f.fractionBits :=
    (Nat.pow_add ..).trans (Nat.mul_comm ..)
  rw [infinity, hs]
  exact Nat.mul_lt_mul_of_pos_right (by omega) hf

theorem signWeight_pos (f : BinaryFormat) : 0 < f.signWeight := Nat.pow_pos (by decide)

theorem nearest_lt_signWeight (f : BinaryFormat) (n d : Nat) : f.nearest n d < f.signWeight :=
  Nat.lt_of_le_of_lt (Nat.min_le_right _ _) f.infinity_lt_signWeight

end BinaryFormat

/-- A number of a binary format, by its bit pattern. -/
structure Binary (f : BinaryFormat) where
  pattern : Nat
  pattern_lt : pattern < 2 * f.signWeight
deriving DecidableEq

/-- The 32-bit floating-point numbers. -/
abbrev Single := Binary .single

/-- The 64-bit floating-point numbers. -/
abbrev Double := Binary .double

namespace Binary

variable {f : BinaryFormat}

theorem pattern_inj {x y : Binary f} : x.pattern = y.pattern ↔ x = y := by
  cases x; cases y; simp

/-- The number of a pattern, whose surplus high bits do not count. -/
def ofPattern (p : Nat) : Binary f :=
  ⟨p % (2 * f.signWeight), Nat.mod_lt _ (Nat.mul_pos (by decide) f.signWeight_pos)⟩

/-- The number with a sign and a magnitude pattern. -/
def ofMagnitude (negative : Bool) (m : Nat) : Binary f :=
  ofPattern (if negative then f.signWeight + m else m)

/-- Whether the sign bit is set. -/
def negative (x : Binary f) : Bool := decide (f.signWeight ≤ x.pattern)

/-- The pattern without its sign bit. -/
def magnitude (x : Binary f) : Nat := x.pattern % f.signWeight

/-- Whether the pattern stands for no number. -/
def isNaN (x : Binary f) : Bool := decide (f.infinity < x.magnitude)

/-- Whether the number is one of the two infinities. -/
def isInfinite (x : Binary f) : Bool := decide (x.magnitude = f.infinity)

/-- Whether the pattern stands for a number below infinity. -/
def isFinite (x : Binary f) : Bool := decide (x.magnitude < f.infinity)

/-- The pattern that stands for no number where no pattern is given: the first bit of the fraction
is set. -/
def nan : Binary f := ofMagnitude false (f.infinity + Nat.pow 2 (f.fractionBits - 1))

/-- An infinity. -/
def inf (negative : Bool) : Binary f := ofMagnitude negative f.infinity

/-- A zero. -/
def zero (negative : Bool) : Binary f := ofMagnitude negative 0

/-- The largest finite number of a sign. -/
def largest (negative : Bool) : Binary f := ofMagnitude negative (f.infinity - 1)

/-- The units of a finite number, with its sign. -/
def units (x : Binary f) : Int :=
  if x.negative then -(f.units x.magnitude : Int) else f.units x.magnitude

/-- The place of a number in numeric order; both zeros have place zero, and the infinities stand
outside the finite numbers. -/
def place (x : Binary f) : Int := if x.negative then -(x.magnitude : Int) else x.magnitude

/-- Numeric comparison.  It fails where a side stands for no number. -/
def lt (x y : Binary f) : Bool := !x.isNaN && !y.isNaN && decide (x.place < y.place)

/-- The number nearest to `n / d` units, with a sign. -/
def ofUnits (negative : Bool) (n d : Nat) : Binary f := ofMagnitude negative (f.nearest n d)

/-- The number nearest to a whole number. -/
def ofInt (i : Int) : Binary f := ofUnits (decide (i < 0)) (i.natAbs * f.unitsPerOne) 1

/-- The number nearest to `digits * 10 ^ exponent`.  Ten to a power lies beyond the format's range
once two to that power does, which keeps the powers small. -/
def ofDecimal (negative : Bool) (digits : Nat) (exponent : Int) : Binary f :=
  if digits = 0 then zero negative
  else if (f.unitBits : Int) < exponent then inf negative
  else if exponent + (digits.log2 + 1 : Nat) < -(f.unitBits + 1 : Int) then zero negative
  else ofUnits negative (digits * Nat.pow 10 exponent.toNat * f.unitsPerOne)
      (Nat.pow 10 (-exponent).toNat)

/-- The nearest number of another format. -/
def convert (g : BinaryFormat) (x : Binary f) : Binary g :=
  if x.isNaN then nan
  else if x.isInfinite then inf x.negative
  else ofUnits x.negative (f.units x.magnitude * g.unitsPerOne) f.unitsPerOne

/-- The sum, rounded once.  Only two negative zeros add up to a negative zero. -/
def add (x y : Binary f) : Binary f :=
  if x.isNaN || y.isNaN then nan
  else if x.isInfinite then if y.isInfinite && x.negative != y.negative then nan else x
  else if y.isInfinite then y
  else
    let s := x.units + y.units
    if s = 0 then zero (x.negative && y.negative) else ofUnits (decide (s < 0)) s.natAbs 1

/-- The quotient, rounded once. -/
def div (x y : Binary f) : Binary f :=
  let s := x.negative != y.negative
  if x.isNaN || y.isNaN then nan
  else if x.isInfinite then if y.isInfinite then nan else inf s
  else if y.isInfinite then zero s
  else if y.magnitude = 0 then if x.magnitude = 0 then nan else inf s
  else ofUnits s (f.units x.magnitude * f.unitsPerOne) (f.units y.magnitude)

/-- The lesser of two numbers; the first where neither is less or the second is no number. -/
def lesser (x y : Binary f) : Binary f := if x.isNaN || y.lt x then y else x

/-- The greater of two numbers; the first where neither is greater or the second is no number. -/
def greater (x y : Binary f) : Binary f := if x.isNaN || x.lt y then y else x

/-- The whole number that a finite number without a fraction is. -/
def toInt? (x : Binary f) : Option Int :=
  if x.isFinite && f.units x.magnitude % f.unitsPerOne == 0 then some (x.units / f.unitsPerOne)
  else none

end Binary

end FacetedSearch
