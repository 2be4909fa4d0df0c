/-!
# FacetedSearch.Number.Hex — fixed-width hexadecimal

Numbers are written most significant digit first, in lower case and with leading zeros up to a
fixed width; they are read in either case.
-/

namespace FacetedSearch.Hex

/-- The digit of a value below sixteen. -/
def digit (v : Nat) : Char := Char.ofNat (if v < 10 then 48 + v else 87 + v)

/-- The value of a hexadecimal digit, in either case. -/
def value? (c : Char) : Option Nat :=
  let n := c.toNat
  if 48 ≤ n ∧ n ≤ 57 then some (n - 48)
  else if 97 ≤ n ∧ n ≤ 102 then some (n - 87)
  else if 65 ≤ n ∧ n ≤ 70 then some (n - 55)
  else none

/-- The `width` digits of a number below `16 ^ width`, most significant first. -/
def write : (width n : Nat) → List Char
  | 0, _ => []
  | w + 1, n => digit (n / Nat.pow 16 w % 16) :: write w n

/-- The number that digits spell, after `acc` in front of them. -/
def readFrom (acc : Nat) : List Char → Option Nat
  | [] => some acc
  | c :: cs => (value? c).bind fun v => readFrom (16 * acc + v) cs

/-- The number that a text of digits spells; `none` if a character is not a digit. -/
def read? (s : List Char) : Option Nat := readFrom 0 s

theorem length_write (w n : Nat) : (write w n).length = w := by
  induction w with
  | zero => rfl
  | succ w ih => simp [write, ih]

theorem value?_digit {v : Nat} (h : v < 16) : value? (digit v) = some v := by
  have : ∀ v < 16, value? (digit v) = some v := by decide
  exact this v h

/-- The digit in front counts the next power of sixteen. -/
theorem mod_pow_succ (w n : Nat) :
    n % Nat.pow 16 (w + 1) = n / Nat.pow 16 w % 16 * Nat.pow 16 w + n % Nat.pow 16 w :=
  (Nat.mod_mul (x := n)).trans (by rw [Nat.mul_comm, Nat.add_comm])

theorem readFrom_write (w acc n : Nat) :
    readFrom acc (write w n) = some (acc * Nat.pow 16 w + n % Nat.pow 16 w) := by
  induction w generalizing acc with
  | zero =>
    change some acc = some (acc * 1 + n % 1)
    rw [Nat.mul_one, Nat.mod_one, Nat.add_zero]
  | succ w ih =>
    rw [write, readFrom, value?_digit (Nat.mod_lt _ (by decide)), Option.bind_some, ih]
    have hp : Nat.pow 16 (w + 1) = Nat.pow 16 w * 16 := rfl
    rw [mod_pow_succ, hp]
    congr 1
    rw [Nat.add_mul, Nat.mul_comm (16 : Nat) acc, Nat.mul_assoc, Nat.mul_comm 16 (Nat.pow 16 w),
      Nat.add_assoc]

theorem read?_write {w n : Nat} (h : n < Nat.pow 16 w) : read? (write w n) = some n := by
  rw [read?, readFrom_write, Nat.mod_eq_of_lt h, Nat.zero_mul, Nat.zero_add]

end FacetedSearch.Hex
