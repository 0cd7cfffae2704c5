/-!
# Numbers

The numbers of documents and options: integers of any size, and the numbers of a binary format with
53 digits and exponents from -1074 to 971, among them two infinite ones and one that stands for no
number. A decimal is rounded to the nearest number of the format, a tie to the one with an even last
digit (`Number.ofDecimal`); integers are not rounded, and numbers are compared by what they amount
to (`Number.same`).
-/

namespace ExportTrail

/-- A number. -/
inductive Number
  | integer (n : Int)
  /-- The number `m` times the `e`-th power of two. -/
  | floating (m e : Int)
  | infinite (negative : Bool)
  /-- What stands for no number. -/
  | undefined
  deriving DecidableEq, Repr, Inhabited

namespace Number

/-! ## Rounding -/

/-- The most binary digits of a number of the format. -/
def precision : Nat := 53

/-- The least exponent of the format. -/
def leastExponent : Int := -1074

/-- Numbers from this power of two on are infinite. -/
def firstInfinite : Nat := 1024

/-- The integer nearest to `n / d`; of two that are equally near, the even one. -/
def roundDiv (n d : Nat) : Nat :=
  let q := n / d
  let r := n % d
  if 2 * r < d then q
  else if d < 2 * r then q + 1
  else q + q % 2

/-- The fraction `n / d` divided by the `e`-th power of two. -/
def scaled (n d : Nat) (e : Int) : Nat × Nat :=
  (n * Nat.pow 2 (-e).toNat, d * Nat.pow 2 e.toNat)

/-- The exponent with which the positive fraction `n / d` has as many binary digits before the point
as the format allows, or the least exponent if that is greater. -/
def exponentOf (n d : Nat) : Int :=
  let e : Int := n.log2 - d.log2 - (precision - 1)
  let (n', d') := scaled n d e
  max leastExponent (if n' < d' * Nat.pow 2 (precision - 1) then e - 1 else e)

/-- The number of the format that is nearest to a positive fraction. -/
def nearest (negative : Bool) (n d : Nat) : Number :=
  let e := exponentOf n d
  let (n', d') := scaled n d e
  let m := roundDiv n' d'
  if 0 ≤ e ∧ Nat.pow 2 firstInfinite ≤ m * Nat.pow 2 e.toNat then .infinite negative
  else .floating (if negative then -m else m) e

/-- Powers of ten beyond this one are infinite, and those below its inverse are zero. -/
def maxPower : Int := 400

/-- The number of the format that is nearest to a decimal: `digits` times a power of ten. Only
decimals that are neither too great nor too small for the format are worked out. -/
def ofDecimal (negative : Bool) (digits : Nat) (power : Int) : Number :=
  if digits = 0 then .floating 0 0
  else if maxPower < power then .infinite negative
  else if power + (digits.log2 / 3 + 1) < -maxPower then .floating 0 0
  else nearest negative (digits * Nat.pow 10 power.toNat) (Nat.pow 10 (-power).toNat)

/-! ## Comparison -/

/-- The integer that a number amounts to, if it is one. -/
def integer? : Number → Option Int
  | .integer n => some n
  | .floating m e =>
    if 0 ≤ e then some (m * Nat.pow 2 e.toNat)
    else if m % Nat.pow 2 (-e).toNat = 0 then some (m / Nat.pow 2 (-e).toNat)
    else none
  | _ => none

/-- Whether two numbers, each with a power of two, amount to the same. -/
def sameScaled (m e n f : Int) : Bool :=
  m * Nat.pow 2 (e - f).toNat == n * Nat.pow 2 (f - e).toNat

/-- Whether two numbers are equal. What stands for no number is equal to itself. -/
def same : Number → Number → Bool
  | .integer m, .integer n => m == n
  | .integer m, .floating n f => sameScaled m 0 n f
  | .floating m e, .integer n => sameScaled m e n 0
  | .floating m e, .floating n f => sameScaled m e n f
  | .infinite a, .infinite b => a == b
  | .undefined, .undefined => true
  | _, _ => false

/-- The name of a number's type. -/
def typeName : Number → String
  | .integer _ => "int"
  | _ => "float"

end Number

end ExportTrail
