/-!
# Bytes and numbers

Byte strings with the numbers that they write, and the arithmetic on numbers that claims ask for:
roundings, and the single-precision numbers of the first generation.
-/

/-!
## Byte strings

Claim values, keys and addresses are plain lists of bytes, so every statement about them is a
statement about lists. All of them share one conversion: a natural number as a fixed count of
base-256 digits, most significant first, and back.
-/

namespace ChainClaim

/-- Byte strings, first byte at the head. -/
abbrev Bytes := List UInt8

namespace Bytes

/-- The last `width` base-256 digits of `n`, most significant first. -/
def ofNat : (width n : Nat) → Bytes
  | 0, _ => []
  | width + 1, n => ofNat width (n / 256) ++ [UInt8.ofNat n]

/-- The number that `bs` writes in base 256, most significant digit first. -/
def toNat (bs : Bytes) : Nat :=
  bs.foldl (fun n b => n * 256 + b.toNat) 0

@[simp] theorem length_ofNat (width n : Nat) : (ofNat width n).length = width := by
  induction width generalizing n with
  | zero => rfl
  | succ width ih => simp [ofNat, ih]

end Bytes

end ChainClaim

/-!
## Rounding

Two roundings of natural numbers that stand for numerators over a power of two: to a count of
significant bits, as a product of floating-point numbers is rounded, and to whole units.
-/

namespace ChainClaim.Dyadic

/-- `n` rounded to `precision` significant bits, a tie going to the even neighbour. -/
def toPrecision (precision n : Nat) : Nat :=
  let width := n.log2 + 1
  if width ≤ precision then n
  else
    let unit := 1 <<< (width - precision)
    let quotient := n / unit
    let rest := n % unit
    -- Halves are compared doubled.
    if unit < 2 * rest ∨ (unit = 2 * rest ∧ quotient % 2 = 1) then (quotient + 1) * unit
    else quotient * unit

/-- `n / 2 ^ places` rounded to the nearest whole number, a half going up. -/
def roundHalfUp (n places : Nat) : Nat :=
  (2 * n + 1 <<< places) >>> (places + 1)

end ChainClaim.Dyadic

/-!
## Single-precision numbers

Fees of the first generation are single-precision numbers. What a claim keeps is their bits, NaN
payloads included, so a number is its 32 bits; the numeric comparison and the exact value are
functions on them.
-/

namespace ChainClaim

/-- A single-precision number by its bits: sign, eight bits of exponent, 23 of fraction. -/
structure Binary32 where
  bits : UInt32

namespace Binary32

/-- How many fractions there are. -/
def fractionCount : Nat := 0x800000

def exponentBits (x : Binary32) : Nat := x.bits.toNat / fractionCount % 256

def fraction (x : Binary32) : Nat := x.bits.toNat % fractionCount

def isNegative (x : Binary32) : Bool := 0x80000000 ≤ x.bits.toNat

def isFinite (x : Binary32) : Bool := x.exponentBits < 255

def isNaN (x : Binary32) : Bool := x.exponentBits = 255 && x.fraction != 0

def isZero (x : Binary32) : Bool := x.exponentBits = 0 && x.fraction = 0

/-- The integer `m` of the value `m * 2 ^ (e - 149)` of a finite number, sign apart. -/
def significand (x : Binary32) : Nat :=
  if x.exponentBits = 0 then x.fraction else fractionCount + x.fraction

/-- The natural number `e` of the value `m * 2 ^ (e - 149)` of a finite number. -/
def shift (x : Binary32) : Nat := x.exponentBits - 1

/-- Numeric equality: NaN equals nothing, and the two zeros are equal. -/
instance : BEq Binary32 where
  beq x y := !x.isNaN && !y.isNaN && (x.bits == y.bits || (x.isZero && y.isZero))

end Binary32

end ChainClaim
