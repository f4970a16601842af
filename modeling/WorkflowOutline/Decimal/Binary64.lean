/-!
# Binary floating-point numbers of 64 bits

`Binary64` is a number of the format, given by its mantissa and its exponent. `Binary64.ofDecimal`
rounds a decimal number to the nearest of them, an exact tie to the even mantissa.
-/

namespace WorkflowOutline

/-- A number of the format: `mantissa * 2 ^ exponent` with a sign, or none of the reals. -/
inductive Binary64 where
  | nan
  | infinity (negative : Bool)
  | finite (negative : Bool) (mantissa : Nat) (exponent : Int)
deriving DecidableEq, Repr

/-- The quotient rounded to the nearest integer, a half to the even one. -/
def roundDiv (num den : Nat) : Nat :=
  let q := num / den
  let r := num % den
  if den < 2 * r ∨ (2 * r = den ∧ q % 2 = 1) then q + 1 else q

namespace Binary64

/-- The exponent of the smallest positive number. -/
def minExponent : Int := -1074

/-- The exponent of the largest number. -/
def maxExponent : Int := 971

/-- The least mantissa of 53 bits. -/
def leadingBit : Nat := 4503599627370496

/-- Zero, with a sign. -/
def zero (negative : Bool) : Binary64 := .finite negative 0 minExponent

/-- Rounds the positive number `num / den`. The exponent is the one that gives the mantissa 53 bits,
but not below `minExponent`; above `maxExponent` there is only infinity. -/
def ofRatio (negative : Bool) (num den : Nat) : Binary64 :=
  let scaled (e : Int) : Nat × Nat :=
    if 0 ≤ e then (num, den * Nat.pow 2 e.toNat) else (num * Nat.pow 2 (-e).toNat, den)
  let low : Int := num.log2 - den.log2 - 53
  let (n, d) := scaled low
  let e := max minExponent (if n < 2 * leadingBit * d then low else low + 1)
  let (n, d) := scaled e
  let mantissa := roundDiv n d
  let (mantissa, e) := if mantissa = 2 * leadingBit then (leadingBit, e + 1) else (mantissa, e)
  if maxExponent < e then .infinity negative else .finite negative mantissa e

/-- The number of decimal digits. -/
def digitCount (n : Nat) : Nat := (Nat.toDigits 10 n).length

/-- Rounds `digits * 10 ^ exponent`. Numbers of more than 310 digits are infinite and those below
`10 ^ -330` are zero, whatever their digits, so no larger power of ten is ever formed. -/
def ofDecimal (negative : Bool) (digits : Nat) (exponent : Int) : Binary64 :=
  let size := exponent + digitCount digits
  if digits = 0 ∨ size < -330 then zero negative
  else if 310 < size then .infinity negative
  else if 0 ≤ exponent then ofRatio negative (digits * Nat.pow 10 exponent.toNat) 1
  else ofRatio negative digits (Nat.pow 10 (-exponent).toNat)

end Binary64

end WorkflowOutline
