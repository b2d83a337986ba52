/-!
# Binary floating point with 64 bits

A finite number of the format is an integer of at most 53 bits times a power of two. All arithmetic here is exact
arithmetic on natural numbers followed by one rounding to the nearest number of the format, ties to even.

* `roundDiv_exact`: a quotient that is an integer is rounded to itself.
-/

namespace PluginHost

/-- The finite number `significand * 2 ^ exponent`, or its opposite. -/
structure Binary64 where
  negative : Bool
  significand : Nat
  exponent : Int
deriving DecidableEq, Repr

namespace Binary64

def minExponent : Int := -1074

def maxExponent : Int := 971

/-- The significand has at most this many bits. -/
def precision : Nat := 53

/-- Zero of either sign. -/
def zero (negative : Bool) : Binary64 := { negative, significand := 0, exponent := minExponent }

/-- The nearest integer to a quotient, a half to the even neighbour. -/
def roundDiv (num den : Nat) : Nat :=
  let q := num / den
  let twice := 2 * (num % den)
  if twice < den then q
  else if den < twice then q + 1
  else if q % 2 = 0 then q else q + 1

/-- A quotient that is an integer is rounded to itself. -/
theorem roundDiv_exact (q : Nat) {den : Nat} (h : 0 < den) : roundDiv (q * den) den = q := by
  simp [roundDiv, Nat.mul_div_cancel q h, h]

/-- The quotient of two positive numbers divided by a power of two, as numerator and denominator. -/
def scaled (num den : Nat) (exponent : Int) : Nat × Nat :=
  if exponent < 0 then (num * Nat.pow 2 (-exponent).toNat, den) else (num, den * Nat.pow 2 exponent.toNat)

/-- The number of the format nearest to a quotient; none when the quotient lies beyond the greatest one. -/
def ofQuotient (negative : Bool) (num den : Nat) : Option Binary64 :=
  if num = 0 then some (zero negative)
  else
    let guess : Int := (Nat.log2 num : Int) - Nat.log2 den - precision
    let wide := scaled num den guess
    let exponent := if wide.2 * Nat.pow 2 precision ≤ wide.1 then guess + 1 else guess
    let exponent := if exponent < minExponent then minExponent else exponent
    let exact := scaled num den exponent
    let rounded := roundDiv exact.1 exact.2
    let (significand, exponent) :=
      if rounded = Nat.pow 2 precision then (Nat.pow 2 (precision - 1), exponent + 1) else (rounded, exponent)
    if maxExponent < exponent then none else some { negative, significand, exponent }

/-- The number of the format nearest to `digits * 10 ^ exponent`; none when that lies beyond the greatest one. -/
def ofDecimal (negative : Bool) (digits : Nat) (exponent : Int) : Option Binary64 :=
  let places := (Nat.toDigits 10 digits).length
  if digits = 0 ∨ exponent + places < -400 then some (zero negative)
  else if 400 < exponent + places then none
  else if exponent < 0 then ofQuotient negative digits (Nat.pow 10 (-exponent).toNat)
  else ofQuotient negative (digits * Nat.pow 10 exponent.toNat) 1

/-- The absolute value as numerator and denominator. -/
def magnitude (x : Binary64) : Nat × Nat :=
  if x.exponent < 0 then (x.significand, Nat.pow 2 (-x.exponent).toNat)
  else (x.significand * Nat.pow 2 x.exponent.toNat, 1)

/-- The rounded product with a positive number; none beyond the greatest number. -/
def mul (x y : Binary64) : Option Binary64 :=
  ofQuotient x.negative (x.magnitude.1 * y.magnitude.1) (x.magnitude.2 * y.magnitude.2)

/-- The rounded quotient by a positive number; none beyond the greatest number. -/
def div (x y : Binary64) : Option Binary64 :=
  ofQuotient x.negative (x.magnitude.1 * y.magnitude.2) (x.magnitude.2 * y.magnitude.1)

end Binary64
end PluginHost
