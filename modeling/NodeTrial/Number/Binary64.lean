/-!
Finite binary floating-point numbers of 64 bits, as exact values `± mantissa · 2 ^ exponent`.
Every operation rounds the exact result to the nearest such number, a tie to the even mantissa, and
has no answer if the result is too large.
-/

namespace NodeTrial

/-- A finite number of the 64-bit binary format. The mantissa is below `2 ^ 53` and, unless the
exponent is the least one, at least `2 ^ 52`; so equal numbers of one sign are equal values. -/
structure Binary64 where
  negative : Bool
  mantissa : Nat
  exponent : Int
  deriving DecidableEq, Repr

namespace Binary64

def minExponent : Int := -1074

def maxExponent : Int := 971

def zero (negative : Bool) : Binary64 := ⟨negative, 0, minExponent⟩

def isZero (x : Binary64) : Bool := x.mantissa == 0

def neg (x : Binary64) : Binary64 := { x with negative := !x.negative }

/-- The quotient rounded to the nearest integer, a tie to the even one. -/
def roundQuotient (num den : Nat) : Nat :=
  let q := num / den
  let r := num % den
  if den < 2 * r || (den == 2 * r && q % 2 == 1) then q + 1 else q

/-- The quotient `num / (den · 2 ^ e)` as a numerator and a denominator. -/
def shiftQuotient (num den : Nat) (e : Int) : Nat × Nat :=
  if 0 ≤ e then (num, den * Nat.pow 2 e.toNat) else (num * Nat.pow 2 (-e).toNat, den)

/-- The exponent that gives `num / den` a mantissa of 53 bits, or the least exponent. -/
def exponentOf (num den : Nat) : Int :=
  let guess : Int := (num.log2 : Int) - (den.log2 : Int)
  let (n, d) := shiftQuotient num den guess
  max (if n < d then guess - 53 else guess - 52) minExponent

/-- The number nearest to `± num / den`, none if that is beyond the largest one. -/
def ofQuotient (negative : Bool) (num den : Nat) : Option Binary64 :=
  if num == 0 || den == 0 then some (zero negative)
  else
    let e := exponentOf num den
    let (n, d) := shiftQuotient num den e
    let m := roundQuotient n d
    let (m, e) := if m == Nat.pow 2 53 then (Nat.pow 2 52, e + 1) else (m, e)
    if maxExponent < e then none else some ⟨negative, m, e⟩

def ofNat (n : Nat) : Option Binary64 := ofQuotient false n 1

def powerOfTen (k : Nat) : Option Binary64 := ofNat (Nat.pow 10 k)

def magnitude (x : Binary64) : Nat × Nat :=
  if 0 ≤ x.exponent then (x.mantissa * Nat.pow 2 x.exponent.toNat, 1)
  else (x.mantissa, Nat.pow 2 (-x.exponent).toNat)

def mul (x y : Binary64) : Option Binary64 :=
  let (a, b) := x.magnitude
  let (c, d) := y.magnitude
  ofQuotient (x.negative != y.negative) (a * c) (b * d)

def div (x y : Binary64) : Option Binary64 :=
  let (a, b) := x.magnitude
  let (c, d) := y.magnitude
  ofQuotient (x.negative != y.negative) (a * d) (b * c)

/-- The value `significand · 10 ^ scale`, rounded once when the significand becomes a number and
once for every step of scaling. Scaling up by more than `10 ^ 308` has no answer unless the
significand is zero; scaling down by more goes in steps of `10 ^ 308`, the third of which always
ends at zero. -/
def ofDecimal (significand : Nat) (scale : Int) : Option Binary64 := do
  let f ← ofNat significand
  if 308 < scale then
    if f.isZero then some f else none
  else if 0 ≤ scale then
    f.mul (← powerOfTen scale.toNat)
  else if -308 ≤ scale then
    f.div (← powerOfTen (-scale).toNat)
  else if -616 ≤ scale then
    let g ← f.div (← powerOfTen 308)
    g.div (← powerOfTen (-scale - 308).toNat)
  else some (zero false)

end Binary64

end NodeTrial
