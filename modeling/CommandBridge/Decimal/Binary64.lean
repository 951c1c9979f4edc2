/-!
# Finite binary64 values and their rounding

A finite double is a sign and a magnitude `mantissa * 2 ^ scale` counted in units
of the smallest subnormal `2 ^ -1074`. Every rational is rounded here in exact
natural-number arithmetic, to the nearest value with ties to an even mantissa.
Infinities and NaN have no representation: a magnitude above the largest finite
one rounds to `none`.
-/

set_option autoImplicit false

namespace CommandBridge

/-- A finite double. The canonical form is part of the type: below the hidden bit
only the lowest scale occurs. -/
structure Binary64 where
  negative : Bool
  mantissa : Nat
  scale : Nat
  canonical : mantissa < Nat.pow 2 53 ∧ scale ≤ 2045 ∧ (scale = 0 ∨ Nat.pow 2 52 ≤ mantissa)
deriving DecidableEq

namespace Binary64

def roundEven (num den : Nat) : Nat :=
  let q := num / den
  let r := num % den
  if 2 * r < den then q
  else if den < 2 * r then q + 1
  else if q % 2 = 0 then q else q + 1

def mk? (negative : Bool) (mantissa scale : Nat) : Option Binary64 :=
  if h : mantissa < Nat.pow 2 53 ∧ scale ≤ 2045 ∧ (scale = 0 ∨ Nat.pow 2 52 ≤ mantissa) then
    some ⟨negative, mantissa, scale, h⟩
  else none

def ofRatio (negative : Bool) (num den : Nat) : Option Binary64 :=
  let units := num * Nat.pow 2 1074
  let whole := units / den
  let scale := if whole < Nat.pow 2 53 then 0 else Nat.log2 whole - 52
  let mantissa := roundEven units (den * Nat.pow 2 scale)
  if mantissa = Nat.pow 2 53 then mk? negative (Nat.pow 2 52) (scale + 1)
  else mk? negative mantissa scale

/-- The double nearest to `± digits * 10 ^ exponent`. Exponents far outside the
range of doubles are decided before any power is computed. -/
def ofDecimal (negative : Bool) (digits : Nat) (exponent : Int) : Option Binary64 :=
  if digits = 0 then mk? negative 0 0
  else
    if 400 < exponent then none
    else if exponent + Nat.log2 digits < -400 then mk? negative 0 0
    else if 0 ≤ exponent then ofRatio negative (digits * Nat.pow 10 exponent.toNat) 1
    else ofRatio negative digits (Nat.pow 10 (-exponent).toNat)

def zero : Binary64 := ⟨false, 0, 0, by decide⟩

def units (x : Binary64) : Nat := x.mantissa * Nat.pow 2 x.scale

def signedUnits (x : Binary64) : Int := if x.negative then -(x.units : Int) else x.units

def ofInt (n : Int) : Binary64 := (ofRatio (decide (n < 0)) n.natAbs 1).getD zero

def mul (x y : Binary64) : Option Binary64 :=
  ofRatio (x.negative != y.negative) (x.units * y.units) (Nat.pow 2 1074 * Nat.pow 2 1074)

def div (x y : Binary64) : Option Binary64 :=
  ofRatio (x.negative != y.negative) x.units y.units

def pow10 (n : Nat) : Option Binary64 := ofDecimal false 1 n

def divNat (x : Binary64) (d : Nat) : Binary64 :=
  (ofRatio x.negative x.units (d * Nat.pow 2 1074)).getD zero

def subNat (x : Binary64) (n : Nat) : Binary64 :=
  let total := x.signedUnits - (n : Int) * Nat.pow 2 1074
  (ofRatio (decide (total < 0)) total.natAbs (Nat.pow 2 1074)).getD zero

end Binary64
end CommandBridge
