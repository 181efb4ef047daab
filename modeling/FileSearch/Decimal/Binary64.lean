set_option autoImplicit false

namespace FileSearch

-- The number `mantissa * 2 ^ exponent`. The mantissa has at most 53 bits, and exactly 53 unless the
-- exponent is the least, -1074.
structure Binary64 where
  mantissa : Nat
  exponent : Int
  deriving Repr, DecidableEq

def twoTo (exponent : Nat) : Nat :=
  Nat.pow 2 exponent

def tenTo (exponent : Nat) : Nat :=
  Nat.pow 10 exponent

-- The quotient, rounded to the nearest integer; a half goes to the even neighbour.
def roundQuotient (num den : Nat) : Nat :=
  let quotient := num / den
  let rest := num % den
  if den < 2 * rest ∨ (2 * rest = den ∧ quotient % 2 = 1) then quotient + 1 else quotient

namespace Binary64

def zero : Binary64 := ⟨0, -1074⟩

def isZero (x : Binary64) : Bool :=
  x.mantissa = 0

def toFraction (x : Binary64) : Nat × Nat :=
  (x.mantissa * twoTo x.exponent.toNat, twoTo (-x.exponent).toNat)

def floorLog2 (num den : Nat) : Int :=
  let guess : Int := num.log2 - den.log2
  if den * twoTo guess.toNat ≤ num * twoTo (-guess).toNat then guess else guess - 1

/-- The number nearest to a fraction, of two the one with even mantissa; none if the fraction is too
large. -/
def ofFraction? (num den : Nat) : Option Binary64 :=
  if num = 0 then some zero
  else
    let exponent := max (floorLog2 num den - 52) (-1074)
    let mantissa := roundQuotient (num * twoTo (-exponent).toNat) (den * twoTo exponent.toNat)
    -- Rounding up may take one bit more.
    let rounded : Binary64 :=
      if mantissa = twoTo 53 then ⟨twoTo 52, exponent + 1⟩ else ⟨mantissa, exponent⟩
    if 971 < rounded.exponent then none else some rounded

def mul? (x y : Binary64) : Option Binary64 :=
  let (a, b) := x.toFraction
  let (c, d) := y.toFraction
  ofFraction? (a * c) (b * d)

def div? (x y : Binary64) : Option Binary64 :=
  let (a, b) := x.toFraction
  let (c, d) := y.toFraction
  ofFraction? (a * d) (b * c)

def tenPower (power : Nat) : Binary64 :=
  (ofFraction? (tenTo power) 1).getD zero

def scaleDown (fuel : Nat) (x : Binary64) (power : Nat) : Option Binary64 :=
  if x.isZero then some x
  else if power ≤ 308 then x.div? (tenPower power)
  else match fuel with
    | 0 => some zero
    | fuel + 1 => do
      let x ← x.div? (tenPower 308)
      scaleDown fuel x (power - 308)

-- The value of `significand * 10 ^ exponent`, in two roundings: that of the significand, and that
-- of its product or quotient with the number nearest to the power of ten. None if it is too large.
def ofDecimal? (significand : Nat) (exponent : Int) : Option Binary64 := do
  let x ← ofFraction? significand 1
  if exponent < 0 then scaleDown 8 x exponent.natAbs
  else if exponent ≤ 308 then x.mul? (tenPower exponent.toNat)
  else if x.isZero then some x
  else none

end Binary64

end FileSearch
