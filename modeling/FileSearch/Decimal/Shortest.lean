import FileSearch.Decimal.Binary64

set_option autoImplicit false

namespace FileSearch

structure Decimal where
  digits : Nat
  exponent : Int
  deriving Repr, DecidableEq

namespace Decimal

def toFraction (x : Decimal) : Nat × Nat :=
  (x.digits * tenTo x.exponent.toNat, tenTo (-x.exponent).toNat)

def normalize (fuel : Nat) (x : Decimal) : Decimal :=
  match fuel with
  | 0 => x
  | fuel + 1 =>
    if x.digits ≠ 0 ∧ x.digits % 10 = 0 then normalize fuel ⟨x.digits / 10, x.exponent + 1⟩ else x

end Decimal

namespace Binary64

-- Whether the decimal reads back as the number: whether it lies between the midpoints to the two
-- neighbours of the number, or on one of them if the mantissa is even.
def readsBack (x : Binary64) (decimal : Decimal) : Bool :=
  let (num, den) := decimal.toFraction
  -- All in quarters of the last place, so that the midpoints are whole numbers.
  let quarter := x.exponent - 2
  -- Below a power of two the neighbour is only half as far away.
  let lowGap := if x.mantissa = twoTo 52 ∧ -1074 < x.exponent then 1 else 2
  let low := (4 * x.mantissa - lowGap) * twoTo quarter.toNat * den
  let high := (4 * x.mantissa + 2) * twoTo quarter.toNat * den
  let value := num * twoTo (-quarter).toNat
  if x.mantissa % 2 = 0 then low ≤ value && value ≤ high else low < value && value < high

def floorLog10 (fuel : Nat) (guess : Int) (num den : Nat) : Int :=
  match fuel with
  | 0 => guess
  | fuel + 1 =>
    if den * tenTo guess.toNat ≤ num * tenTo (-guess).toNat then guess
    else floorLog10 fuel (guess - 1) num den

-- The neighbour of the number on the grid of multiples of `10 ^ exponent` that reads back, the
-- nearer one if both do.
def onGrid? (x : Binary64) (exponent : Int) : Option Decimal :=
  let (num, den) := x.toFraction
  let scaled := num * tenTo (-exponent).toNat
  let unit := den * tenTo exponent.toNat
  let below : Decimal := ⟨scaled / unit, exponent⟩
  let above : Decimal := ⟨scaled / unit + 1, exponent⟩
  match x.readsBack below, x.readsBack above with
  | true, true => some ⟨roundQuotient scaled unit, exponent⟩
  | true, false => some below
  | false, true => some above
  | false, false => none

def shortestFrom (fuel : Nat) (x : Binary64) (magnitude : Int) (count : Nat) : Decimal :=
  match fuel, x.onGrid? (magnitude - count + 1) with
  | _, some decimal => decimal.normalize 20
  | 0, none => ⟨0, 0⟩
  | fuel + 1, none => shortestFrom fuel x magnitude (count + 1)

def shortest (x : Binary64) : Decimal :=
  if x.isZero then ⟨0, 0⟩
  else
    let (num, den) := x.toFraction
    let bits : Int := num.log2 - den.log2
    let magnitude := floorLog10 4 (bits * 30103 / 100000 + 1) num den
    shortestFrom 17 x magnitude 1

end Binary64

end FileSearch
