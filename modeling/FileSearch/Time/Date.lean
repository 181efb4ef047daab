set_option autoImplicit false

namespace FileSearch

structure Date where
  year : Int
  month : Nat
  day : Nat
  deriving Repr, DecidableEq

namespace Date

def isLeapYear (year : Int) : Bool :=
  year % 4 = 0 && (year % 100 ≠ 0 || year % 400 = 0)

def monthLength (year : Int) (month : Nat) : Nat :=
  if month = 2 then (if isLeapYear year then 29 else 28)
  else if month = 4 ∨ month = 6 ∨ month = 9 ∨ month = 11 then 30
  else 31

def Valid (date : Date) : Prop :=
  1 ≤ date.month ∧ date.month ≤ 12 ∧ 1 ≤ date.day ∧ date.day ≤ monthLength date.year date.month

instance (date : Date) : Decidable date.Valid := by
  unfold Valid; infer_instance

def ofDays (days : Int) : Date :=
  let shifted := days + 719468
  let era := shifted / 146097
  let dayOfEra := (shifted % 146097).toNat
  -- The leap day at the end begins no fifth century, nor a fifth year below.
  let century := min (dayOfEra / 36524) 3
  let dayOfCentury := dayOfEra - century * 36524
  let quad := dayOfCentury / 1461
  let dayOfQuad := dayOfCentury - quad * 1461
  let yearOfQuad := min (dayOfQuad / 365) 3
  let dayOfYear := dayOfQuad - yearOfQuad * 365
  let marchMonth := (5 * dayOfYear + 2) / 153
  let year : Int := era * 400 + (century * 100 + quad * 4 + yearOfQuad : Nat)
  { year := if marchMonth < 10 then year else year + 1
    month := if marchMonth < 10 then marchMonth + 3 else marchMonth - 9
    day := dayOfYear - (153 * marchMonth + 2) / 5 + 1 }

def toDays (date : Date) : Int :=
  let year := if date.month ≤ 2 then date.year - 1 else date.year
  let marchMonth := (date.month + 9) % 12
  let dayOfYear := (153 * marchMonth + 2) / 5 + (date.day - 1)
  let yearOfEra := (year % 400).toNat
  let dayOfEra := yearOfEra * 365 + yearOfEra / 4 - yearOfEra / 100 + dayOfYear
  year / 400 * 146097 + dayOfEra - 719468

end Date

end FileSearch
