set_option autoImplicit false

namespace FileSearch

namespace Instant

-- The first second of the year -262143.
def minSecond : Int := -8334601228800

-- The last second of the year 262142.
def maxSecond : Int := 8210266876799

/-- The seconds lie in the range of the calendar. Nanoseconds from 10^9 on are those of a leap second
behind the given one. -/
def Bounded (second : Int) (nano : Nat) : Prop :=
  minSecond ≤ second ∧ second ≤ maxSecond ∧ nano < 2000000000

instance (second : Int) (nano : Nat) : Decidable (Bounded second nano) := by
  unfold Bounded; infer_instance

end Instant

structure Instant where
  second : Int
  nano : Nat
  bounded : Instant.Bounded second nano
  deriving DecidableEq

namespace Instant

def ofParts? (second : Int) (nano : Nat) : Option Instant :=
  if bounded : Bounded second nano then some ⟨second, nano, bounded⟩ else none

def compare (left right : Instant) : Ordering :=
  (Ord.compare left.second right.second).then (Ord.compare left.nano right.nano)

instance : Ord Instant := ⟨compare⟩

/-- The last moment of the form "whole second" not after this one, or, if `up`, the first not
before it. Where the calendar has no such second, the moment itself. -/
def widened (up : Bool) (moment : Instant) : Instant :=
  let second := if up && 0 < moment.nano then moment.second + 1 else moment.second
  (ofParts? second 0).getD moment

end Instant

end FileSearch
