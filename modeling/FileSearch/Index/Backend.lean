import FileSearch.CompiledQuery
import FileSearch.Error
import FileSearch.Order

set_option autoImplicit false

namespace FileSearch

structure Plan where
  predicate : Predicate
  scopes : List Scope
  order : Order

inductive Signal (ℓ : Type) where
  | fired (listener : ℓ)
  | lost (listener : ℓ)
  deriving DecidableEq, Repr

/-- How a query starts: whether the index accepts it, what becomes of listeners at once, and the
delay after which the query wants to be woken. -/
structure Started (ℓ : Type) where
  accepted : Bool
  signals : List (Signal ℓ) := []
  alarm? : Option Nat := none

-- The calls on an index. Queries are known by the numbers of their handles, and times are whole
-- milliseconds of one clock.
structure Backend (ℓ W : Type) where
  prepare : Plan → W → Except SearchError Nat × W
  subscribe : (handle : Nat) → ℓ → W → Nat × W
  unsubscribe : (handle subscription : Nat) → W → W
  start : (handle now : Nat) → W → Started ℓ × W
  startError : (handle : Nat) → W → Option String × W
  stop : (handle now : Nat) → W → W
  resultCount : (handle now : Nat) → W → Nat × W
  resultAt : (handle index now : Nat) → W → Option RawRecord × W
  wake : (handle now : Nat) → W → List (Signal ℓ) × W

structure Alarm where
  due : Nat
  handle : Nat
  deriving DecidableEq, Repr

def Alarm.insert (alarm : Alarm) : List Alarm → List Alarm
  | [] => [alarm]
  | other :: rest =>
    if other.due ≤ alarm.due then other :: alarm.insert rest else alarm :: other :: rest

def Alarm.schedule (handle now : Nat) (delay? : Option Nat) (alarms : List Alarm) : List Alarm :=
  match delay? with
  | some delay => Alarm.insert ⟨now + delay, handle⟩ alarms
  | none => alarms

end FileSearch
