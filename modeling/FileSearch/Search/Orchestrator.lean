import FileSearch.Config
import FileSearch.Request.Basic
import FileSearch.Search.Extract

set_option autoImplicit false

namespace FileSearch

inductive Outcome where
  | completed
  | timedOut
  | failed
  | rejected
  deriving DecidableEq, Repr

abbrev Answer := Except SearchError SearchResults

structure Flight where
  -- Its number among all that held the slot, which is also its listener.
  number : Nat
  handle : Nat
  subscription : Nat
  limit : Nat
  deadline : Nat
  -- The listener was lost, so that only the deadline can end the search.
  deaf : Bool := false
  deriving DecidableEq, Repr

-- What lets go of a query, and does so once.
structure Teardown where
  handle : Nat
  subscription : Nat
  done : Bool := false

def Teardown.run {W : Type} (backend : Backend Nat W) (teardown : Teardown) (now : Nat) (world : W) :
    Teardown × W :=
  if teardown.done then (teardown, world)
  else
    ({ teardown with done := true },
      backend.stop teardown.handle now
        (backend.unsubscribe teardown.handle teardown.subscription world))

@[simp] theorem Teardown.run_again {W : Type} (backend : Backend Nat W) (teardown : Teardown)
    (now later : Nat) (world world' : W) :
    (teardown.run backend now world).1.run backend later world' =
      ((teardown.run backend now world).1, world') := by
  have done : (teardown.run backend now world).1.done = true := by
    rw [run]
    split
    · assumption
    · rfl
  rw [run, if_pos done]

def Flight.teardown (flight : Flight) : Teardown :=
  { handle := flight.handle, subscription := flight.subscription }

structure Orchestrator where
  config : SearchConfig
  flight? : Option Flight := none
  lastOutcome? : Option Outcome := none
  flown : Nat := 0

namespace Orchestrator

def scopes (config : SearchConfig) (compiled : CompiledQuery) : List Scope :=
  if compiled.usesDefaultScope && !config.defaultScopes.isEmpty then
    config.defaultScopes.map .directory
  else compiled.scopes

def plan (config : SearchConfig) (request : SearchRequest) : Plan :=
  let compiled := request.criteria.toQuery.compile
  { predicate := compiled.predicate
    scopes := scopes config compiled
    order := request.sort.order }

-- The end of the time that the clock can tell, 2^63 seconds.
def clockEnd : Nat := 9223372036854775808000

-- How long to wait when the time until then is more than the clock can tell: a year.
def unboundedWait : Nat := 365 * 24 * 60 * 60 * 1000

def deadline (now timeout : Nat) : Nat :=
  if now + timeout < clockEnd then now + timeout else now + unboundedWait

def unknownReason : String := "backend did not start the query"

variable {W : Type} (backend : Backend Nat W)

-- What becomes of a query whose search is dropped.
def tearDown (flight : Flight) (now : Nat) (world : W) : W :=
  (flight.teardown.run backend now world).2

@[simp] theorem run_teardown (flight : Flight) (now : Nat) (world : W) :
    (flight.teardown.run backend now world).2 = tearDown backend flight now world := rfl

theorem tearDown_calls (flight : Flight) (now : Nat) (world : W) :
    tearDown backend flight now world =
      backend.stop flight.handle now
        (backend.unsubscribe flight.handle flight.subscription world) := rfl

/-- The results of a search whose listener was fired. The query is let go of before it is read. -/
def complete (flight : Flight) (now : Nat) (world : W) : SearchResults × W :=
  let (teardown, world) := flight.teardown.run backend now world
  let (records, world) := backend.extract flight.handle flight.limit now world
  -- A search that has ended is dropped like any other, and finds its query let go of.
  (⟨records, false⟩, (teardown.run backend now world).2)

/-- The results of a search that is out of time. The query is read before it is let go of. -/
def expire (flight : Flight) (now : Nat) (world : W) : SearchResults × W :=
  let (records, world) := backend.extract flight.handle flight.limit now world
  let (teardown, world) := flight.teardown.run backend now world
  (⟨records, true⟩, (teardown.run backend now world).2)

inductive Launch where
  | failed (error : SearchError)
  | flying (flight : Flight) (started : Started Nat)

def launch (config : SearchConfig) (request : SearchRequest) (number now : Nat) (world : W) :
    Launch × W :=
  match backend.prepare (plan config request) world with
  | (.error error, world) => (.failed error, world)
  | (.ok handle, world) =>
    let (subscription, world) := backend.subscribe handle number world
    let flight : Flight :=
      { number, handle, subscription
        limit := config.effectiveLimit request.limit?
        deadline := deadline now (request.timeoutMs?.getD config.defaultTimeoutMs) }
    let (started, world) := backend.start handle now world
    if started.accepted then (.flying flight started, world)
    else
      let (reason?, world) := backend.startError handle world
      let (teardown, world) := flight.teardown.run backend now world
      (.failed (.backendStartFailure (reason?.getD unknownReason)),
        (teardown.run backend now world).2)

end Orchestrator

end FileSearch
