import FileSearch.Search.Orchestrator

set_option autoImplicit false

namespace FileSearch

structure Engine (W : Type) where
  orchestrator : Orchestrator
  world : W
  now : Nat := 0
  alarms : List Alarm := []
  answered : List (Nat × Answer) := []

inductive Submitted where
  | answered (answer : Answer)
  | waiting (number : Nat)

namespace Engine

variable {W : Type} (backend : Backend Nat W)

def land (engine : Engine W) (flight : Flight) (outcome : Outcome) (answer : Answer) (world : W) :
    Engine W :=
  { engine with
    orchestrator :=
      { engine.orchestrator with flight? := none, lastOutcome? := some outcome }
    world
    answered := (flight.number, answer) :: engine.answered }

def deliver (engine : Engine W) (signal : Signal Nat) : Engine W :=
  match engine.orchestrator.flight? with
  | none => engine
  | some flight =>
    match signal with
    | .fired listener =>
      if listener = flight.number ∧ ¬ flight.deaf then
        let (results, world) := Orchestrator.complete backend flight engine.now engine.world
        engine.land flight .completed (.ok results) world
      else engine
    | .lost listener =>
      -- The search goes on, but only its deadline can end it.
      if listener = flight.number then
        { engine with
          orchestrator :=
            { engine.orchestrator with flight? := some { flight with deaf := true } } }
      else engine

def deliverAll (engine : Engine W) (signals : List (Signal Nat)) : Engine W :=
  signals.foldl (deliver backend) engine

def submit (engine : Engine W) (request : SearchRequest) : Submitted × Engine W :=
  let orchestrator := engine.orchestrator
  match orchestrator.flight? with
  | some _ =>
    (.answered (.error .rejectedConcurrent),
      { engine with
        orchestrator := { orchestrator with lastOutcome? := some .rejected } })
  | none =>
    let number := orchestrator.flown
    let orchestrator := { orchestrator with flown := number + 1 }
    match Orchestrator.launch backend orchestrator.config request number engine.now engine.world with
    | (.failed error, world) =>
      (.answered (.error error),
        { engine with
          orchestrator := { orchestrator with lastOutcome? := some .failed }
          world })
    | (.flying flight started, world) =>
      -- The slot is taken before the listener hears of anything.
      let engine :=
        { engine with
          orchestrator := { orchestrator with flight? := some flight }
          world
          alarms := Alarm.schedule flight.handle engine.now started.alarm? engine.alarms }
      (.waiting number, deliverAll backend engine started.signals)

def abandon (engine : Engine W) (number : Nat) : Engine W :=
  match engine.orchestrator.flight? with
  | none => engine
  | some flight =>
    if flight.number = number then
      -- The query is let go of while the slot is still taken.
      let world := Orchestrator.tearDown backend flight engine.now engine.world
      { engine with
        orchestrator := { engine.orchestrator with flight? := none }
        world }
    else engine

def timeOut (engine : Engine W) : Engine W :=
  match engine.orchestrator.flight? with
  | none => engine
  | some flight =>
    let (results, world) := Orchestrator.expire backend flight engine.now engine.world
    engine.land flight .timedOut (.ok results) world

def wake (engine : Engine W) (handle : Nat) : Engine W :=
  let (signals, world) := backend.wake handle engine.now engine.world
  deliverAll backend { engine with world } signals

inductive Due where
  | alarm (first : Alarm) (rest : List Alarm)
  | deadline (due : Nat)

def Due.time : Due → Nat
  | .alarm first _ => first.due
  | .deadline due => due

def next? (engine : Engine W) : Option Due :=
  match engine.alarms, engine.orchestrator.flight? with
  | [], none => none
  | [], some flight => some (.deadline flight.deadline)
  | first :: rest, none => some (.alarm first rest)
  | first :: rest, some flight =>
    if first.due ≤ flight.deadline then some (.alarm first rest)
    else some (.deadline flight.deadline)

def advance (engine : Engine W) (time : Nat) : Engine W :=
  { engine with now := max engine.now time }

def happen (engine : Engine W) (due : Due) : Engine W :=
  let engine := engine.advance due.time
  match due with
  | .alarm first rest => wake backend { engine with alarms := rest } first.handle
  | .deadline _ => timeOut backend engine

def pending (engine : Engine W) : Nat :=
  engine.alarms.length + 1

-- Lets happen, at most `fuel` times, what is due by a time as long as `goOn` says so.
def runWhile (goOn : Engine W → Bool) (limit? : Option Nat) : Nat → Engine W → Engine W
  | 0, engine => engine
  | fuel + 1, engine =>
    match engine.next? with
    | none => engine
    | some due =>
      if goOn engine && limit?.all (due.time ≤ ·) then
        runWhile goOn limit? fuel (happen backend engine due)
      else engine

def runUntil (engine : Engine W) (time : Nat) : Engine W :=
  (runWhile backend (fun _ => true) (some time) engine.pending engine).advance time

def settle (engine : Engine W) : Engine W :=
  runUntil backend engine engine.now

def answer? (engine : Engine W) (number : Nat) : Option Answer :=
  engine.answered.lookup number

def runUntilAnswered (engine : Engine W) (number : Nat) (limit? : Option Nat) : Engine W :=
  runWhile backend (fun engine => (engine.answer? number).isNone) limit? engine.pending engine

end Engine

end FileSearch
