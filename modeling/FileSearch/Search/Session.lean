import FileSearch.Search.Engine
import FileSearch.Text.Quoted

set_option autoImplicit false

namespace FileSearch

-- A step of a session. A request that could not be read stands as its error.
inductive SessionStep (W : Type) where
  | search (request : Except SearchError SearchRequest)
  | abandon (request : Except SearchError SearchRequest) (afterMs : Nat)
  | spawn (id : String) (request : Except SearchError SearchRequest)
  | join (id : String)
  | abort (id : String)
  | sleep (ms : Nat)
  | change (edit : W → W)
  | describe

inductive StepResult where
  | nothing
  | answer (answer : Answer)
  | abandoned
  | text (text : String)

inductive BackgroundSearch where
  | ended (answer : Answer)
  | waiting (number : Nat)
  | aborted

structure Session (W : Type) where
  engine : Engine W
  background : List (String × BackgroundSearch) := []

namespace Orchestrator

def outcomeText : Option Outcome → String
  | none => "None"
  | some .completed => "Some(Completed)"
  | some .timedOut => "Some(TimedOut)"
  | some .failed => "Some(Failed)"
  | some .rejected => "Some(Rejected)"

def describe (orchestrator : Orchestrator) : String :=
  let config := orchestrator.config
  let scopes := ", ".intercalate (config.defaultScopes.map fun path => Text.quoted path.text)
  "SearchOrchestrator \x7b config: SearchConfig \x7b default_limit: " ++ config.defaultLimit.repr ++
    ", max_limit: " ++ config.maxLimit.repr ++ ", default_timeout_ms: " ++
    config.defaultTimeoutMs.repr ++ ", default_scopes: [" ++ scopes ++
    "] \x7d, slot: Slot \x7b running: " ++
    (if orchestrator.flight?.isSome then "true" else "false") ++ ", last_outcome: " ++
    outcomeText orchestrator.lastOutcome? ++ " \x7d \x7d"

end Orchestrator

namespace Session

variable {W : Type} (backend : Backend Nat W)

def start (config : SearchConfig) (world : W) : Session W :=
  { engine := { orchestrator := { config }, world } }

def withEngine (session : Session W) (engine : Engine W) : Session W :=
  { session with engine }

def call (session : Session W) (request : Except SearchError SearchRequest)
    (waiting : Nat → Engine W → StepResult × Engine W) : StepResult × Session W :=
  match request with
  | .error error => (.answer (.error error), session)
  | .ok request =>
    match session.engine.submit backend request with
    | (.answered answer, engine) => (.answer answer, session.withEngine engine)
    | (.waiting number, engine) =>
      let (result, engine) := waiting number engine
      (result, session.withEngine engine)

def await (number : Nat) (engine : Engine W) : StepResult × Engine W :=
  let engine := engine.runUntilAnswered backend number none
  match engine.answer? number with
  | some answer => (.answer answer, engine)
  | none => (.abandoned, engine)

def awaitUntil (time number : Nat) (engine : Engine W) : StepResult × Engine W :=
  let engine := engine.runUntilAnswered backend number (some time)
  match engine.answer? number with
  | some answer => (.answer answer, engine)
  | none => (.abandoned, (engine.advance time).abandon backend number)

def spawn (session : Session W) (id : String) (request : SearchRequest) : Session W :=
  let (submitted, engine) := session.engine.submit backend request
  let search := match submitted with
    | .answered answer => BackgroundSearch.ended answer
    | .waiting number => BackgroundSearch.waiting number
  { engine, background := (id, search) :: session.background }

def join (session : Session W) (id : String) : StepResult × Session W :=
  match session.background.lookup id with
  | some (.ended answer) => (.answer answer, session)
  | some (.waiting number) =>
    let (result, engine) := await backend number session.engine
    (result, session.withEngine engine)
  | some .aborted => (.abandoned, session)
  | none => (.nothing, session)

def abort (session : Session W) (id : String) : Session W :=
  match session.background.lookup id with
  | some (.waiting number) =>
    match session.engine.answer? number with
    | some _ => session
    | none =>
      { engine := session.engine.abandon backend number
        background := (id, .aborted) :: session.background }
  | _ => session

def takeStep (session : Session W) : SessionStep W → StepResult × Session W
  | .search request => session.call backend request (await backend)
  | .abandon request afterMs =>
    session.call backend request (awaitUntil backend (session.engine.now + afterMs))
  | .spawn _ (.error error) => (.answer (.error error), session)
  | .spawn id (.ok request) => (.nothing, session.spawn backend id request)
  | .join id => session.join backend id
  | .abort id => (.nothing, session.abort backend id)
  | .sleep ms =>
    let engine := session.engine
    (.nothing, session.withEngine (engine.runUntil backend (engine.now + ms)))
  | .change edit =>
    let engine := session.engine
    (.nothing, session.withEngine { engine with world := edit engine.world })
  | .describe => (.text session.engine.orchestrator.describe, session)

def step (session : Session W) (step : SessionStep W) : StepResult × Session W :=
  let (result, session) := session.takeStep backend step
  (result, session.withEngine (session.engine.settle backend))

end Session

end FileSearch
