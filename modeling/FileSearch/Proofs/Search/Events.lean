import FileSearch.Search.Session

set_option autoImplicit false

namespace FileSearch

inductive Event (W : Type) where
  | submit (request : SearchRequest)
  | abandon (number : Nat)
  | signal (signal : Signal Nat)
  | ring
  | expire
  | tick (time : Nat)
  | edit (change : W → W)

-- What callers do and what comes with time, and nothing that an index does by itself.
def Event.isOrdinary {W : Type} : Event W → Bool
  | .signal _ => false
  | .edit _ => false
  | _ => true

namespace Engine

variable {W : Type} (backend : Backend Nat W)

def fresh (config : SearchConfig) (world : W) : Engine W :=
  { orchestrator := { config }, world }

def ring (engine : Engine W) : Engine W :=
  match engine.alarms with
  | [] => engine
  | first :: rest => wake backend { engine with alarms := rest } first.handle

-- What an event does, and what the call of a search gives at once.
def react (engine : Engine W) : Event W → Option Submitted × Engine W
  | .submit request =>
    let (submitted, engine) := engine.submit backend request
    (some submitted, engine)
  | .abandon number => (none, engine.abandon backend number)
  | .signal signal => (none, engine.deliver backend signal)
  | .ring => (none, engine.ring backend)
  | .expire => (none, engine.timeOut backend)
  | .tick time => (none, engine.advance time)
  | .edit change => (none, { engine with world := change engine.world })

def run (engine : Engine W) (events : List (Event W)) : Engine W :=
  events.foldl (fun engine event => (engine.react backend event).2) engine

def withOutcome (engine : Engine W) (outcome? : Option Outcome) : Engine W :=
  { engine with orchestrator := { engine.orchestrator with lastOutcome? := outcome? } }

-- The engine after a search that could not be started.
def grounded (engine : Engine W) (world : W) : Engine W :=
  { engine with
    orchestrator :=
      { engine.orchestrator with
        flown := engine.orchestrator.flown + 1, lastOutcome? := some .failed }
    world }

def boarded (engine : Engine W) (flight : Flight) (alarm? : Option Nat) (world : W) : Engine W :=
  { engine with
    orchestrator :=
      { engine.orchestrator with
        flown := engine.orchestrator.flown + 1, flight? := some flight }
    world
    alarms := Alarm.schedule flight.handle engine.now alarm? engine.alarms }

theorem submit_taken (engine : Engine W) (request : SearchRequest) (flight : Flight)
    (taken : engine.orchestrator.flight? = some flight) :
    engine.submit backend request =
      (.answered (.error .rejectedConcurrent), engine.withOutcome (some .rejected)) := by
  rw [submit]
  simp only [taken, withOutcome]

theorem submit_grounded (engine : Engine W) (request : SearchRequest)
    (free : engine.orchestrator.flight? = none) (error : SearchError) (world : W)
    (failed : Orchestrator.launch backend engine.orchestrator.config request
      engine.orchestrator.flown engine.now engine.world = (.failed error, world)) :
    engine.submit backend request = (.answered (.error error), engine.grounded world) := by
  rw [submit, free]
  simp only [failed, grounded, free]

theorem submit_boarded (engine : Engine W) (request : SearchRequest)
    (free : engine.orchestrator.flight? = none) (flight : Flight) (started : Started Nat)
    (world : W)
    (flew : Orchestrator.launch backend engine.orchestrator.config request
      engine.orchestrator.flown engine.now engine.world = (.flying flight started, world)) :
    engine.submit backend request =
      (.waiting engine.orchestrator.flown,
        (engine.boarded flight started.alarm? world).deliverAll backend started.signals) := by
  rw [submit, free]
  simp only [flew, boarded]

-- The ways in which the call of a search can go.
inductive Submits (engine : Engine W) (request : SearchRequest) : Submitted × Engine W → Prop where
  | rejected (flight : Flight) (taken : engine.orchestrator.flight? = some flight) :
    Submits engine request
      (.answered (.error .rejectedConcurrent), engine.withOutcome (some .rejected))
  | grounded (error : SearchError) (world : W) (free : engine.orchestrator.flight? = none)
      (failed : Orchestrator.launch backend engine.orchestrator.config request
        engine.orchestrator.flown engine.now engine.world = (.failed error, world)) :
    Submits engine request (.answered (.error error), engine.grounded world)
  | boarded (flight : Flight) (started : Started Nat) (world : W)
      (free : engine.orchestrator.flight? = none)
      (flew : Orchestrator.launch backend engine.orchestrator.config request
        engine.orchestrator.flown engine.now engine.world = (.flying flight started, world)) :
    Submits engine request
      (.waiting engine.orchestrator.flown,
        (engine.boarded flight started.alarm? world).deliverAll backend started.signals)

theorem submits (engine : Engine W) (request : SearchRequest) :
    engine.Submits backend request (engine.submit backend request) := by
  cases taken : engine.orchestrator.flight? with
  | some flight =>
    rw [submit_taken _ _ _ flight taken]
    exact .rejected flight taken
  | none =>
    cases launched : Orchestrator.launch backend engine.orchestrator.config request
      engine.orchestrator.flown engine.now engine.world with
    | mk launch world =>
      cases launch with
      | failed error =>
        rw [submit_grounded _ _ _ taken _ _ launched]
        exact .grounded error world taken launched
      | flying flight started =>
        rw [submit_boarded _ _ _ taken _ _ _ launched]
        exact .boarded flight started world taken launched

@[simp] theorem run_nil (engine : Engine W) : engine.run backend [] = engine := rfl

@[simp] theorem run_cons (engine : Engine W) (event : Event W) (rest : List (Event W)) :
    engine.run backend (event :: rest) = (engine.react backend event).2.run backend rest := rfl

theorem run_append (engine : Engine W) (front back : List (Event W)) :
    engine.run backend (front ++ back) = (engine.run backend front).run backend back :=
  List.foldl_append

theorem run_invariant (property : Engine W → Prop)
    (kept : ∀ engine event, property engine → property (engine.react backend event).2)
    (engine : Engine W) (initial : property engine) (events : List (Event W)) :
    property (engine.run backend events) := by
  induction events generalizing engine with
  | nil => exact initial
  | cons event rest ih => exact ih _ (kept engine event initial)

theorem launch_flight (config : SearchConfig) (request : SearchRequest) (number now : Nat)
    (world later : W) (flight : Flight) (started : Started Nat)
    (flew : Orchestrator.launch backend config request number now world =
      (.flying flight started, later)) :
    flight.number = number ∧ flight.deaf = false ∧
      flight.deadline =
        Orchestrator.deadline now (request.timeoutMs?.getD config.defaultTimeoutMs) := by
  rw [Orchestrator.launch] at flew
  split at flew
  · cases flew
  · dsimp only at flew
    split at flew
    · cases flew
      exact ⟨rfl, rfl, rfl⟩
    · cases flew

-- Searches are numbered in order, and the one that holds the slot has not been answered.
structure Numbered (engine : Engine W) : Prop where
  past : ∀ entry ∈ engine.answered, entry.1 < engine.orchestrator.flown
  flying : ∀ flight, engine.orchestrator.flight? = some flight →
    flight.number < engine.orchestrator.flown
  unanswered : ∀ flight, engine.orchestrator.flight? = some flight →
    ∀ entry ∈ engine.answered, entry.1 ≠ flight.number

namespace Numbered

variable {backend}
variable {engine : Engine W}

theorem answer (numbered : engine.Numbered) (flight : Flight)
    (taken : engine.orchestrator.flight? = some flight) : engine.answer? flight.number = none := by
  rw [answer?, List.lookup_eq_none_iff]
  intro entry member
  have other := numbered.unanswered flight taken entry member
  simpa using other.symm

theorem land (numbered : engine.Numbered) (flight : Flight)
    (taken : engine.orchestrator.flight? = some flight) (outcome : Outcome) (answer : Answer)
    (world : W) : (engine.land flight outcome answer world).Numbered := by
  refine ⟨?_, (fun _ free => nomatch free), (fun _ free => nomatch free)⟩
  intro entry member
  rcases List.mem_cons.mp member with rfl | old
  · exact numbered.flying flight taken
  · exact numbered.past entry old

theorem deliver (numbered : engine.Numbered) (signal : Signal Nat) :
    (engine.deliver backend signal).Numbered := by
  rw [Engine.deliver]
  split
  · exact numbered
  next flight taken =>
    split
    · split
      · exact numbered.land flight taken _ _ _
      · exact numbered
    · split
      · refine ⟨numbered.past, ?_, ?_⟩
        · intro deaf same
          cases same
          exact numbered.flying flight taken
        · intro deaf same
          cases same
          exact numbered.unanswered flight taken
      · exact numbered

theorem deliverAll (numbered : engine.Numbered) (signals : List (Signal Nat)) :
    (engine.deliverAll backend signals).Numbered := by
  induction signals generalizing engine with
  | nil => exact numbered
  | cons signal rest ih => exact ih (numbered.deliver signal)

theorem boarded (numbered : engine.Numbered) (request : SearchRequest) (flight : Flight)
    (started : Started Nat) (world : W)
    (flew : Orchestrator.launch backend engine.orchestrator.config request
      engine.orchestrator.flown engine.now engine.world = (.flying flight started, world)) :
    (engine.boarded flight started.alarm? world).Numbered := by
  have number := (launch_flight backend _ _ _ _ _ _ _ _ flew).1
  refine ⟨fun entry member => Nat.lt_succ_of_lt (numbered.past entry member), ?_, ?_⟩
  · intro boarded same
    cases same
    change flight.number < engine.orchestrator.flown + 1
    omega
  · intro boarded same entry member
    cases same
    exact Nat.ne_of_lt (number ▸ numbered.past entry member)

theorem submit (numbered : engine.Numbered) (request : SearchRequest) :
    (engine.submit backend request).2.Numbered := by
  have ways := engine.submits backend request
  generalize engine.submit backend request = submitted at ways ⊢
  cases ways with
  | rejected flight taken => exact ⟨numbered.past, numbered.flying, numbered.unanswered⟩
  | grounded error world free failed =>
    refine ⟨fun entry member => Nat.lt_succ_of_lt (numbered.past entry member), ?_, ?_⟩ <;>
      intro flight same <;> simp [grounded, free] at same
  | boarded flight started world free flew =>
    exact (numbered.boarded request flight started world flew).deliverAll started.signals

theorem react (numbered : engine.Numbered) (event : Event W) :
    (engine.react backend event).2.Numbered := by
  cases event with
  | submit request => exact numbered.submit request
  | abandon number =>
    rw [Engine.react, abandon]
    split
    · exact numbered
    · split
      · exact ⟨numbered.past, (fun _ free => nomatch free), (fun _ free => nomatch free)⟩
      · exact numbered
  | signal sent => exact numbered.deliver sent
  | ring =>
    rw [Engine.react, ring]
    split
    · exact numbered
    · apply deliverAll
      exact ⟨numbered.past, numbered.flying, numbered.unanswered⟩
  | expire =>
    rw [Engine.react, timeOut]
    split
    · exact numbered
    next flight taken => exact numbered.land flight taken _ _ _
  | tick time => exact ⟨numbered.past, numbered.flying, numbered.unanswered⟩
  | edit change => exact ⟨numbered.past, numbered.flying, numbered.unanswered⟩

end Numbered

theorem numbered_fresh (config : SearchConfig) (world : W) : (fresh config world).Numbered := by
  refine ⟨?_, ?_, ?_⟩ <;> intro _ member <;> cases member

theorem numbered_run (config : SearchConfig) (world : W) (events : List (Event W)) :
    ((fresh config world).run backend events).Numbered :=
  run_invariant backend Numbered (fun _ event numbered => numbered.react event) _
    (numbered_fresh config world) events

-- Callers and the clock go on in any order, and not only when something is due.
def Reaches (engine later : Engine W) : Prop :=
  ∃ events, (∀ event ∈ events, event.isOrdinary = true) ∧ engine.run backend events = later

theorem reaches_refl (engine : Engine W) : engine.Reaches backend engine := ⟨[], by simp, rfl⟩

theorem reaches_trans (first second third : Engine W) (front : first.Reaches backend second)
    (back : second.Reaches backend third) : first.Reaches backend third := by
  obtain ⟨early, before, rfl⟩ := front
  obtain ⟨late, after, rfl⟩ := back
  exact ⟨early ++ late, List.forall_mem_append.mpr ⟨before, after⟩,
    run_append backend first early late⟩

theorem reaches_advance (engine : Engine W) (time : Nat) :
    engine.Reaches backend (engine.advance time) :=
  ⟨[.tick time], by simp [Event.isOrdinary], rfl⟩

theorem next_alarm (engine : Engine W) (first : Alarm) (rest : List Alarm)
    (next : engine.next? = some (.alarm first rest)) : engine.alarms = first :: rest := by
  rw [next?] at next
  split at next
  case h_1 => cases next
  case h_2 => cases next
  case h_3 listed _ =>
    cases next
    exact listed
  case h_4 listed _ =>
    split at next
    · cases next
      exact listed
    · cases next

theorem reaches_happen (engine : Engine W) (due : Due) (next : engine.next? = some due) :
    engine.Reaches backend (engine.happen backend due) := by
  cases due with
  | deadline time => exact ⟨[.tick time, .expire], by simp [Event.isOrdinary], rfl⟩
  | alarm first rest =>
    have queued := engine.next_alarm first rest next
    refine ⟨[.tick first.due, .ring], by simp [Event.isOrdinary], ?_⟩
    simp [react, ring, advance, queued, happen, Due.time]

theorem reaches_runWhile (goOn : Engine W → Bool) (limit? : Option Nat) (fuel : Nat)
    (engine : Engine W) : engine.Reaches backend (engine.runWhile backend goOn limit? fuel) := by
  -- Each turn is a tick up to what is due and the event itself.
  induction fuel generalizing engine with
  | zero => exact reaches_refl backend engine
  | succ fuel ih =>
    rw [runWhile]
    cases next : engine.next? with
    | none => exact reaches_refl backend engine
    | some due =>
      by_cases go : (goOn engine && limit?.all (due.time ≤ ·)) = true
      · simp only [go, if_true]
        exact reaches_trans backend _ _ _ (reaches_happen backend engine due next) (ih _)
      · simp only [go]
        exact reaches_refl backend engine

theorem reaches_runUntil (engine : Engine W) (time : Nat) :
    engine.Reaches backend (engine.runUntil backend time) :=
  reaches_trans backend _ _ _ (reaches_runWhile backend _ _ _ engine) (reaches_advance backend _ _)

theorem reaches_submit (engine : Engine W) (request : SearchRequest) :
    engine.Reaches backend (engine.submit backend request).2 :=
  ⟨[.submit request], by simp [Event.isOrdinary], rfl⟩

theorem reaches_abandon (engine : Engine W) (number : Nat) :
    engine.Reaches backend (engine.abandon backend number) :=
  ⟨[.abandon number], by simp [Event.isOrdinary], rfl⟩

end Engine

namespace Session

open Engine

variable {W : Type} (backend : Backend Nat W)

theorem reaches_await (number : Nat) (engine : Engine W) :
    engine.Reaches backend (await backend number engine).2 := by
  rw [await]
  split <;> exact reaches_runWhile backend _ _ _ engine

theorem reaches_awaitUntil (time number : Nat) (engine : Engine W) :
    engine.Reaches backend (awaitUntil backend time number engine).2 := by
  rw [awaitUntil]
  split
  · exact reaches_runWhile backend _ _ _ engine
  · apply reaches_trans backend _ _ _ (reaches_runWhile backend _ _ _ engine)
    apply reaches_trans backend _ _ _ (reaches_advance backend _ time)
    exact reaches_abandon backend _ number

theorem reaches_call (session : Session W) (request : Except SearchError SearchRequest)
    (waiting : Nat → Engine W → StepResult × Engine W)
    (waits : ∀ number (engine : Engine W), engine.Reaches backend (waiting number engine).2) :
    session.engine.Reaches backend (session.call backend request waiting).2.engine := by
  cases request with
  | error error => exact reaches_refl backend _
  | ok request =>
    have submitted := reaches_submit backend session.engine request
    rw [call]
    split
    next answer engine called =>
      rw [called] at submitted
      exact submitted
    next number engine called =>
      rw [called] at submitted
      exact reaches_trans backend _ _ _ submitted (waits number engine)

theorem reaches_takeStep (session : Session W) (step : SessionStep W)
    (keeps : ∀ edit, step ≠ .change edit) :
    session.engine.Reaches backend (session.takeStep backend step).2.engine := by
  cases step with
  | search request => exact reaches_call backend session request _ (reaches_await backend)
  | abandon request afterMs =>
    exact reaches_call backend session request _ (reaches_awaitUntil backend _)
  | spawn id request =>
    cases request with
    | error error => exact reaches_refl backend _
    | ok request => exact reaches_submit backend session.engine request
  | join id =>
    rw [takeStep, join]
    split
    · exact reaches_refl backend _
    · exact reaches_await backend _ _
    · exact reaches_refl backend _
    · exact reaches_refl backend _
  | abort id =>
    rw [takeStep, abort]
    split
    · split
      · exact reaches_refl backend _
      · exact reaches_abandon backend _ _
    · exact reaches_refl backend _
  | sleep ms => exact reaches_runUntil backend _ _
  | change edit => exact absurd rfl (keeps edit)
  | describe => exact reaches_refl backend _

theorem reaches_step (session : Session W) (step : SessionStep W)
    (keeps : ∀ edit, step ≠ .change edit) :
    session.engine.Reaches backend (session.step backend step).2.engine :=
  reaches_trans backend _ _ _ (reaches_takeStep backend session step keeps)
    (reaches_runUntil backend _ _)

theorem reaches_steps (session : Session W) (steps : List (SessionStep W))
    (keeps : ∀ step ∈ steps, ∀ edit, step ≠ .change edit) :
    session.engine.Reaches backend
      (steps.foldl (fun session step => (session.step backend step).2) session).engine := by
  induction steps generalizing session with
  | nil => exact reaches_refl backend _
  | cons step rest ih =>
    obtain ⟨keep, keeps⟩ := List.forall_mem_cons.mp keeps
    exact reaches_trans backend _ _ _ (reaches_step backend session step keep) (ih _ keeps)

end Session

end FileSearch
