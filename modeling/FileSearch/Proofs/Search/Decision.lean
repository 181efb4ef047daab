import FileSearch.Proofs.Search.Late
import FileSearch.Proofs.Search.Verdict

set_option autoImplicit false

namespace FileSearch

-- What listeners hear of.
def Event.isSignalling {W : Type} : Event W → Bool
  | .signal _ => true
  | .ring => true
  | _ => false

namespace Engine

section

variable {W : Type} (backend : Backend Nat W)

def deadlineOf (engine : Engine W) (request : SearchRequest) : Nat :=
  Orchestrator.deadline engine.now
    (request.timeoutMs?.getD engine.orchestrator.config.defaultTimeoutMs)

-- A course after the call of a search that has to wait: it keeps to the clock, the caller does not
-- give up, and nothing becomes of the listener at the deadline itself.
structure Pursues (engine : Engine W) (request : SearchRequest) (number : Nat)
    (course : List (Event W)) : Prop where
  waiting : (engine.react backend (.submit request)).1 = some (.waiting number)
  timely : engine.Along backend Event.MindsDeadline (.submit request :: course)
  stays : ∀ event ∈ course, event.givesUp number = false
  untied : ∀ fate ∈ engine.fates backend number (.submit request :: course),
    fate.1 ≠ engine.deadlineOf request

theorem pursued_boarded (engine : Engine W) (request : SearchRequest) (number : Nat)
    (waiting : (engine.react backend (.submit request)).1 = some (.waiting number)) :
    engine.orchestrator.flight? = none ∧ number = engine.orchestrator.flown ∧
      ∃ flight started world,
        Orchestrator.launch backend engine.orchestrator.config request engine.orchestrator.flown
          engine.now engine.world = (.flying flight started, world) := by
  have ways := engine.submits backend request
  rw [react] at waiting
  generalize engine.submit backend request = submitted at ways waiting
  cases ways with
  | rejected flight taken => cases waiting
  | grounded error world free failed => cases waiting
  | boarded flight started world free flew =>
    cases waiting
    exact ⟨free, rfl, flight, started, world, flew⟩

theorem pursued_verdict (engine : Engine W) (numbered : engine.Numbered) (request : SearchRequest)
    (number : Nat) (course : List (Event W)) (pursues : engine.Pursues backend request number course) :
    (engine.runTo backend number (.submit request :: course)).Verdict number
      (engine.deadlineOf request)
      (FiredInTime number (engine.deadlineOf request)
        (engine.fates backend number (.submit request :: course))) := by
  obtain ⟨free, rfl, flight, started, world, flew⟩ :=
    pursued_boarded backend engine request number pursues.waiting
  obtain ⟨own, hears, deadline⟩ := launch_flight backend _ _ _ _ _ _ _ _ flew
  have deadline : engine.deadlineOf request = flight.deadline := deadline.symm
  have waits := boarded_waits backend engine numbered request flight started world flew
  have unanswered : engine.answer? flight.number = none := waits.unanswered
  have early : engine.now ≤ flight.deadline := waits.early
  -- The signals of the start reach the search as soon as it waits.
  have stride : Stride flight (engine.heard backend (.submit request)) engine.now
      (engine.react backend (.submit request)).2 := by
    rw [heard, free, flew, react, submit_boarded _ _ _ free _ _ _ flew]
    exact deliverAll_stride backend _ flight waits started.signals
  obtain ⟨-, timely, stays, untied⟩ := pursues
  rw [deadline] at untied ⊢
  rw [← own] at stays untied ⊢
  have verdict := stride.verdict backend unanswered early untied fun later number deadline still => by
    rw [← number, ← deadline] at untied ⊢
    exact runTo_verdict backend _ later still course timely.2 (number ▸ stays)
      fun fate member => untied fate (List.mem_append_right _ member)
  exact verdict.of_iff (by simp [hears])

theorem pursued_ends (engine : Engine W) (numbered : engine.Numbered)
    (ordered : Alarm.Ordered engine.alarms) (request : SearchRequest) (number : Nat)
    (waiting : (engine.react backend (.submit request)).1 = some (.waiting number)) :
    (((engine.submit backend request).2.runUntilAnswered backend number none).answer? number).isSome =
      true := by
  obtain ⟨free, rfl, flight, started, world, flew⟩ :=
    pursued_boarded backend engine request number waiting
  have own := (launch_flight backend _ _ _ _ _ _ _ _ flew).1
  have waits := boarded_waits backend engine numbered request flight started world flew
  have ordered := (react_follows backend engine (.submit request)).ordered ordered
  rw [react, submit_boarded _ _ _ free _ _ _ flew] at ordered
  rw [submit_boarded _ _ _ free _ _ _ flew, ← own]
  cases deliverAll_stride backend _ flight waits started.signals with
  | waiting still => exact runUntilAnswered_ends backend _ flight still ordered
  | deafened still => exact runUntilAnswered_ends backend _ { flight with deaf := true } still ordered
  | completed ended =>
    rw [runUntilAnswered, runWhile_answered _ _ _ _ _ ended.isSome]
    exact ended.isSome
  | timedOut ended =>
    rw [runUntilAnswered, runWhile_answered _ _ _ _ _ ended.isSome]
    exact ended.isSome

end

variable {W : Type} (backend : Backend Nat W)

theorem late_signals (late : Engine (Recorder W)) (number : Nat) (answer : Answer)
    (past : late.Past number answer) (event : Event W) (signalling : event.isSignalling = true)
    (own : ∀ signal ∈ late.heard backend.recorded event.recorded, signal.listener = number) :
    let after := (late.react backend.recorded event.recorded).2
    after.answered = late.answered ∧ after.orchestrator = late.orchestrator ∧
      after.world.calls = late.world.calls := by
  have foreign : ∀ signal ∈ late.heard backend.recorded event.recorded, ∀ flight,
      late.orchestrator.flight? = some flight → signal.listener ≠ flight.number :=
    fun signal member flight flying => own signal member ▸ past.foreign flight flying
  cases event with
  | signal sent =>
    have passes := deliverAll_foreign backend.recorded late [sent] foreign
    have same : (late.react backend.recorded (Event.signal sent).recorded).2 = late := passes
    simp [same]
  | ring =>
    rw [Event.recorded, react]
    cases queued : late.alarms with
    | nil => simp [Engine.ring, queued]
    | cons first rest =>
      rw [Event.recorded, heard, queued] at foreign
      have passes := deliverAll_foreign backend.recorded (late.woken backend.recorded first rest) _
        foreign
      rw [ring_queued _ _ _ _ queued, passes]
      exact ⟨rfl, rfl, rfl⟩
  | _ => cases signalling

/-- A search is completed exactly if its own listener is fired before its deadline. Else it is out of
time, not before the deadline, or still waits for it. Left to the clock it ends, and after that its
listener reaches nobody. -/
theorem listener_decides_search (config : SearchConfig) (world : W) (before : List (Event W))
    (request : SearchRequest) (number : Nat) (course : List (Event W))
    (pursues : (recordedRun backend config world before).Pursues backend.recorded request number
      (course.map Event.recorded)) :
    let engine := recordedRun backend config world before
    let deadline := engine.deadlineOf request
    let events := .submit request :: course.map Event.recorded
    let inTime := FiredInTime number deadline (engine.fates backend.recorded number events)
    let ended := engine.runTo backend.recorded number events
    (inTime → ended.Ended number .completed false ∧ ended.now < deadline) ∧
      (¬ inTime → ended.Ended number .timedOut true ∧ deadline ≤ ended.now ∨
        ∃ flight : Flight, flight.number = number ∧ flight.deadline = deadline ∧
          ended.Waits flight) ∧
      (((engine.submit backend.recorded request).2.runUntilAnswered backend.recorded number
        none).answer? number).isSome = true ∧
      ∀ answer, ended.answer? number = some answer → ∀ more : List (Event W),
        let late := ended.run backend.recorded (more.map Event.recorded)
        late.answer? number = some answer ∧
          (∀ signals, late.deliverAll backend.recorded signals =
            late.deliverAll backend.recorded (signals.filter (·.listener ≠ number))) ∧
          ∀ event : Event W, event.isSignalling = true →
            (∀ signal ∈ late.heard backend.recorded event.recorded, signal.listener = number) →
            let after := (late.react backend.recorded event.recorded).2
            after.answered = late.answered ∧ after.orchestrator = late.orchestrator ∧
              after.world.calls = late.world.calls := by
  intro engine deadline events inTime ended
  have numbered : engine.Numbered := numbered_run backend.recorded config { world } _
  have ordered : Alarm.Ordered engine.alarms := ordered_run backend.recorded config { world } _
  obtain ⟨intime, otherwise⟩ :=
    pursued_verdict backend.recorded engine numbered request number _ pursues
  refine ⟨intime, otherwise,
    pursued_ends backend.recorded engine numbered ordered request number pursues.waiting, ?_⟩
  intro answer answered more late
  have past : ended.Past number answer :=
    ⟨runTo_numbered backend.recorded number engine numbered events, answered⟩
  have past : late.Past number answer := past.run (more.map Event.recorded)
  exact ⟨past.answered, past.deliverAll_without,
    fun event signalling own => late_signals backend late number answer past event signalling own⟩

-- A listener that is lost after 2 ms of 5, with a leaky index that fires it after all.
def lostCourse : List (Event (Rehearsal Nat)) :=
  [.tick 2, .signal (.lost 0), .tick 5, .expire, .tick 7, .signal (.fired 0)]

theorem lost_listener_waits_for_deadline :
    let start := recordedRun (Rehearsal.backend Nat) {}
      { script := .never, records := [none], count := 1, leaky := true } []
    let request : SearchRequest := { criteria := .query .matchAll, timeoutMs? := some 5 }
    let events := lostCourse.map Event.recorded
    let ended := start.runTo (Rehearsal.backend Nat).recorded 0 (.submit request :: events)
    start.Pursues (Rehearsal.backend Nat).recorded request 0 events ∧
      ended.Ended 0 .timedOut true ∧ 5 ≤ ended.now := by
  intro start request events ended
  have fates : start.fates (Rehearsal.backend Nat).recorded 0 (.submit request :: events) =
      [(2, .lost 0), (7, .fired 0)] := rfl
  have pursues : start.Pursues (Rehearsal.backend Nat).recorded request 0 events := by
    refine ⟨rfl, ?_, ?_, ?_⟩
    · refine ⟨trivial, ?_, trivial, ?_, ?_, ?_, trivial, trivial⟩
      · intro flight flying
        cases flying
        decide
      · intro flight flying
        cases flying
        decide
      · intro flight flying
        cases flying
        decide
      · intro flight flying
        cases flying
    · simp [events, lostCourse, Event.recorded, Event.givesUp]
    · have deadline : start.deadlineOf request = 5 := rfl
      simp [fates, deadline]
  have missed : ¬ FiredInTime 0 5 (start.fates (Rehearsal.backend Nat).recorded 0
      (.submit request :: events)) := by
    rw [fates]
    rintro ⟨time, -, first⟩
    cases first
  refine ⟨pursues, ?_⟩
  have decided := (listener_decides_search (Rehearsal.backend Nat) {}
    { script := .never, records := [none], count := 1, leaky := true } [] request 0 lostCourse
    pursues).2.1 missed
  rcases decided with ended | ⟨flight, -, -, waits⟩
  · exact ended
  · cases waits.flying

end Engine

end FileSearch
