import FileSearch.Proofs.Search.Teardown

set_option autoImplicit false

namespace FileSearch

def Event.isSubmit {W : Type} : Event W → Bool
  | .submit _ => true
  | _ => false

namespace Engine

section

variable {W : Type} (backend : Backend Nat W)

-- Two engines that differ at most in how the last search ended.
def Alike (engine other : Engine W) : Prop :=
  ∃ outcome?, other = engine.withOutcome outcome?

theorem alike_refl (engine : Engine W) : engine.Alike engine :=
  ⟨engine.orchestrator.lastOutcome?, rfl⟩

theorem alike_symm (engine other : Engine W) (alike : engine.Alike other) : other.Alike engine := by
  obtain ⟨outcome?, rfl⟩ := alike
  exact ⟨engine.orchestrator.lastOutcome?, rfl⟩

theorem alike_trans (first second third : Engine W) (left : first.Alike second)
    (right : second.Alike third) : first.Alike third := by
  obtain ⟨early?, rfl⟩ := left
  obtain ⟨late?, rfl⟩ := right
  exact ⟨late?, rfl⟩

@[simp] theorem withOutcome_flight (engine : Engine W) (outcome? : Option Outcome) :
    (engine.withOutcome outcome?).orchestrator.flight? = engine.orchestrator.flight? := rfl

theorem alike_deliver (engine other : Engine W) (alike : engine.Alike other)
    (signal : Signal Nat) :
    (engine.deliver backend signal).Alike (other.deliver backend signal) := by
  obtain ⟨outcome?, rfl⟩ := alike
  rw [deliver, deliver, withOutcome_flight]
  cases engine.orchestrator.flight? with
  | none => exact ⟨outcome?, rfl⟩
  | some flight =>
    cases signal with
    | fired listener =>
      dsimp only
      split
      · exact alike_refl _
      · exact ⟨outcome?, rfl⟩
    | lost listener =>
      dsimp only
      split <;> exact ⟨outcome?, rfl⟩

theorem alike_deliverAll (engine other : Engine W) (alike : engine.Alike other)
    (signals : List (Signal Nat)) :
    (engine.deliverAll backend signals).Alike (other.deliverAll backend signals) := by
  induction signals generalizing engine other with
  | nil => exact alike
  | cons signal rest ih => exact ih _ _ (alike_deliver backend engine other alike signal)

theorem alike_submit (engine other : Engine W) (alike : engine.Alike other)
    (request : SearchRequest) :
    (engine.submit backend request).1 = (other.submit backend request).1 ∧
      (engine.submit backend request).2.Alike (other.submit backend request).2 := by
  obtain ⟨outcome?, rfl⟩ := alike
  cases taken : engine.orchestrator.flight? with
  | some flight =>
    rw [submit_taken backend engine _ flight taken,
      submit_taken backend (engine.withOutcome outcome?) _ flight taken]
    exact ⟨rfl, alike_refl _⟩
  | none =>
    cases launched : Orchestrator.launch backend engine.orchestrator.config request
      engine.orchestrator.flown engine.now engine.world with
    | mk launch world =>
      cases launch with
      | failed error =>
        rw [submit_grounded backend engine _ taken _ _ launched,
          submit_grounded backend (engine.withOutcome outcome?) _ taken _ _ launched]
        exact ⟨rfl, alike_refl _⟩
      | flying flight started =>
        rw [submit_boarded backend engine _ taken _ _ _ launched,
          submit_boarded backend (engine.withOutcome outcome?) _ taken _ _ _ launched]
        refine ⟨rfl, alike_deliverAll backend _ _ ⟨outcome?, rfl⟩ _⟩

-- The outcome of the last search is never looked at.
theorem alike_react (engine other : Engine W) (alike : engine.Alike other) (event : Event W) :
    (engine.react backend event).1 = (other.react backend event).1 ∧
      (engine.react backend event).2.Alike (other.react backend event).2 := by
  cases event with
  | submit request =>
    have submitted := alike_submit backend engine other alike request
    exact ⟨congrArg some submitted.1, submitted.2⟩
  | signal sent => exact ⟨rfl, alike_deliver backend engine other alike sent⟩
  | abandon number =>
    refine ⟨rfl, ?_⟩
    obtain ⟨outcome?, rfl⟩ := alike
    rw [react, react, abandon, abandon, withOutcome_flight]
    cases engine.orchestrator.flight? with
    | none => exact ⟨outcome?, rfl⟩
    | some flight =>
      dsimp only
      split <;> exact ⟨outcome?, rfl⟩
  | ring =>
    refine ⟨rfl, ?_⟩
    obtain ⟨outcome?, rfl⟩ := alike
    rw [react, react, ring, ring]
    have queue : (engine.withOutcome outcome?).alarms = engine.alarms := rfl
    rw [queue]
    cases engine.alarms with
    | nil => exact ⟨outcome?, rfl⟩
    | cons first rest => exact alike_deliverAll backend _ _ ⟨outcome?, rfl⟩ _
  | expire =>
    refine ⟨rfl, ?_⟩
    obtain ⟨outcome?, rfl⟩ := alike
    rw [react, react, timeOut, timeOut, withOutcome_flight]
    cases engine.orchestrator.flight? with
    | none => exact ⟨outcome?, rfl⟩
    | some flight => exact alike_refl _
  | tick time =>
    obtain ⟨outcome?, rfl⟩ := alike
    exact ⟨rfl, outcome?, rfl⟩
  | edit change =>
    obtain ⟨outcome?, rfl⟩ := alike
    exact ⟨rfl, outcome?, rfl⟩

end

def rejects {V W : Type} (engine : Engine V) (event : Event W) : Bool :=
  event.isSubmit && engine.orchestrator.flight?.isSome

variable {W : Type} (backend : Backend Nat W)

-- The events without the calls that find the slot taken.
def admitted (engine : Engine (Recorder W)) : List (Event W) → List (Event W)
  | [] => []
  | event :: rest =>
    let later := (engine.react backend.recorded event.recorded).2
    if engine.rejects event then admitted later rest else event :: admitted later rest

end Engine

-- What can be seen of an event: what the call of a search gave at once, and, after it, the answers
-- and the calls on the index so far, the time, and the search that holds the slot.
structure Observation where
  rejected : Bool
  submitted? : Option Submitted
  answered : List (Nat × Answer)
  calls : List BackendCall
  now : Nat
  slot? : Option Flight

namespace Engine

variable {W : Type} (backend : Backend Nat W)

def observation (engine : Engine (Recorder W)) (event : Event W) : Observation :=
  let reacted := engine.react backend.recorded event.recorded
  { rejected := engine.rejects event
    submitted? := reacted.1
    answered := reacted.2.answered
    calls := reacted.2.world.calls
    now := reacted.2.now
    slot? := reacted.2.orchestrator.flight? }

def observations (engine : Engine (Recorder W)) : List (Event W) → List Observation
  | [] => []
  | event :: rest =>
    engine.observation backend event ::
      observations (engine.react backend.recorded event.recorded).2 rest

theorem rejects_alike {V : Type} (engine other : Engine V) (alike : engine.Alike other)
    (event : Event W) : other.rejects event = engine.rejects event := by
  obtain ⟨outcome?, rfl⟩ := alike
  rfl

theorem observation_alike (engine other : Engine (Recorder W)) (alike : engine.Alike other)
    (event : Event W) : other.observation backend event = engine.observation backend event := by
  have rejected := rejects_alike engine other alike event
  obtain ⟨submitted, outcome?, later⟩ :=
    alike_react backend.recorded engine other alike event.recorded
  rw [observation, observation]
  simp only [rejected, submitted, later]
  rfl

theorem rejected_alike (engine : Engine (Recorder W)) (event : Event W)
    (rejected : engine.rejects event = true) :
    engine.Alike (engine.react backend.recorded event.recorded).2 := by
  cases event with
  | submit request =>
    obtain ⟨flight, taken⟩ := Option.isSome_iff_exists.mp rejected
    rw [Event.recorded, react, submit_taken _ _ _ flight taken]
    exact ⟨some .rejected, rfl⟩
  | _ => cases rejected

theorem observations_admitted (engine other : Engine (Recorder W)) (alike : engine.Alike other)
    (events : List (Event W)) :
    other.observations backend (engine.admitted backend events) =
        (engine.observations backend events).filter (fun seen => !seen.rejected) ∧
      (engine.run backend.recorded (events.map Event.recorded)).Alike
        (other.run backend.recorded ((engine.admitted backend events).map Event.recorded)) := by
  -- A rejected call moves one of two alike engines only, and they stay alike; any other event moves
  -- both.
  induction events generalizing engine other with
  | nil => exact ⟨rfl, alike⟩
  | cons event rest ih =>
    have seen : (engine.observation backend event).rejected = engine.rejects event := rfl
    rw [admitted, observations, List.filter_cons, seen]
    cases rejected : engine.rejects event with
    | true =>
      have unchanged := rejected_alike backend engine event rejected
      have same := alike_trans _ _ _ (alike_symm _ _ unchanged) alike
      simpa using ih _ other same
    | false =>
      have reacted := (alike_react backend.recorded engine other alike event.recorded).2
      obtain ⟨later, final⟩ := ih _ _ reacted
      simp only [Bool.false_eq_true, if_false, Bool.not_false, if_true, observations,
        observation_alike backend engine other alike event, later]
      exact ⟨trivial, final⟩

theorem deliver_adds (engine : Engine (Recorder W)) (signal : Signal Nat) :
    let later := engine.deliver backend.recorded signal
    (∃ more, later.world.calls = engine.world.calls ++ more) ∧
      later.orchestrator.flown = engine.orchestrator.flown ∧
      (later.orchestrator.lastOutcome? = some .rejected →
        engine.orchestrator.lastOutcome? = some .rejected) := by
  have unchanged : ∃ more, engine.world.calls = engine.world.calls ++ more :=
    ⟨[], (List.append_nil _).symm⟩
  rw [deliver]
  split
  · exact ⟨unchanged, rfl, id⟩
  next flight _ =>
    split
    · split
      · obtain ⟨reads, -, completed⟩ :=
          Orchestrator.recorded_complete backend flight engine.now engine.world
        rw [completed]
        exact ⟨⟨_, rfl⟩, rfl, fun rejected => by cases rejected⟩
      · exact ⟨unchanged, rfl, id⟩
    · split <;> exact ⟨unchanged, rfl, id⟩

theorem deliverAll_adds (engine : Engine (Recorder W)) (signals : List (Signal Nat)) :
    let later := engine.deliverAll backend.recorded signals
    (∃ more, later.world.calls = engine.world.calls ++ more) ∧
      later.orchestrator.flown = engine.orchestrator.flown ∧
      (later.orchestrator.lastOutcome? = some .rejected →
        engine.orchestrator.lastOutcome? = some .rejected) := by
  induction signals generalizing engine with
  | nil => exact ⟨⟨[], (List.append_nil _).symm⟩, rfl, id⟩
  | cons signal rest ih =>
    obtain ⟨⟨more, added⟩, flown, outcome⟩ := deliver_adds backend engine signal
    obtain ⟨⟨later, all⟩, last, final⟩ := ih (engine.deliver backend.recorded signal)
    rw [added, List.append_assoc] at all
    exact ⟨⟨more ++ later, all⟩, last.trans flown, fun rejected => outcome (final rejected)⟩

theorem submit_free (engine : Engine (Recorder W)) (request : SearchRequest)
    (free : engine.orchestrator.flight? = none) :
    let submitted := engine.submit backend.recorded request
    (∃ succeeded more,
      submitted.2.world.calls = engine.world.calls ++ .opened succeeded :: more) ∧
      submitted.2.orchestrator.flown = engine.orchestrator.flown + 1 ∧
      (submitted.2.orchestrator.lastOutcome? = some .rejected →
        engine.orchestrator.lastOutcome? = some .rejected) ∧
      (submitted.1 = .answered (.error .rejectedConcurrent) →
        (backend.prepare (Orchestrator.plan engine.orchestrator.config request)
          engine.world.world).1 = .error .rejectedConcurrent) := by
  obtain ⟨_, _, -, noted, launched⟩ := Orchestrator.recorded_launch backend
    engine.orchestrator.config request engine.orchestrator.flown engine.now engine.world
  cases launched with
  | unopened error world prepared =>
    rw [submit_grounded _ _ _ free _ _ noted, prepared]
    refine ⟨⟨false, [], rfl⟩, rfl, (fun rejected => nomatch rejected), ?_⟩
    intro answered
    cases answered
    rfl
  | refused reason own subscription before world =>
    rw [submit_grounded _ _ _ free _ _ noted]
    refine ⟨⟨true, _, List.append_assoc _ _ _⟩, rfl, (fun rejected => nomatch rejected), ?_⟩
    intro answered
    cases answered
  | flying flight own started before world numbered =>
    rw [submit_boarded _ _ _ free _ _ _ noted]
    obtain ⟨⟨more, added⟩, flown, outcome⟩ := deliverAll_adds backend
      (engine.boarded flight started.alarm? ((engine.world.opened before own).note world
        flight.handle [.subscribe flight.subscription, .start])) started.signals
    refine ⟨⟨true, .on flight.handle (.subscribe flight.subscription) ::
      .on flight.handle .start :: more, ?_⟩, flown, outcome, fun answered => by cases answered⟩
    rw [added]
    simp [boarded, Recorder.note, Recorder.opened]

/-- A search that is called while another one holds the slot is rejected at once and changes only
the outcome of the last search; one that finds the slot free is not rejected. Without the rejected
calls, all else that can be seen of a run is the same. -/
theorem rejected_calls_change_nothing (config : SearchConfig) (world : W)
    (events : List (Event W)) :
    let engine := recordedRun backend config world events
    let start : Engine (Recorder W) := fresh config { world }
    engine.erased = (fresh config world).run backend events ∧
      (∀ request, engine.orchestrator.flight?.isSome →
        engine.submit backend.recorded request =
          (.answered (.error .rejectedConcurrent), engine.withOutcome (some .rejected))) ∧
      (∀ request, engine.orchestrator.flight? = none →
        let submitted := engine.submit backend.recorded request
        (∃ succeeded more,
          submitted.2.world.calls = engine.world.calls ++ .opened succeeded :: more) ∧
          submitted.2.orchestrator.flown = engine.orchestrator.flown + 1 ∧
          (submitted.2.orchestrator.lastOutcome? = some .rejected →
            engine.orchestrator.lastOutcome? = some .rejected) ∧
          (submitted.1 = .answered (.error .rejectedConcurrent) →
            (backend.prepare (Orchestrator.plan engine.orchestrator.config request)
              engine.world.world).1 = .error .rejectedConcurrent)) ∧
      start.observations backend (start.admitted backend events) =
        (start.observations backend events).filter (fun seen => !seen.rejected) ∧
      ∃ outcome?, recordedRun backend config world (start.admitted backend events) =
        engine.withOutcome outcome? := by
  intro engine start
  obtain ⟨seen, final⟩ := observations_admitted backend start start (alike_refl start) events
  refine ⟨recordedRun_erased backend config world events, ?_,
    fun request free => submit_free backend engine request free, seen, final⟩
  intro request busy
  obtain ⟨flight, taken⟩ := Option.isSome_iff_exists.mp busy
  exact submit_taken backend.recorded engine request flight taken

end Engine

end FileSearch
