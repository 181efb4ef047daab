import FileSearch.Proofs.Search.Recorder

set_option autoImplicit false

namespace FileSearch

def Event.recorded {W : Type} : Event W → Event (Recorder W)
  | .submit request => .submit request
  | .abandon number => .abandon number
  | .signal sent => .signal sent
  | .ring => .ring
  | .expire => .expire
  | .tick time => .tick time
  | .edit change => .edit fun recorder => { recorder with world := change recorder.world }

namespace Recorder

variable {W : Type}

def ownedAlarm (recorder : Recorder W) (alarm : Alarm) : Alarm :=
  { alarm with handle := recorder.own alarm.handle }

theorem insert_owned (recorder : Recorder W) (alarm : Alarm) (alarms : List Alarm) :
    (Alarm.insert alarm alarms).map recorder.ownedAlarm =
      Alarm.insert (recorder.ownedAlarm alarm) (alarms.map recorder.ownedAlarm) := by
  induction alarms with
  | nil => rfl
  | cons first rest ih =>
    by_cases earlier : first.due ≤ alarm.due
    · simp [Alarm.insert, ownedAlarm, earlier]
      exact ih
    · simp [Alarm.insert, ownedAlarm, earlier]

theorem schedule_owned (recorder : Recorder W) (handle now : Nat) (delay? : Option Nat)
    (alarms : List Alarm) :
    (Alarm.schedule handle now delay? alarms).map recorder.ownedAlarm =
      Alarm.schedule (recorder.own handle) now delay? (alarms.map recorder.ownedAlarm) := by
  cases delay? with
  | none => rfl
  | some delay => exact insert_owned recorder _ alarms

theorem opened_alarms (recorder : Recorder W) (world : W) (new : Nat) (alarms : List Alarm)
    (known : ∀ alarm ∈ alarms, alarm.handle < recorder.handles.length) :
    alarms.map (recorder.opened world new).ownedAlarm = alarms.map recorder.ownedAlarm := by
  apply List.map_congr_left
  intro alarm member
  rw [ownedAlarm, ownedAlarm, opened_own recorder world new _ (known alarm member)]

end Recorder

namespace Engine

variable {W : Type} (backend : Backend Nat W)

-- The engine without what was written down.
def erased (engine : Engine (Recorder W)) : Engine W :=
  { orchestrator :=
      { engine.orchestrator with flight? := engine.orchestrator.flight?.map engine.world.owned }
    world := engine.world.world
    now := engine.now
    alarms := engine.alarms.map engine.world.ownedAlarm
    answered := engine.answered }

def Known (engine : Engine (Recorder W)) : Prop :=
  ∀ alarm ∈ engine.alarms, alarm.handle < engine.world.handles.length

@[simp] theorem erased_flight (engine : Engine (Recorder W)) :
    engine.erased.orchestrator.flight? = engine.orchestrator.flight?.map engine.world.owned := rfl

-- Whether a signal reaches the search does not depend on the handle, so both sides take one branch.
theorem erased_deliver (engine : Engine (Recorder W)) (signal : Signal Nat) :
    (engine.deliver backend.recorded signal).erased = engine.erased.deliver backend signal := by
  rw [deliver, deliver, erased_flight]
  cases flying : engine.orchestrator.flight? with
  | none => rfl
  | some flight =>
    simp only [Option.map_some]
    cases signal with
    | fired listener =>
      dsimp only
      obtain ⟨reads, -, completed⟩ :=
        Orchestrator.recorded_complete backend flight engine.now engine.world
      by_cases heard : listener = flight.number ∧ ¬ flight.deaf
      · have same : listener = (engine.world.owned flight).number ∧
            ¬ (engine.world.owned flight).deaf := heard
        rw [if_pos heard, if_pos same, completed]
        rfl
      · have same : ¬ (listener = (engine.world.owned flight).number ∧
            ¬ (engine.world.owned flight).deaf) := heard
        rw [if_neg heard, if_neg same]
    | lost listener =>
      dsimp only
      by_cases mine : listener = flight.number
      · have same : listener = (engine.world.owned flight).number := mine
        rw [if_pos mine, if_pos same]
        rfl
      · have same : ¬ listener = (engine.world.owned flight).number := mine
        rw [if_neg mine, if_neg same]

theorem erased_deliverAll (engine : Engine (Recorder W)) (signals : List (Signal Nat)) :
    (engine.deliverAll backend.recorded signals).erased =
      engine.erased.deliverAll backend signals := by
  induction signals generalizing engine with
  | nil => rfl
  | cons signal rest ih =>
    have later := ih (engine.deliver backend.recorded signal)
    rw [erased_deliver] at later
    exact later

theorem erased_timeOut (engine : Engine (Recorder W)) :
    (engine.timeOut backend.recorded).erased = engine.erased.timeOut backend := by
  rw [timeOut, timeOut, erased_flight]
  cases flying : engine.orchestrator.flight? with
  | none => rfl
  | some flight =>
    obtain ⟨reads, -, expired⟩ := Orchestrator.recorded_expire backend flight engine.now engine.world
    simp only [Option.map_some, expired]
    rfl

theorem erased_abandon (engine : Engine (Recorder W)) (number : Nat) :
    (engine.abandon backend.recorded number).erased = engine.erased.abandon backend number := by
  rw [abandon, abandon, erased_flight]
  cases flying : engine.orchestrator.flight? with
  | none => rfl
  | some flight =>
    simp only [Option.map_some, Orchestrator.recorded_tearDown]
    by_cases mine : flight.number = number
    · have same : (engine.world.owned flight).number = number := mine
      rw [if_pos mine, if_pos same]
      rfl
    · have same : ¬ (engine.world.owned flight).number = number := mine
      rw [if_neg mine, if_neg same]

theorem erased_ring (engine : Engine (Recorder W)) :
    (engine.ring backend.recorded).erased = engine.erased.ring backend := by
  cases queued : engine.alarms with
  | nil => simp [ring, queued, erased]
  | cons first rest =>
    have shown : engine.erased.alarms =
        engine.world.ownedAlarm first :: rest.map engine.world.ownedAlarm := by
      simp [erased, queued]
    rw [ring, ring, queued, shown]
    exact erased_deliverAll backend _ _

theorem erased_submit (engine : Engine (Recorder W)) (known : engine.Known)
    (request : SearchRequest) :
    (engine.submit backend.recorded request).1 = (engine.erased.submit backend request).1 ∧
      (engine.submit backend.recorded request).2.erased =
        (engine.erased.submit backend request).2 := by
  cases flying : engine.orchestrator.flight? with
  | some flight =>
    have taken : engine.erased.orchestrator.flight? = some (engine.world.owned flight) := by
      rw [erased_flight, flying, Option.map_some]
    rw [submit_taken _ _ _ flight flying, submit_taken _ _ _ _ taken]
    exact ⟨rfl, rfl⟩
  | none =>
    have free : engine.erased.orchestrator.flight? = none := by
      rw [erased_flight, flying, Option.map_none]
    obtain ⟨_, _, plain, noted, launched⟩ := Orchestrator.recorded_launch backend
      engine.orchestrator.config request engine.orchestrator.flown engine.now engine.world
    cases launched with
    | unopened error world prepared =>
      rw [submit_grounded _ _ _ flying _ _ noted, submit_grounded _ engine.erased _ free _ _ plain]
      exact ⟨rfl, rfl⟩
    | refused reason own subscription before world =>
      rw [submit_grounded _ _ _ flying _ _ noted, submit_grounded _ engine.erased _ free _ _ plain]
      refine ⟨rfl, ?_⟩
      have alarms := engine.world.opened_alarms before own engine.alarms known
      simp only [erased, grounded, flying, Option.map_none]
      rw [← alarms]
      rfl
    | flying flight own started before world numbered =>
      rw [submit_boarded _ _ _ flying _ _ _ noted, submit_boarded _ engine.erased _ free _ _ _ plain]
      refine ⟨rfl, (erased_deliverAll backend _ _).trans ?_⟩
      have new := engine.world.opened_own_new before own
      rw [← numbered] at new
      have owned : (engine.world.opened before own).owned flight = { flight with handle := own } := by
        rw [Recorder.owned, new]
      -- The new alarm gets the handle that the index gave, and the old ones keep theirs.
      have alarms := (engine.world.opened before own).schedule_owned flight.handle engine.now
        started.alarm? engine.alarms
      rw [new, engine.world.opened_alarms before own engine.alarms known] at alarms
      congr 1
      simp only [erased, boarded, Option.map_some, Recorder.note_owned, owned]
      rw [← alarms]
      rfl

theorem erased_react (engine : Engine (Recorder W)) (known : engine.Known) (event : Event W) :
    (engine.react backend.recorded event.recorded).1 = (engine.erased.react backend event).1 ∧
      (engine.react backend.recorded event.recorded).2.erased =
        (engine.erased.react backend event).2 := by
  cases event with
  | submit request =>
    have submitted := erased_submit backend engine known request
    exact ⟨congrArg some submitted.1, submitted.2⟩
  | abandon number => exact ⟨rfl, erased_abandon backend engine number⟩
  | signal sent => exact ⟨rfl, erased_deliver backend engine sent⟩
  | ring => exact ⟨rfl, erased_ring backend engine⟩
  | expire => exact ⟨rfl, erased_timeOut backend engine⟩
  | tick time => exact ⟨rfl, rfl⟩
  | edit change => exact ⟨rfl, rfl⟩

end Engine

end FileSearch
