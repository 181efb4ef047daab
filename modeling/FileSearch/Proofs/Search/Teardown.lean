import FileSearch.Index.Rehearsal
import FileSearch.Proofs.Search.CallLog
import FileSearch.Proofs.Search.Erasure

set_option autoImplicit false

namespace FileSearch

def Phase.ofFlight : Option Flight → Phase
  | none => .idle
  | some flight => .live flight.handle flight.subscription

theorem Phase.ofFlight_handle (flight? : Option Flight) :
    (Phase.ofFlight flight?).handle? = flight?.map Flight.handle := by
  cases flight? <;> rfl

theorem Alarm.insert_perm (alarm : Alarm) (alarms : List Alarm) :
    (alarm.insert alarms).Perm (alarm :: alarms) := by
  induction alarms with
  | nil => exact .refl _
  | cons first rest ih =>
    rw [Alarm.insert]
    split
    · exact (ih.cons first).trans (.swap _ _ _)
    · exact .refl _

theorem Alarm.mem_schedule (handle now : Nat) (delay? : Option Nat) (alarms : List Alarm)
    (alarm : Alarm) (queued : alarm ∈ Alarm.schedule handle now delay? alarms) :
    alarm ∈ alarms ∨ alarm.handle = handle := by
  cases delay? with
  | none => exact .inl queued
  | some delay =>
    rcases List.mem_cons.mp ((Alarm.insert_perm _ _).mem_iff.mp queued) with rfl | old
    · exact .inr rfl
    · exact .inl old

namespace Engine

variable {W : Type} (backend : Backend Nat W)

-- The invariant of all runs: the log is tidy, and the query that is live is that of the search that
-- holds the slot.
structure Orderly (engine : Engine (Recorder W)) : Prop where
  known : engine.Known
  tidy : Tidy engine.world.calls engine.world.handles.length
    (Phase.ofFlight engine.orchestrator.flight?)

theorem orderly_fresh (config : SearchConfig) (world : W) :
    (fresh config { world } : Engine (Recorder W)).Orderly := by
  refine ⟨?_, .empty⟩
  intro alarm queued
  cases queued

namespace Orderly

variable {engine : Engine (Recorder W)}

theorem live (orderly : engine.Orderly) (flight : Flight)
    (flying : engine.orchestrator.flight? = some flight) :
    Tidy engine.world.calls engine.world.handles.length
      (.live flight.handle flight.subscription) := by
  have tidy := orderly.tidy
  rwa [flying] at tidy

theorem idle (orderly : engine.Orderly) (free : engine.orchestrator.flight? = none) :
    Tidy engine.world.calls engine.world.handles.length .idle := by
  have tidy := orderly.tidy
  rwa [free] at tidy

theorem land (orderly : engine.Orderly) (flight : Flight) (outcome : Outcome) (answer : Answer)
    (world : W) (calls : List HandleCall)
    (gone : Tidy (engine.world.calls ++ calls.map (.on flight.handle)) engine.world.handles.length
      .idle) :
    (engine.land flight outcome answer (engine.world.note world flight.handle calls)).Orderly :=
  ⟨orderly.known, gone⟩

theorem deliver (orderly : engine.Orderly) (signal : Signal Nat) :
    (engine.deliver backend.recorded signal).Orderly := by
  rw [Engine.deliver]
  cases flying : engine.orchestrator.flight? with
  | none => exact orderly
  | some flight =>
    have live := orderly.live flight flying
    cases signal with
    | fired listener =>
      dsimp only
      split
      · obtain ⟨reads, all, completed⟩ :=
          Orchestrator.recorded_complete backend flight engine.now engine.world
        rw [completed]
        apply orderly.land
        -- A search that has gathered everything reads behind its stop.
        have gone := live.left.reads (live.handle_lt _ rfl) reads all
        simpa using gone
      · exact orderly
    | lost listener =>
      dsimp only
      split
      · exact ⟨orderly.known, live⟩
      · exact orderly

theorem deliverAll (orderly : engine.Orderly) (signals : List (Signal Nat)) :
    (engine.deliverAll backend.recorded signals).Orderly := by
  induction signals generalizing engine with
  | nil => exact orderly
  | cons signal rest ih => exact ih (orderly.deliver backend signal)

theorem timeOut (orderly : engine.Orderly) : (engine.timeOut backend.recorded).Orderly := by
  rw [Engine.timeOut]
  cases flying : engine.orchestrator.flight? with
  | none => exact orderly
  | some flight =>
    have live := orderly.live flight flying
    obtain ⟨reads, all, expired⟩ := Orchestrator.recorded_expire backend flight engine.now engine.world
    dsimp only
    rw [expired]
    apply orderly.land
    -- A search that is out of time reads before it lets go.
    have used := live.uses reads fun call member => call.isUse_of_isRead (all call member)
    simpa using used.left

theorem abandon (orderly : engine.Orderly) (number : Nat) :
    (engine.abandon backend.recorded number).Orderly := by
  rw [Engine.abandon]
  cases flying : engine.orchestrator.flight? with
  | none => exact orderly
  | some flight =>
    dsimp only
    split
    · have live := orderly.live flight flying
      rw [Orchestrator.recorded_tearDown]
      exact ⟨orderly.known, live.left⟩
    · exact orderly

theorem ring (orderly : engine.Orderly) : (engine.ring backend.recorded).Orderly := by
  rw [Engine.ring]
  split
  · exact orderly
  next first rest queued =>
    have known : ∀ alarm ∈ rest, alarm.handle < engine.world.handles.length := by
      intro alarm member
      apply orderly.known alarm
      rw [queued]
      exact List.mem_cons_of_mem _ member
    apply deliverAll
    exact ⟨known, orderly.tidy⟩

theorem submit (orderly : engine.Orderly) (request : SearchRequest) :
    (engine.submit backend.recorded request).2.Orderly := by
  cases flying : engine.orchestrator.flight? with
  | some flight =>
    rw [submit_taken _ _ _ flight flying]
    exact ⟨orderly.known, orderly.tidy⟩
  | none =>
    have idle := orderly.idle flying
    have longer : ∀ alarm ∈ engine.alarms, alarm.handle < engine.world.handles.length + 1 :=
      fun alarm queued => Nat.lt_succ_of_lt (orderly.known alarm queued)
    obtain ⟨_, _, -, noted, launched⟩ := Orchestrator.recorded_launch backend
      engine.orchestrator.config request engine.orchestrator.flown engine.now engine.world
    cases launched with
    | unopened error world prepared =>
      rw [submit_grounded _ _ _ flying _ _ noted]
      refine ⟨orderly.known, ?_⟩
      simpa [grounded, Recorder.unopened, Phase.ofFlight, flying] using idle.unopened
    | refused reason own subscription before world =>
      rw [submit_grounded _ _ _ flying _ _ noted]
      have gone := (((idle.opened.subscribed subscription).used .start rfl).used .startError rfl).left
      refine ⟨?_, ?_⟩
      · simpa [Known, grounded, Recorder.opened] using longer
      · simpa [grounded, Recorder.note, Recorder.opened, Phase.ofFlight, flying] using gone
    | flying flight own started before world numbered =>
      rw [submit_boarded _ _ _ flying _ _ _ noted]
      have live := (idle.opened.subscribed flight.subscription).used .start rfl
      -- Listeners that are fired or lost while the query starts come after the slot is taken.
      apply deliverAll
      refine ⟨?_, ?_⟩
      · intro alarm queued
        have handles : ((engine.world.opened before own).note world flight.handle
            [.subscribe flight.subscription, .start]).handles.length =
            engine.world.handles.length + 1 := by
          simp [Recorder.opened]
        change alarm.handle < List.length _
        rw [boarded, handles]
        rcases Alarm.mem_schedule _ _ _ _ _ queued with old | new
        · exact longer alarm old
        · omega
      · simpa [boarded, Recorder.note, Recorder.opened, Phase.ofFlight, numbered] using live

theorem react (orderly : engine.Orderly) (event : Event W) :
    (engine.react backend.recorded event.recorded).2.Orderly := by
  cases event with
  | submit request => exact orderly.submit backend request
  | abandon number => exact orderly.abandon backend number
  | signal sent => exact orderly.deliver backend sent
  | ring => exact orderly.ring backend
  | expire => exact orderly.timeOut backend
  | tick time => exact ⟨orderly.known, orderly.tidy⟩
  | edit change => exact ⟨orderly.known, orderly.tidy⟩

end Orderly

theorem run_recorded (engine : Engine (Recorder W)) (orderly : engine.Orderly)
    (events : List (Event W)) :
    (engine.run backend.recorded (events.map Event.recorded)).erased =
        engine.erased.run backend events ∧
      (engine.run backend.recorded (events.map Event.recorded)).Orderly := by
  induction events generalizing engine with
  | nil => exact ⟨rfl, orderly⟩
  | cons event rest ih =>
    have first := erased_react backend engine orderly.known event
    have later := ih _ (orderly.react backend event)
    rw [first.2] at later
    exact later

-- The engine after some events, on an index that writes down the calls on it.
def recordedRun (config : SearchConfig) (world : W) (events : List (Event W)) :
    Engine (Recorder W) :=
  (fresh config { world }).run backend.recorded (events.map Event.recorded)

theorem recordedRun_orderly (config : SearchConfig) (world : W) (events : List (Event W)) :
    (recordedRun backend config world events).Orderly :=
  (run_recorded backend _ (orderly_fresh config world) events).2

theorem recordedRun_erased (config : SearchConfig) (world : W) (events : List (Event W)) :
    (recordedRun backend config world events).erased = (fresh config world).run backend events :=
  (run_recorded backend _ (orderly_fresh config world) events).1

/-- Whatever happens, in whatever order, on whatever index: each query that was opened is subscribed
to once, and let go of once as soon as its search does not hold the slot; at no moment are two
queries live, and none is while the slot is free. -/
theorem queries_let_go_once (config : SearchConfig) (world : W) (events : List (Event W)) :
    let engine := recordedRun backend config world events
    let calls := engine.world.calls
    engine.erased = (fresh config world).run backend events ∧
      (∀ handle < calls.count (.opened true),
        engine.orchestrator.flight?.map Flight.handle ≠ some handle → LetGo handle calls) ∧
      (∀ flight, engine.orchestrator.flight? = some flight →
        flight.handle < calls.count (.opened true) ∧
          subscriptionsOf flight.handle calls = [flight.subscription] ∧
          leavingsOf flight.handle calls = [] ∧ engine.answer? flight.number = none) ∧
      (∀ handle call, .on handle call ∈ calls → handle < calls.count (.opened true)) ∧
      (∀ request error later, engine.orchestrator.flight? = none →
        backend.prepare (Orchestrator.plan engine.orchestrator.config request) engine.world.world =
          (.error error, later) →
        (engine.submit backend.recorded request).2.world.calls = calls ++ [.opened false]) ∧
      (∀ moment, moment <+: calls → ∀ one other, IsLive one moment → IsLive other moment →
        one = other) ∧
      (engine.orchestrator.flight? = none → ∀ handle, ¬ IsLive handle calls) := by
  intro engine calls
  have orderly := recordedRun_orderly backend config world events
  have tidy := orderly.tidy
  have count : calls.count (.opened true) = engine.world.handles.length := tidy.count_opened
  rw [count]
  refine ⟨recordedRun_erased backend config world events, ?_, ?_, ?_, ?_, ?_, ?_⟩
  · intro handle opened past
    apply tidy.letGo handle opened
    rwa [Phase.ofFlight_handle]
  · intro flight flying
    have live := orderly.live flight flying
    obtain ⟨subscribed, staying⟩ := live.explains
    refine ⟨live.handle_lt _ rfl, subscribed, staying, ?_⟩
    have numbered : engine.Numbered := numbered_run backend.recorded config { world } _
    exact numbered.answer flight flying
  · exact tidy.known
  · intro request error later free failed
    have launched : Orchestrator.launch backend.recorded engine.orchestrator.config request
        engine.orchestrator.flown engine.now engine.world =
        (.failed error, engine.world.unopened later) := by
      rw [Orchestrator.launch, backend.recorded_prepare_error _ _ _ _ failed]
    rw [submit_grounded _ _ _ free _ _ launched]
    rfl
  · exact tidy.live_unique
  · intro free handle running
    have none := (orderly.idle free).live handle running
    cases none

-- A search that is given up after another call was rejected, and whose listener is fired late.
example (config : SearchConfig) (request : SearchRequest) :
    (recordedRun (Rehearsal.backend Nat) config { script := .never, records := [], count := 0 }
      [.submit request, .submit request, .abandon 0, .signal (.fired 0)]).world.calls =
      [.opened true, .on 0 (.subscribe 1), .on 0 .start, .on 0 (.unsubscribe 1), .on 0 .stop] := rfl

end Engine

end FileSearch
