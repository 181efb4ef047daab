import FileSearch.Proofs.Index.Memory
import FileSearch.Proofs.Search.Verdict

set_option autoImplicit false

namespace FileSearch

theorem Event.isOrdinary_of_isClockwork {W : Type} (event : Event W)
    (clockwork : event.isClockwork = true) : event.isOrdinary = true := by
  cases event <;> simp_all [isClockwork, isOrdinary]

namespace Engine

open MemoryIndex (backend)

def overMemory (config : SearchConfig) (entries : List MemoryEntry) (behavior : GatherBehavior) :
    Engine (MemoryIndex Nat) :=
  fresh config { entries, behavior }

structure Serves (config : SearchConfig) (entries : List MemoryEntry) (behavior : GatherBehavior)
    (engine : Engine (MemoryIndex Nat)) : Prop where
  config : engine.orchestrator.config = config
  contents : engine.world.entries = entries ∧ engine.world.behavior = behavior ∧
    engine.world.hasRuntime = true
  known : ∀ alarm ∈ engine.alarms, alarm.handle < engine.world.queries.length
  stopped : ∀ handle < engine.world.queries.length,
    (∀ flight, engine.orchestrator.flight? = some flight → flight.handle ≠ handle) →
      (engine.world.query handle).stoppedAt?.isSome = true
  hears : ∀ flight, engine.orchestrator.flight? = some flight →
    flight.deaf = false ∧ flight.handle < engine.world.queries.length ∧
      (engine.world.query flight.handle).stoppedAt? = none ∧
      (engine.world.query flight.handle).notifier.current?.map Prod.snd = some flight.number

variable {config : SearchConfig} {entries : List MemoryEntry} {behavior : GatherBehavior}
variable {engine : Engine (MemoryIndex Nat)}

theorem serves_overMemory (config : SearchConfig) (entries : List MemoryEntry)
    (behavior : GatherBehavior) :
    (overMemory config entries behavior).Serves config entries behavior where
  config := rfl
  contents := ⟨rfl, rfl, rfl⟩
  known _ queued := nomatch queued
  stopped _ known := absurd known (Nat.not_lt_zero _)
  hears _ free := nomatch free

theorem submit_refuses (engine : Engine (MemoryIndex Nat)) (request : SearchRequest)
    (free : engine.orchestrator.flight? = none) (reason : String)
    (refuses : engine.world.behavior = .refuse reason) :
    engine.submit (backend Nat) request =
      (.answered (.error (.backendStartFailure reason)),
        engine.grounded (engine.world.add
          { found := engine.orchestrator.config.found request engine.world.entries
            notifier := ⟨1, none⟩
            stoppedAt? := some engine.now })) :=
  engine.submit_grounded _ _ free _ _
    (engine.world.launch_refused engine.orchestrator.config request _ _ reason refuses)

def awaiting (engine : Engine (MemoryIndex Nat)) (request : SearchRequest) :
    Engine (MemoryIndex Nat) :=
  let config := engine.orchestrator.config
  engine.boarded
    (engine.world.flight config request engine.orchestrator.flown engine.now)
    engine.world.behavior.delay?
    (engine.world.add
      { found := config.found request engine.world.entries
        notifier := ⟨1, some (1, engine.orchestrator.flown)⟩
        startedAt? := some engine.now })

theorem submit_accepts (engine : Engine (MemoryIndex Nat)) (request : SearchRequest)
    (free : engine.orchestrator.flight? = none)
    (accepts : ∀ reason, engine.world.behavior ≠ .refuse reason)
    (runtime : engine.world.hasRuntime = true) :
    engine.submit (backend Nat) request =
      (.waiting engine.orchestrator.flown, engine.awaiting request) :=
  engine.submit_boarded _ _ free _ _ _
    (engine.world.launch_accepted engine.orchestrator.config request _ _ accepts runtime)

namespace Serves

-- The query of the search that waited has been stopped, and the slot is free.
theorem released (serves : engine.Serves config entries behavior) (flight : Flight)
    (flying : engine.orchestrator.flight? = some flight) (later : Engine (MemoryIndex Nat))
    (same : later.orchestrator.config = engine.orchestrator.config)
    (free : later.orchestrator.flight? = none) (query : MemoryQuery Nat)
    (stopped : query.stoppedAt?.isSome = true)
    (world : later.world = engine.world.setQuery flight.handle query)
    (alarms : ∀ alarm ∈ later.alarms, alarm ∈ engine.alarms) :
    later.Serves config entries behavior := by
  have known := (serves.hears flight flying).2.1
  refine ⟨same.trans serves.config, world ▸ serves.contents, ?_, ?_, ?_⟩
  · rw [world, MemoryIndex.setQuery_length]
    exact fun alarm queued => serves.known alarm (alarms alarm queued)
  · intro handle old _
    rw [world, MemoryIndex.setQuery_length] at old
    rw [world]
    by_cases own : flight.handle = handle
    · rw [← own, MemoryIndex.query_setQuery _ _ _ known]
      exact stopped
    · rw [MemoryIndex.query_setQuery_other _ _ _ _ own]
      apply serves.stopped handle old
      intro other same
      rw [flying] at same
      cases same
      exact own
  · intro other same
    rw [free] at same
    cases same

theorem torn (serves : engine.Serves config entries behavior) (flight : Flight)
    (flying : engine.orchestrator.flight? = some flight) (later : Engine (MemoryIndex Nat))
    (same : later.orchestrator.config = engine.orchestrator.config)
    (free : later.orchestrator.flight? = none)
    (world : later.world = Orchestrator.tearDown (backend Nat) flight engine.now engine.world)
    (alarms : later.alarms = engine.alarms) : later.Serves config entries behavior := by
  rw [MemoryIndex.tearDown_eq _ _ _ (serves.hears flight flying).2.1] at world
  exact serves.released flight flying later same free _ (MemoryQuery.letGo_stopped _ _ _) world
    (alarms ▸ fun _ queued => queued)

theorem ring_own (serves : engine.Serves config entries behavior) (flight : Flight)
    (flying : engine.orchestrator.flight? = some flight) (due : Nat) (rest : List Alarm)
    (queued : engine.alarms = ⟨due, flight.handle⟩ :: rest) :
    engine.ring (backend Nat) =
      (engine.woken (backend Nat) ⟨due, flight.handle⟩ rest).completed (backend Nat) flight := by
  obtain ⟨hears, -, going, listens⟩ := serves.hears flight flying
  have fires : ((backend Nat).wake flight.handle engine.now engine.world).1 =
      [.fired flight.number] := by
    simp [backend, MemoryIndex.wake_listening _ _ going _ listens]
  rw [ring_queued _ _ _ _ queued, fires,
    deliverAll_hearing _ (engine.woken _ _ _) flight flying hears]
  simp [Signal.listener, hearing]

theorem ring_other (serves : engine.Serves config entries behavior) (first : Alarm)
    (rest : List Alarm) (queued : engine.alarms = first :: rest)
    (other : ∀ flight, engine.orchestrator.flight? = some flight → flight.handle ≠ first.handle) :
    engine.ring (backend Nat) = { engine with alarms := rest } := by
  have stopped := serves.stopped first.handle
    (serves.known first (queued ▸ List.mem_cons_self)) other
  have silent : (backend Nat).wake first.handle engine.now engine.world = ([], engine.world) :=
    MemoryIndex.wake_stopped _ _ stopped
  rw [ring_queued _ _ _ _ queued, woken, silent]
  rfl

-- A query was added, which has been stopped or belongs to the search that waits.
theorem added (serves : engine.Serves config entries behavior)
    (old : ∀ handle < engine.world.queries.length,
      (engine.world.query handle).stoppedAt?.isSome = true)
    (later : Engine (MemoryIndex Nat))
    (same : later.orchestrator.config = engine.orchestrator.config) (query : MemoryQuery Nat)
    (world : later.world = engine.world.add query)
    (alarms : ∀ alarm ∈ later.alarms,
      alarm ∈ engine.alarms ∨ alarm.handle = engine.world.queries.length)
    (stopped : (∀ flight, later.orchestrator.flight? = some flight →
      flight.handle ≠ engine.world.queries.length) → query.stoppedAt?.isSome = true)
    (hears : ∀ flight, later.orchestrator.flight? = some flight →
      flight.deaf = false ∧ flight.handle = engine.world.queries.length ∧
        query.stoppedAt? = none ∧
        query.notifier.current?.map Prod.snd = some flight.number) :
    later.Serves config entries behavior := by
  have length : later.world.queries.length = engine.world.queries.length + 1 := by
    rw [world]
    simp [MemoryIndex.add]
  refine ⟨same.trans serves.config, world ▸ serves.contents, ?_, ?_, ?_⟩
  · intro alarm queued
    rw [length]
    rcases alarms alarm queued with before | new
    · exact Nat.lt_succ_of_lt (serves.known alarm before)
    · exact Nat.lt_succ_of_le (Nat.le_of_eq new)
  · intro handle known other
    rw [length] at known
    rcases Nat.lt_succ_iff_lt_or_eq.mp known with before | rfl
    · rw [world, MemoryIndex.query_add_old _ _ _ before]
      exact old handle before
    · rw [world, MemoryIndex.query_add]
      exact stopped other
  · intro flight flying
    obtain ⟨deaf, handle, going, listens⟩ := hears flight flying
    rw [length, handle, world, MemoryIndex.query_add]
    exact ⟨deaf, Nat.lt_succ_self _, going, listens⟩

theorem submit (serves : engine.Serves config entries behavior) (request : SearchRequest) :
    (engine.submit (backend Nat) request).2.Serves config entries behavior := by
  cases flying : engine.orchestrator.flight? with
  | some flight =>
    rw [submit_taken _ _ _ flight flying]
    exact ⟨serves.config, serves.contents, serves.known, serves.stopped, serves.hears⟩
  | none =>
    have old : ∀ handle < engine.world.queries.length,
        (engine.world.query handle).stoppedAt?.isSome = true := by
      intro handle known
      apply serves.stopped handle known
      simp [flying]
    by_cases refuses : ∃ reason, engine.world.behavior = .refuse reason
    · obtain ⟨reason, refuses⟩ := refuses
      rw [submit_refuses engine request flying reason refuses]
      refine serves.added old (engine.grounded _) rfl _ rfl (fun _ queued => .inl queued)
        (fun _ => rfl) ?_
      intro flight free
      simp [grounded, flying] at free
    · rw [submit_accepts engine request flying (fun reason same => refuses ⟨reason, same⟩)
        serves.contents.2.2]
      refine serves.added old (engine.awaiting request) rfl _ rfl
        (fun alarm queued => Alarm.mem_schedule _ _ _ _ _ queued)
        (fun free => absurd rfl (free _ rfl)) ?_
      intro flight same
      cases same
      exact ⟨rfl, rfl, rfl, rfl⟩

theorem ring (serves : engine.Serves config entries behavior) :
    (engine.ring (backend Nat)).Serves config entries behavior := by
  cases queued : engine.alarms with
  | nil => rwa [Engine.ring, queued]
  | cons first rest =>
    have left : ∀ alarm ∈ rest, alarm ∈ engine.alarms := fun alarm member =>
      queued ▸ List.mem_cons_of_mem first member
    by_cases own : ∃ flight, engine.orchestrator.flight? = some flight ∧
        flight.handle = first.handle
    · obtain ⟨flight, flying, same⟩ := own
      obtain ⟨due, handle⟩ := first
      cases same
      obtain ⟨-, known, going, -⟩ := serves.hears flight flying
      obtain ⟨query, stopped, world⟩ :=
        MemoryIndex.complete_wake_world engine.world flight engine.now known going
      rw [serves.ring_own flight flying due rest queued]
      exact serves.released flight flying (completed _ (engine.woken _ _ rest) flight) rfl rfl
        query stopped world left
    · rw [serves.ring_other first rest queued fun flight flying same => own ⟨flight, flying, same⟩]
      exact ⟨serves.config, serves.contents,
        fun alarm member => serves.known alarm (left alarm member), serves.stopped, serves.hears⟩

theorem react (serves : engine.Serves config entries behavior) (event : Event (MemoryIndex Nat))
    (ordinary : event.isOrdinary = true) :
    (engine.react (backend Nat) event).2.Serves config entries behavior := by
  cases event with
  | submit request => exact serves.submit request
  | abandon number =>
    rw [Engine.react, abandon]
    cases flying : engine.orchestrator.flight? with
    | none => exact serves
    | some flight =>
      dsimp only
      split
      · exact serves.torn flight flying _ rfl rfl rfl rfl
      · exact serves
  | signal sent => cases ordinary
  | ring => exact serves.ring
  | expire =>
    rw [Engine.react]
    cases flying : engine.orchestrator.flight? with
    | none => rwa [timeOut, flying]
    | some flight =>
      rw [timeOut_flying _ _ flight flying]
      exact serves.torn flight flying _ rfl rfl (MemoryIndex.expire_world _ _ _) rfl
  | tick time =>
    exact ⟨serves.config, serves.contents, serves.known, serves.stopped, serves.hears⟩
  | edit change => cases ordinary

theorem run (serves : engine.Serves config entries behavior)
    (events : List (Event (MemoryIndex Nat)))
    (ordinary : ∀ event ∈ events, event.isOrdinary = true) :
    (engine.run (backend Nat) events).Serves config entries behavior := by
  induction events generalizing engine with
  | nil => exact serves
  | cons event rest ih =>
    obtain ⟨usual, ordinary⟩ := List.forall_mem_cons.mp ordinary
    exact ih (serves.react event usual) ordinary

end Serves

end Engine

end FileSearch
