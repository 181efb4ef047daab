import FileSearch.Proofs.Search.Events

set_option autoImplicit false

namespace FileSearch

def Signal.listener {ℓ : Type} : Signal ℓ → ℓ
  | .fired listener => listener
  | .lost listener => listener

namespace Engine

variable {W : Type} (backend : Backend Nat W)

def landed (engine : Engine W) (flight : Flight) (outcome : Outcome)
    (made : SearchResults × W) : Engine W :=
  engine.land flight outcome (.ok made.1) made.2

def deafened (engine : Engine W) (flight : Flight) : Engine W :=
  { engine with
    orchestrator := { engine.orchestrator with flight? := some { flight with deaf := true } } }

def completed (engine : Engine W) (flight : Flight) : Engine W :=
  engine.landed flight .completed (Orchestrator.complete backend flight engine.now engine.world)

def hearing (engine : Engine W) (flight : Flight) : Option (Signal Nat) → Engine W
  | none => engine
  | some (.fired _) => engine.completed backend flight
  | some (.lost _) => engine.deafened flight

def expired (engine : Engine W) (flight : Flight) : Engine W :=
  engine.landed flight .timedOut (Orchestrator.expire backend flight engine.now engine.world)

theorem timeOut_flying (engine : Engine W) (flight : Flight)
    (flying : engine.orchestrator.flight? = some flight) :
    engine.timeOut backend = engine.expired backend flight := by
  rw [timeOut, flying]
  rfl

-- The engine whose first alarm went off, before what the index signals then.
def woken (engine : Engine W) (first : Alarm) (rest : List Alarm) : Engine W :=
  { engine with
    world := (backend.wake first.handle engine.now engine.world).2
    alarms := rest }

theorem ring_queued (engine : Engine W) (first : Alarm) (rest : List Alarm)
    (queued : engine.alarms = first :: rest) :
    engine.ring backend =
      (engine.woken backend first rest).deliverAll backend
        (backend.wake first.handle engine.now engine.world).1 := by
  rw [ring, queued]
  rfl

theorem deliver_foreign (engine : Engine W) (signal : Signal Nat)
    (foreign : ∀ flight, engine.orchestrator.flight? = some flight →
      signal.listener ≠ flight.number) :
    engine.deliver backend signal = engine := by
  rw [deliver]
  cases flying : engine.orchestrator.flight? with
  | none => rfl
  | some flight =>
    have apart := foreign flight flying
    cases signal <;> simp_all [Signal.listener]

theorem deliverAll_foreign (engine : Engine W) (signals : List (Signal Nat))
    (foreign : ∀ signal ∈ signals, ∀ flight, engine.orchestrator.flight? = some flight →
      signal.listener ≠ flight.number) :
    engine.deliverAll backend signals = engine := by
  induction signals with
  | nil => rfl
  | cons signal rest ih =>
    have first := engine.deliver_foreign backend signal (foreign signal List.mem_cons_self)
    have later := ih fun other member => foreign other (List.mem_cons_of_mem _ member)
    rw [deliverAll, List.foldl_cons, first]
    exact later

theorem deliverAll_deaf (engine : Engine W) (flight : Flight)
    (flying : engine.orchestrator.flight? = some flight) (deaf : flight.deaf = true)
    (signals : List (Signal Nat)) : engine.deliverAll backend signals = engine := by
  have same : { flight with deaf := true } = flight := by rw [← deaf]
  have first (signal : Signal Nat) : engine.deliver backend signal = engine := by
    rw [deliver, flying]
    cases signal with
    | fired listener => simp [deaf]
    | lost listener =>
      dsimp only
      split
      · rw [same, ← flying]
      · rfl
  induction signals with
  | nil => rfl
  | cons signal rest ih =>
    rw [deliverAll, List.foldl_cons, first]
    exact ih

theorem deliverAll_hearing (engine : Engine W) (flight : Flight)
    (flying : engine.orchestrator.flight? = some flight) (hears : flight.deaf = false)
    (signals : List (Signal Nat)) :
    engine.deliverAll backend signals =
      engine.hearing backend flight (signals.find? (·.listener = flight.number)) := by
  induction signals with
  | nil => rfl
  | cons signal rest ih =>
    rw [deliverAll, List.foldl_cons]
    by_cases own : signal.listener = flight.number
    · rw [List.find?_cons_of_pos (by simpa using own)]
      cases signal with
      | fired listener =>
        have ends : engine.deliver backend (.fired listener) = engine.completed backend flight := by
          have heard : listener = flight.number ∧ ¬ flight.deaf = true := ⟨own, by simp [hears]⟩
          rw [deliver, flying]
          dsimp only
          rw [if_pos heard]
          rfl
        have free : (engine.completed backend flight).orchestrator.flight? = none := rfl
        rw [ends]
        -- Nobody waits any more for what comes behind.
        exact deliverAll_foreign backend _ rest fun _ _ _ flying => absurd flying (by simp [free])
      | lost listener =>
        have goes : engine.deliver backend (.lost listener) = engine.deafened flight := by
          have mine : listener = flight.number := own
          rw [deliver, flying]
          dsimp only
          rw [if_pos mine]
          rfl
        rw [goes]
        exact deliverAll_deaf backend _ { flight with deaf := true } rfl rfl rest
    · rw [List.find?_cons_of_neg (by simpa using own)]
      have passes : engine.deliver backend signal = engine := by
        apply deliver_foreign
        intro other same
        rw [flying] at same
        cases same
        exact own
      rw [passes]
      exact ih

end Engine

end FileSearch
