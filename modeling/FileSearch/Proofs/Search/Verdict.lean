import FileSearch.Proofs.Search.Course

set_option autoImplicit false

namespace FileSearch

def Event.givesUp {W : Type} (number : Nat) : Event W → Bool
  | .abandon other => other = number
  | _ => false

namespace Engine

variable {W : Type} (backend : Backend Nat W)

def heard (engine : Engine W) : Event W → List (Signal Nat)
  | .submit request =>
    match engine.orchestrator.flight?, Orchestrator.launch backend engine.orchestrator.config request
      engine.orchestrator.flown engine.now engine.world with
    | none, (.flying _ started, _) => started.signals
    | _, _ => []
  | .signal signal => [signal]
  | .ring =>
    match engine.alarms with
    | [] => []
    | first :: _ => (backend.wake first.handle engine.now engine.world).1
  | _ => []

-- What becomes of a listener in a course, and when.
def fates (number : Nat) (engine : Engine W) : List (Event W) → List (Nat × Signal Nat)
  | [] => []
  | event :: rest =>
    ((engine.heard backend event).filter (·.listener = number)).map (engine.now, ·) ++
      fates number (engine.react backend event).2 rest

-- A listener is used up by the first thing that becomes of it.
def FiredInTime (number deadline : Nat) (fates : List (Nat × Signal Nat)) : Prop :=
  ∃ time < deadline, fates.head? = some (time, .fired number)

structure Waits (engine : Engine W) (flight : Flight) : Prop where
  flying : engine.orchestrator.flight? = some flight
  unanswered : engine.answer? flight.number = none
  early : engine.now ≤ flight.deadline

structure Ended (engine : Engine W) (number : Nat) (outcome : Outcome) (isPartial : Bool) : Prop where
  free : engine.orchestrator.flight? = none
  outcome : engine.orchestrator.lastOutcome? = some outcome
  answered : ∃ results : SearchResults,
    engine.answer? number = some (.ok results) ∧ results.isPartial = isPartial

theorem Ended.isSome {engine : Engine W} {number : Nat} {outcome : Outcome} {isPartial : Bool}
    (ended : engine.Ended number outcome isPartial) : (engine.answer? number).isSome = true := by
  obtain ⟨results, answered, -⟩ := ended.answered
  rw [answered]
  rfl

theorem landed_ended (engine : Engine W) (flight : Flight) (outcome : Outcome)
    (made : SearchResults × W) :
    (engine.landed flight outcome made).Ended flight.number outcome made.1.isPartial :=
  ⟨rfl, rfl, made.1, by simp [landed, land, answer?], rfl⟩

theorem completed_ended (engine : Engine W) (flight : Flight) :
    (engine.completed backend flight).Ended flight.number .completed false :=
  landed_ended engine flight .completed _

theorem expired_ended (engine : Engine W) (flight : Flight) :
    (engine.expired backend flight).Ended flight.number .timedOut true :=
  landed_ended engine flight .timedOut _

-- Where a search that waits stands after signals at some time.
inductive Stride (flight : Flight) (signals : List (Signal Nat)) (time : Nat) :
    Engine W → Prop where
  | waiting {later : Engine W} (waits : later.Waits flight)
      (unheard : signals.find? (·.listener = flight.number) = none ∨ flight.deaf = true) :
    Stride flight signals time later
  | deafened {later : Engine W} (waits : later.Waits { flight with deaf := true })
      (lost : signals.find? (·.listener = flight.number) = some (.lost flight.number)) :
    Stride flight signals time later
  | completed {later : Engine W} (ended : later.Ended flight.number .completed false)
      (now : later.now = time) (hears : flight.deaf = false)
      (fired : signals.find? (·.listener = flight.number) = some (.fired flight.number)) :
    Stride flight signals time later
  | timedOut {later : Engine W} (ended : later.Ended flight.number .timedOut true)
      (late : flight.deadline ≤ later.now)
      (unheard : signals.find? (·.listener = flight.number) = none) :
    Stride flight signals time later

theorem deliverAll_stride (engine : Engine W) (flight : Flight) (waits : engine.Waits flight)
    (signals : List (Signal Nat)) :
    Stride flight signals engine.now (engine.deliverAll backend signals) := by
  cases hears : flight.deaf with
  | true =>
    rw [deliverAll_deaf backend engine flight waits.flying hears]
    exact .waiting waits (.inr hears)
  | false =>
    rw [deliverAll_hearing backend engine flight waits.flying hears]
    cases first : signals.find? (·.listener = flight.number) with
    | none => exact .waiting waits (.inl first)
    | some signal =>
      have own : signal.listener = flight.number := by simpa using List.find?_some first
      cases signal with
      | fired listener =>
        have mine : listener = flight.number := own
        subst mine
        exact .completed (completed_ended backend engine flight) rfl hears first
      | lost listener =>
        have mine : listener = flight.number := own
        subst mine
        exact .deafened ⟨rfl, waits.unanswered, waits.early⟩ first

theorem react_stride (engine : Engine W) (flight : Flight) (waits : engine.Waits flight)
    (event : Event W) (minds : event.MindsDeadline engine)
    (stays : event.givesUp flight.number = false) :
    Stride flight (engine.heard backend event) engine.now (engine.react backend event).2 := by
  cases event with
  | submit request =>
    have silent : engine.heard backend (.submit request) = [] := by
      rw [heard, waits.flying]
    rw [silent, react, submit_taken _ _ _ flight waits.flying]
    exact .waiting ⟨waits.flying, waits.unanswered, waits.early⟩ (.inl rfl)
  | abandon number =>
    have other : flight.number ≠ number := by
      have apart : ¬ number = flight.number := by simpa [Event.givesUp] using stays
      exact fun same => apart same.symm
    rw [react, abandon, waits.flying]
    dsimp only
    rw [if_neg other]
    exact .waiting waits (.inl rfl)
  | signal sent => exact deliverAll_stride backend engine flight waits [sent]
  | ring =>
    rw [react, heard]
    cases queued : engine.alarms with
    | nil =>
      rw [ring, queued]
      exact .waiting waits (.inl rfl)
    | cons first rest =>
      rw [ring_queued _ _ _ _ queued]
      exact deliverAll_stride backend (engine.woken backend first rest) flight
        ⟨waits.flying, waits.unanswered, waits.early⟩ _
  | expire =>
    rw [react, timeOut_flying _ _ flight waits.flying]
    exact .timedOut (expired_ended backend engine flight) (minds flight waits.flying) rfl
  | tick time =>
    have early : (engine.advance time).now ≤ flight.deadline :=
      Nat.max_le.mpr ⟨waits.early, minds flight waits.flying⟩
    exact .waiting ⟨waits.flying, waits.unanswered, early⟩ (.inl rfl)
  | edit change => exact .waiting ⟨waits.flying, waits.unanswered, waits.early⟩ (.inl rfl)

theorem fates_cons_unheard (number : Nat) (engine : Engine W) (event : Event W)
    (rest : List (Event W))
    (unheard : (engine.heard backend event).find? (·.listener = number) = none) :
    engine.fates backend number (event :: rest) =
      (engine.react backend event).2.fates backend number rest := by
  have none : (engine.heard backend event).filter (·.listener = number) = [] := by
    rwa [List.filter_eq_nil_iff, ← List.find?_eq_none]
  rw [fates, none, List.map_nil, List.nil_append]

theorem fates_cons_head (number : Nat) (engine : Engine W) (event : Event W)
    (rest : List (Event W)) (signal : Signal Nat)
    (first : (engine.heard backend event).find? (·.listener = number) = some signal) :
    (engine.fates backend number (event :: rest)).head? = some (engine.now, signal) := by
  rw [← List.head?_filter] at first
  rw [fates, List.head?_append, List.head?_map, first]
  rfl

theorem fates_late (number : Nat) (engine : Engine W) (course : List (Event W)) :
    ∀ fate ∈ engine.fates backend number course, engine.now ≤ fate.1 := by
  induction course generalizing engine with
  | nil => simp [fates]
  | cons event rest ih =>
    intro fate member
    rcases List.mem_append.mp member with here | later
    · obtain ⟨signal, -, rfl⟩ := List.mem_map.mp here
      exact Nat.le_refl _
    · exact Nat.le_trans ((react_follows backend engine event).now) (ih _ fate later)

-- How a search with this deadline stands, given whether its listener was fired in time.
def Verdict (number deadline : Nat) (inTime : Prop) (engine : Engine W) : Prop :=
  (inTime → engine.Ended number .completed false ∧ engine.now < deadline) ∧
    (¬ inTime → engine.Ended number .timedOut true ∧ deadline ≤ engine.now ∨
      ∃ flight : Flight, flight.number = number ∧ flight.deadline = deadline ∧ engine.Waits flight)

theorem Verdict.of_iff {number deadline : Nat} {inTime same : Prop} {engine : Engine W}
    (verdict : engine.Verdict number deadline inTime) (iff : same ↔ inTime) :
    engine.Verdict number deadline same := by
  rwa [Verdict, iff]

-- A search hears of the first fate of its listener only, and is deaf after a loss: so what the rest
-- of a course says is the verdict on a flight that is deaf or still hears.
theorem Stride.verdict {engine : Engine W} {flight : Flight} {event : Event W}
    {rest : List (Event W)}
    (stride : Stride flight (engine.heard backend event) engine.now (engine.react backend event).2)
    (unanswered : engine.answer? flight.number = none) (early : engine.now ≤ flight.deadline)
    (untied : ∀ fate ∈ engine.fates backend flight.number (event :: rest), fate.1 ≠ flight.deadline)
    (next : ∀ later : Flight, later.number = flight.number → later.deadline = flight.deadline →
      (engine.react backend event).2.Waits later →
      ((engine.react backend event).2.runTo backend flight.number rest).Verdict flight.number
        flight.deadline (later.deaf = false ∧ FiredInTime flight.number flight.deadline
          ((engine.react backend event).2.fates backend flight.number rest))) :
    (engine.runTo backend flight.number (event :: rest)).Verdict flight.number flight.deadline
      (flight.deaf = false ∧ FiredInTime flight.number flight.deadline
        (engine.fates backend flight.number (event :: rest))) := by
  rw [runTo_unanswered _ _ _ unanswered]
  cases stride with
  | waiting still unheard =>
    have verdict := next flight rfl rfl still
    rcases unheard with silent | deaf
    · rwa [fates_cons_unheard _ _ _ _ _ silent]
    · exact verdict.of_iff (by simp [deaf])
  | deafened still lost =>
    have verdict := next { flight with deaf := true } rfl rfl still
    have head := fates_cons_head backend _ _ _ rest _ lost
    exact verdict.of_iff (by simp [FiredInTime, head])
  | completed ended now hears fired =>
    rw [runTo_answered _ _ _ ended.isSome]
    have head := fates_cons_head backend _ _ _ rest _ fired
    have apart : engine.now ≠ flight.deadline := untied _ (List.mem_of_mem_head? head)
    have before : engine.now < flight.deadline := Nat.lt_of_le_of_ne early apart
    refine ⟨fun _ => ⟨ended, now ▸ before⟩, fun missed => ?_⟩
    exact absurd ⟨hears, engine.now, before, head⟩ missed
  | timedOut ended late unheard =>
    rw [runTo_answered _ _ _ ended.isSome, fates_cons_unheard _ _ _ _ _ unheard]
    refine ⟨?_, fun _ => .inl ⟨ended, late⟩⟩
    rintro ⟨-, time, before, head⟩
    have after := fates_late backend flight.number _ rest _ (List.mem_of_mem_head? head)
    exact absurd (Nat.le_trans late after) (Nat.not_le_of_lt before)

theorem runTo_verdict (engine : Engine W) (flight : Flight) (waits : engine.Waits flight)
    (course : List (Event W)) (timely : engine.Along backend Event.MindsDeadline course)
    (stays : ∀ event ∈ course, event.givesUp flight.number = false)
    (untied : ∀ fate ∈ engine.fates backend flight.number course, fate.1 ≠ flight.deadline) :
    (engine.runTo backend flight.number course).Verdict flight.number flight.deadline
      (flight.deaf = false ∧
        FiredInTime flight.number flight.deadline (engine.fates backend flight.number course)) := by
  induction course generalizing engine flight with
  | nil =>
    refine ⟨?_, fun _ => .inr ⟨flight, rfl, rfl, waits⟩⟩
    rintro ⟨-, time, -, none⟩
    cases none
  | cons event rest ih =>
    obtain ⟨minds, timely⟩ := timely
    obtain ⟨stay, stays⟩ := List.forall_mem_cons.mp stays
    have stride := react_stride backend engine flight waits event minds stay
    apply stride.verdict backend waits.unanswered waits.early untied
    intro later number deadline still
    rw [← number, ← deadline] at untied ⊢
    apply ih _ later still timely
    · exact number ▸ stays
    · exact fun fate member => untied fate (List.mem_append_right _ member)

theorem runTo_waits (engine : Engine W) (flight : Flight) (waits : engine.Waits flight)
    (course : List (Event W)) (timely : engine.Along backend Event.MindsDeadline course)
    (stays : ∀ event ∈ course, event.givesUp flight.number = false) :
    ((engine.runTo backend flight.number course).answer? flight.number).isSome = true ∨
      ∃ later, (engine.runTo backend flight.number course).Waits later := by
  induction course generalizing engine flight with
  | nil => exact .inr ⟨flight, waits⟩
  | cons event rest ih =>
    obtain ⟨minds, timely⟩ := timely
    obtain ⟨stay, stays⟩ := List.forall_mem_cons.mp stays
    have stride := react_stride backend engine flight waits event minds stay
    rw [runTo_unanswered _ _ _ waits.unanswered]
    cases stride with
    | waiting still unheard => exact ih _ flight still timely stays
    | deafened still lost => exact ih _ { flight with deaf := true } still timely stays
    | completed ended now hears fired =>
      rw [runTo_answered _ _ _ ended.isSome]
      exact .inl ended.isSome
    | timedOut ended late unheard =>
      rw [runTo_answered _ _ _ ended.isSome]
      exact .inl ended.isSome

theorem not_givesUp_of_isClockwork (event : Event W) (clockwork : event.isClockwork = true)
    (number : Nat) : event.givesUp number = false := by
  cases event <;> simp_all [Event.isClockwork, Event.givesUp]

theorem runUntilAnswered_ends (engine : Engine W) (flight : Flight) (waits : engine.Waits flight)
    (ordered : Alarm.Ordered engine.alarms) :
    ((engine.runUntilAnswered backend flight.number none).answer? flight.number).isSome = true := by
  obtain ⟨course, quiet, punctual, runs⟩ := runWhile_course backend flight.number none
    engine.pending engine ordered
  have timely := Along.mono backend (fun _ _ on => on.1) engine course punctual
  have stays : ∀ event ∈ course, event.givesUp flight.number = false := fun event member =>
    not_givesUp_of_isClockwork event (quiet event member) flight.number
  rcases runWhile_ends backend flight.number engine.pending engine engine.burden_le_pending with
    idle | ended
  · rw [runs] at idle
    rw [runUntilAnswered, runs]
    rcases runTo_waits backend engine flight waits course timely stays with ended | ⟨later, waits⟩
    · exact ended
    · -- The deadline of a search that waits is still due.
      have due := next_isSome _ later waits.flying
      simp [idle] at due
  · exact ended

theorem now_le_deadline (now timeout : Nat) : now ≤ Orchestrator.deadline now timeout := by
  rw [Orchestrator.deadline]
  split <;> exact Nat.le_add_right _ _

theorem boarded_waits (engine : Engine W) (numbered : engine.Numbered) (request : SearchRequest)
    (flight : Flight) (started : Started Nat) (world : W)
    (flew : Orchestrator.launch backend engine.orchestrator.config request
      engine.orchestrator.flown engine.now engine.world = (.flying flight started, world)) :
    (engine.boarded flight started.alarm? world).Waits flight := by
  have deadline := (launch_flight backend _ _ _ _ _ _ _ _ flew).2.2
  refine ⟨rfl, (numbered.boarded request flight started world flew).answer flight rfl, ?_⟩
  rw [deadline]
  exact now_le_deadline _ _

end Engine

end FileSearch
