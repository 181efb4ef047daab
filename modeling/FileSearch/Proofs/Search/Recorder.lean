import FileSearch.Proofs.Search.Events

set_option autoImplicit false

namespace FileSearch

inductive HandleCall where
  | subscribe (subscription : Nat)
  | start
  | startError
  | count
  | read
  | unsubscribe (subscription : Nat)
  | stop
  deriving DecidableEq

def HandleCall.isRead : HandleCall → Bool
  | .count => true
  | .read => true
  | _ => false

-- A call on an index. Queries are numbered in the order in which they were opened.
inductive BackendCall where
  | opened (succeeded : Bool)
  | on (handle : Nat) (call : HandleCall)
  deriving DecidableEq

-- What an index knows, the handles that it gave, and the calls so far.
structure Recorder (W : Type) where
  world : W
  handles : List Nat := []
  calls : List BackendCall := []

namespace Recorder

variable {W : Type}

def own (recorder : Recorder W) (handle : Nat) : Nat :=
  recorder.handles[handle]?.getD 0

def note (recorder : Recorder W) (world : W) (handle : Nat) (calls : List HandleCall) :
    Recorder W :=
  { recorder with world, calls := recorder.calls ++ calls.map (.on handle) }

def opened (recorder : Recorder W) (world : W) (handle : Nat) : Recorder W :=
  { world
    handles := recorder.handles ++ [handle]
    calls := recorder.calls ++ [.opened true] }

def unopened (recorder : Recorder W) (world : W) : Recorder W :=
  { recorder with world, calls := recorder.calls ++ [.opened false] }

def owned (recorder : Recorder W) (flight : Flight) : Flight :=
  { flight with handle := recorder.own flight.handle }

theorem opened_own (recorder : Recorder W) (world : W) (new handle : Nat)
    (known : handle < recorder.handles.length) :
    (recorder.opened world new).own handle = recorder.own handle := by
  rw [own, own, opened, List.getElem?_append_left known]

@[simp] theorem opened_own_new (recorder : Recorder W) (world : W) (new : Nat) :
    (recorder.opened world new).own recorder.handles.length = new := by
  simp [own, opened]

@[simp] theorem owned_handle (recorder : Recorder W) (flight : Flight) :
    (recorder.owned flight).handle = recorder.own flight.handle := rfl

@[simp] theorem owned_subscription (recorder : Recorder W) (flight : Flight) :
    (recorder.owned flight).subscription = flight.subscription := rfl

@[simp] theorem owned_limit (recorder : Recorder W) (flight : Flight) :
    (recorder.owned flight).limit = flight.limit := rfl

@[simp] theorem note_world (recorder : Recorder W) (world : W) (handle : Nat)
    (calls : List HandleCall) : (recorder.note world handle calls).world = world := rfl

@[simp] theorem note_handles (recorder : Recorder W) (world : W) (handle : Nat)
    (calls : List HandleCall) : (recorder.note world handle calls).handles = recorder.handles := rfl

@[simp] theorem note_own (recorder : Recorder W) (world : W) (handle : Nat)
    (calls : List HandleCall) (other : Nat) :
    (recorder.note world handle calls).own other = recorder.own other := rfl

@[simp] theorem note_owned (recorder : Recorder W) (world : W) (handle : Nat)
    (calls : List HandleCall) (flight : Flight) :
    (recorder.note world handle calls).owned flight = recorder.owned flight := rfl

@[simp] theorem note_note (recorder : Recorder W) (first second : W) (handle : Nat)
    (early late : List HandleCall) :
    (recorder.note first handle early).note second handle late =
      recorder.note second handle (early ++ late) := by
  simp [note]

end Recorder

-- An index that writes down the calls on it.
def Backend.recorded {W : Type} (backend : Backend Nat W) : Backend Nat (Recorder W) where
  prepare plan recorder :=
    match backend.prepare plan recorder.world with
    | (.ok handle, world) => (.ok recorder.handles.length, recorder.opened world handle)
    | (.error error, world) => (.error error, recorder.unopened world)
  subscribe handle listener recorder :=
    let (subscription, world) := backend.subscribe (recorder.own handle) listener recorder.world
    (subscription, recorder.note world handle [.subscribe subscription])
  unsubscribe handle subscription recorder :=
    let world := backend.unsubscribe (recorder.own handle) subscription recorder.world
    recorder.note world handle [.unsubscribe subscription]
  start handle now recorder :=
    let (started, world) := backend.start (recorder.own handle) now recorder.world
    (started, recorder.note world handle [.start])
  startError handle recorder :=
    let (reason?, world) := backend.startError (recorder.own handle) recorder.world
    (reason?, recorder.note world handle [.startError])
  stop handle now recorder :=
    recorder.note (backend.stop (recorder.own handle) now recorder.world) handle [.stop]
  resultCount handle now recorder :=
    let (count, world) := backend.resultCount (recorder.own handle) now recorder.world
    (count, recorder.note world handle [.count])
  resultAt handle index now recorder :=
    let (record?, world) := backend.resultAt (recorder.own handle) index now recorder.world
    (record?, recorder.note world handle [.read])
  wake handle now recorder :=
    let (signals, world) := backend.wake (recorder.own handle) now recorder.world
    (signals, { recorder with world })

namespace Backend

variable {W : Type} (backend : Backend Nat W)

theorem recorded_prepare_ok (plan : Plan) (recorder : Recorder W) (handle : Nat) (world : W)
    (prepared : backend.prepare plan recorder.world = (.ok handle, world)) :
    backend.recorded.prepare plan recorder =
      (.ok recorder.handles.length, recorder.opened world handle) := by
  simp only [recorded, prepared]

theorem recorded_prepare_error (plan : Plan) (recorder : Recorder W) (error : SearchError)
    (world : W) (prepared : backend.prepare plan recorder.world = (.error error, world)) :
    backend.recorded.prepare plan recorder = (.error error, recorder.unopened world) := by
  simp only [recorded, prepared]

theorem recorded_subscribe (handle listener : Nat) (recorder : Recorder W) :
    backend.recorded.subscribe handle listener recorder =
      let made := backend.subscribe (recorder.own handle) listener recorder.world
      (made.1, recorder.note made.2 handle [.subscribe made.1]) := rfl

theorem recorded_start (handle now : Nat) (recorder : Recorder W) :
    backend.recorded.start handle now recorder =
      let made := backend.start (recorder.own handle) now recorder.world
      (made.1, recorder.note made.2 handle [.start]) := rfl

theorem recorded_startError (handle : Nat) (recorder : Recorder W) :
    backend.recorded.startError handle recorder =
      let made := backend.startError (recorder.own handle) recorder.world
      (made.1, recorder.note made.2 handle [.startError]) := rfl

theorem recorded_readResults (handle : Nat) (clock : Nat → Nat) (index left limit : Nat)
    (recorder : Recorder W) :
    ∃ reads : List HandleCall, (∀ call ∈ reads, call.isRead = true) ∧
      backend.recorded.readResults handle clock index left limit recorder =
        ((backend.readResults (recorder.own handle) clock index left limit recorder.world).1,
          recorder.note
            (backend.readResults (recorder.own handle) clock index left limit recorder.world).2
            handle reads) := by
  -- Every turn makes one read, whether or not its record is a result.
  induction left generalizing index limit recorder with
  | zero => exact ⟨[], by simp, by simp [readResults, Recorder.note]⟩
  | succ left ih =>
    cases limit with
    | zero => exact ⟨[], by simp, by simp [readResults, Recorder.note]⟩
    | succ limit =>
      let read := backend.resultAt (recorder.own handle) index (clock index) recorder.world
      let noted := recorder.note read.2 handle [.read]
      have here : backend.recorded.resultAt handle index (clock index) recorder = (read.1, noted) := rfl
      cases result : read.1.bind RawRecord.result? with
      | some record =>
        obtain ⟨reads, all, rest⟩ := ih (index + 1) limit noted
        refine ⟨.read :: reads, by simpa [HandleCall.isRead] using all, ?_⟩
        simp only [readResults, here, result, rest]
        simp only [read] at result
        simp [result, noted, read]
      | none =>
        obtain ⟨reads, all, rest⟩ := ih (index + 1) (limit + 1) noted
        refine ⟨.read :: reads, by simpa [HandleCall.isRead] using all, ?_⟩
        simp only [readResults, here, result, rest]
        simp only [read] at result
        simp [result, noted, read]

theorem recorded_extract (handle limit now : Nat) (recorder : Recorder W) :
    ∃ reads : List HandleCall, (∀ call ∈ reads, call.isRead = true) ∧
      backend.recorded.extract handle limit now recorder =
        ((backend.extract (recorder.own handle) limit now recorder.world).1,
          recorder.note (backend.extract (recorder.own handle) limit now recorder.world).2
            handle reads) := by
  let counted := backend.resultCount (recorder.own handle) now recorder.world
  obtain ⟨reads, all, rest⟩ := recorded_readResults backend handle (fun _ => now) 0 counted.1 limit
    (recorder.note counted.2 handle [.count])
  refine ⟨.count :: reads, by simpa [HandleCall.isRead] using all, ?_⟩
  have here : backend.recorded.resultCount handle now recorder =
      (counted.1, recorder.note counted.2 handle [.count]) := rfl
  simp only [extract, extractAlong, here, rest]
  simp [counted]

end Backend

namespace Orchestrator

variable {W : Type} (backend : Backend Nat W)

theorem recorded_tearDown (flight : Flight) (now : Nat) (recorder : Recorder W) :
    tearDown backend.recorded flight now recorder =
      recorder.note (tearDown backend (recorder.owned flight) now recorder.world) flight.handle
        [.unsubscribe flight.subscription, .stop] := by
  simp [tearDown_calls, Backend.recorded]

theorem recorded_complete (flight : Flight) (now : Nat) (recorder : Recorder W) :
    ∃ reads : List HandleCall, (∀ call ∈ reads, call.isRead = true) ∧
      complete backend.recorded flight now recorder =
        ((complete backend (recorder.owned flight) now recorder.world).1,
          recorder.note (complete backend (recorder.owned flight) now recorder.world).2
            flight.handle ([.unsubscribe flight.subscription, .stop] ++ reads)) := by
  obtain ⟨reads, all, read⟩ := backend.recorded_extract flight.handle flight.limit now
    (tearDown backend.recorded flight now recorder)
  refine ⟨reads, all, ?_⟩
  rw [recorded_tearDown] at read
  simp [complete, recorded_tearDown, read]

theorem recorded_expire (flight : Flight) (now : Nat) (recorder : Recorder W) :
    ∃ reads : List HandleCall, (∀ call ∈ reads, call.isRead = true) ∧
      expire backend.recorded flight now recorder =
        ((expire backend (recorder.owned flight) now recorder.world).1,
          recorder.note (expire backend (recorder.owned flight) now recorder.world).2
            flight.handle (reads ++ [.unsubscribe flight.subscription, .stop])) := by
  obtain ⟨reads, all, read⟩ := backend.recorded_extract flight.handle flight.limit now recorder
  refine ⟨reads, all, ?_⟩
  simp [expire, recorded_tearDown, read]

-- What a launch writes down: a query that cannot be opened, one that does not start, or one that
-- flies.
inductive Launched (plan : Plan) (recorder : Recorder W) :
    Launch × W → Launch × Recorder W → Prop where
  | unopened (error : SearchError) (world : W)
      (prepared : backend.prepare plan recorder.world = (.error error, world)) :
    Launched plan recorder (.failed error, world) (.failed error, recorder.unopened world)
  | refused (reason : String) (own subscription : Nat) (before world : W) :
    Launched plan recorder (.failed (.backendStartFailure reason), world)
      (.failed (.backendStartFailure reason),
        (recorder.opened before own).note world recorder.handles.length
          [.subscribe subscription, .start, .startError, .unsubscribe subscription, .stop])
  | flying (flight : Flight) (own : Nat) (started : Started Nat) (before world : W)
      (numbered : flight.handle = recorder.handles.length) :
    Launched plan recorder (.flying { flight with handle := own } started, world)
      (.flying flight started, (recorder.opened before own).note world flight.handle
        [.subscribe flight.subscription, .start])

theorem recorded_launch (config : SearchConfig) (request : SearchRequest) (number now : Nat)
    (recorder : Recorder W) :
    ∃ alone noted, launch backend config request number now recorder.world = alone ∧
      launch backend.recorded config request number now recorder = noted ∧
      Launched backend (plan config request) recorder alone noted := by
  refine ⟨_, _, rfl, rfl, ?_⟩
  -- Both launches take the same way, since the index itself is asked in both.
  rw [launch, launch]
  cases prepared : backend.prepare (plan config request) recorder.world with
  | mk result world =>
    cases result with
    | error error =>
      rw [backend.recorded_prepare_error _ _ _ _ prepared]
      exact .unopened error world prepared
    | ok own =>
      have found := recorder.opened_own_new world own
      have same : (recorder.opened world own).world = world := rfl
      rw [backend.recorded_prepare_ok _ _ _ _ prepared]
      simp only [backend.recorded_subscribe, backend.recorded_start, backend.recorded_startError,
        Recorder.note_own, Recorder.note_world, Recorder.note_note, found, same]
      split
      next accepted =>
        let flight : Flight :=
          { number, handle := recorder.handles.length
            subscription := (backend.subscribe own number world).1
            limit := config.effectiveLimit request.limit?
            deadline := deadline now (request.timeoutMs?.getD config.defaultTimeoutMs) }
        exact .flying flight own _ world _ rfl
      next refused =>
        simp only [Teardown.run_again, run_teardown]
        rw [recorded_tearDown]
        simp only [Recorder.note_note, Recorder.note_owned, Recorder.note_world]
        rw [Recorder.owned]
        simp only [found]
        exact .refused _ own _ world _

end Orchestrator

end FileSearch
