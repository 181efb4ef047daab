import FileSearch.Index.Memory
import FileSearch.Proofs.Order.Sorting
import FileSearch.Proofs.Search.Extraction
import FileSearch.Search.Orchestrator

set_option autoImplicit false

namespace FileSearch

namespace SearchConfig

-- Where to look: in the places that a query names, or else in the default ones.
def places (config : SearchConfig) (query : Query) : List Path :=
  if query.namedPaths.isEmpty then config.defaultScopes else query.namedPaths

-- Without any place to look in, everything counts.
def covers (config : SearchConfig) (query : Query) (path : Path) : Bool :=
  (config.places query).isEmpty || (config.places query).any path.isWithin

theorem anyHolds_directories (places : List Path) (path : Path) :
    Scope.anyHolds (places.map .directory) path = places.any path.isWithin := by
  simp [Scope.anyHolds, Function.comp_def]

theorem anyHolds_scopes (config : SearchConfig) (query : Query) (path : Path) :
    Scope.anyHolds (Orchestrator.scopes config query.compile) path = config.covers query path := by
  cases named : query.namedPaths with
  | nil =>
    cases defaults : config.defaultScopes with
    | nil =>
      simp [Orchestrator.scopes, CompiledQuery.usesDefaultScope, Query.compile, named, defaults,
        covers, places, Scope.anyHolds]
    | cons first rest =>
      rw [covers, places, named, defaults, Orchestrator.scopes, defaults]
      simpa [CompiledQuery.usesDefaultScope, Query.compile, named] using
        anyHolds_directories (first :: rest) path
  | cons first rest =>
    rw [covers, places, named, Orchestrator.scopes]
    simpa [CompiledQuery.usesDefaultScope, Query.compile, named] using
      anyHolds_directories (first :: rest) path

def found (config : SearchConfig) (request : SearchRequest) (entries : List MemoryEntry) :
    List MemoryEntry :=
  let query := request.criteria.toQuery
  request.sort.order.sort MemoryEntry.attributes
    (entries.filter fun entry =>
      config.covers query entry.path && query.compile.predicate.holds entry.attributes)

theorem select_plan (config : SearchConfig) (request : SearchRequest)
    (entries : List MemoryEntry) :
    MemoryIndex.select entries (Orchestrator.plan config request) =
      config.found request entries := by
  simp only [MemoryIndex.select, Orchestrator.plan, anyHolds_scopes, found]

end SearchConfig

namespace MemoryEntry

def result (entry : MemoryEntry) : ResultRecord where
  path := entry.path
  name := entry.path.fileName?.getD ""
  kind? := entry.kind?
  size? := entry.size?
  createdAt? := entry.createdAt?
  modifiedAt? := entry.modifiedAt?

theorem capture_result (entry : MemoryEntry) :
    (RawRecord.capture entry.attributes).result? = some entry.result := by
  obtain ⟨path, kind?, size?, createdAt?, modifiedAt?, content?, availableAfter⟩ := entry
  cases kind? <;> cases size? <;> cases createdAt? <;> cases modifiedAt? <;>
    cases named : path.fileName? <;>
    simp [RawRecord.result?, RawRecord.capture, RawRecord.captured, RawRecord.text,
      RawRecord.bytes, RawRecord.time, attributes, result, named]

-- The results of those entries that have shown up some time after the start.
def results (found : List MemoryEntry) (elapsed limit : Nat) : List ResultRecord :=
  ((found.filter (·.availableAfter ≤ elapsed)).take limit).map result

end MemoryEntry

namespace MemoryQuery

variable {ℓ : Type}

-- A query that was started at some time and has not been stopped.
structure Gathers (query : MemoryQuery ℓ) (found : List MemoryEntry) (start : Nat) : Prop where
  found : query.found = found
  started : query.startedAt? = some start
  going : query.stoppedAt? = none

def letGo (query : MemoryQuery ℓ) (subscription now : Nat) : MemoryQuery ℓ :=
  { query with notifier := query.notifier.unsubscribe subscription }.stop now

theorem letGo_stopped (query : MemoryQuery ℓ) (subscription now : Nat) :
    (query.letGo subscription now).stoppedAt?.isSome = true := rfl

theorem Gathers.visible {query : MemoryQuery ℓ} {found : List MemoryEntry} {start : Nat}
    (gathers : query.Gathers found start) (now : Nat) :
    query.visible now = found.filter (·.availableAfter ≤ now - start) := by
  simp [MemoryQuery.visible, gathers.found, gathers.started, gathers.going]

-- As it is stopped a query shows what it would have shown.
theorem Gathers.visible_letGo {query : MemoryQuery ℓ} {found : List MemoryEntry} {start : Nat}
    (gathers : query.Gathers found start) (subscription now : Nat) :
    (query.letGo subscription now).visible now =
      found.filter (·.availableAfter ≤ now - start) := by
  simp [MemoryQuery.visible, letGo, stop, gathers.found, gathers.started, gathers.going]

end MemoryQuery

namespace MemoryIndex

section

variable {ℓ : Type}

def add (index : MemoryIndex ℓ) (query : MemoryQuery ℓ) : MemoryIndex ℓ :=
  { index with queries := index.queries ++ [query] }

@[simp] theorem add_behavior (index : MemoryIndex ℓ) (query : MemoryQuery ℓ) :
    (index.add query).behavior = index.behavior := rfl

@[simp] theorem add_runtime (index : MemoryIndex ℓ) (query : MemoryQuery ℓ) :
    (index.add query).hasRuntime = index.hasRuntime := rfl

@[simp] theorem query_add (index : MemoryIndex ℓ) (query : MemoryQuery ℓ) :
    (index.add query).query index.queries.length = query := by
  simp [MemoryIndex.query, add]

theorem query_add_old (index : MemoryIndex ℓ) (query : MemoryQuery ℓ) (handle : Nat)
    (old : handle < index.queries.length) :
    (index.add query).query handle = index.query handle := by
  simp [MemoryIndex.query, add, List.getElem?_append_left old]

@[simp] theorem setQuery_add (index : MemoryIndex ℓ) (query later : MemoryQuery ℓ) :
    (index.add query).setQuery index.queries.length later = index.add later := by
  simp [setQuery, add]

theorem query_setQuery (index : MemoryIndex ℓ) (handle : Nat) (query : MemoryQuery ℓ)
    (known : handle < index.queries.length) : (index.setQuery handle query).query handle = query := by
  simp [MemoryIndex.query, setQuery, known]

theorem query_setQuery_other (index : MemoryIndex ℓ) (handle other : Nat) (query : MemoryQuery ℓ)
    (apart : handle ≠ other) : (index.setQuery handle query).query other = index.query other := by
  simp [MemoryIndex.query, setQuery, List.getElem?_set_ne apart]

@[simp] theorem setQuery_setQuery (index : MemoryIndex ℓ) (handle : Nat)
    (query later : MemoryQuery ℓ) :
    (index.setQuery handle query).setQuery handle later = index.setQuery handle later := by
  simp [setQuery]

@[simp] theorem setQuery_length (index : MemoryIndex ℓ) (handle : Nat) (query : MemoryQuery ℓ) :
    (index.setQuery handle query).queries.length = index.queries.length := by
  simp [setQuery]

theorem known_of_gathers (index : MemoryIndex ℓ) (handle : Nat) (found : List MemoryEntry)
    (start : Nat) (gathers : (index.query handle).Gathers found start) :
    handle < index.queries.length := by
  by_contra unknown
  have started := gathers.started
  simp [MemoryIndex.query, List.getElem?_eq_none (Nat.le_of_not_lt unknown)] at started

theorem reads (index : MemoryIndex ℓ) (handle now : Nat) :
    (backend ℓ).Reads handle now index
      (((index.query handle).visible now).map fun entry =>
        some (RawRecord.capture entry.attributes)) where
  count := by simp [backend]
  slot position := by
    simp only [backend, MemoryQuery.resultAt, List.getElem?_map]
    cases ((index.query handle).visible now)[position]? <;> rfl

theorem extract_visible (index : MemoryIndex ℓ) (handle limit now : Nat) :
    (backend ℓ).extract handle limit now index =
      ((((index.query handle).visible now).take limit).map MemoryEntry.result, index) := by
  have results : (·.bind RawRecord.result?) ∘
      (fun entry : MemoryEntry => some (RawRecord.capture entry.attributes)) =
      some ∘ MemoryEntry.result := funext MemoryEntry.capture_result
  rw [(reads index handle now).extract, List.filterMap_map, results, List.filterMap_eq_map,
    List.map_take]

theorem wake_stopped (index : MemoryIndex ℓ) (handle : Nat)
    (stopped : (index.query handle).stoppedAt?.isSome = true) :
    index.wake handle = ([], index) := by
  simp [wake, stopped]

theorem wake_listening (index : MemoryIndex ℓ) (handle : Nat)
    (going : (index.query handle).stoppedAt? = none) (listener : ℓ)
    (listens : (index.query handle).notifier.current?.map Prod.snd = some listener) :
    index.wake handle =
      ([.fired listener],
        index.setQuery handle
          { index.query handle with
            notifier := { (index.query handle).notifier with current? := none } }) := by
  simp [wake, going, MemoryQuery.notify, Notifier.notify, listens]

theorem wake_gathers (index : MemoryIndex ℓ) (handle : Nat) (found : List MemoryEntry)
    (start : Nat) (gathers : (index.query handle).Gathers found start) :
    ((index.wake handle).2.query handle).Gathers found start := by
  have known := index.known_of_gathers handle found start gathers
  simp only [wake, gathers.going, Option.isSome_none, Bool.false_eq_true, if_false]
  rw [query_setQuery _ _ _ known]
  exact ⟨gathers.found, gathers.started, gathers.going⟩

end

variable (index : MemoryIndex Nat)

theorem tearDown_eq (flight : Flight) (now : Nat) (known : flight.handle < index.queries.length) :
    Orchestrator.tearDown (backend Nat) flight now index =
      index.setQuery flight.handle
        ((index.query flight.handle).letGo flight.subscription now) := by
  simp [Orchestrator.tearDown_calls, backend, query_setQuery, known, MemoryQuery.letGo]

theorem complete_world (flight : Flight) (now : Nat) :
    (Orchestrator.complete (backend Nat) flight now index).2 =
      Orchestrator.tearDown (backend Nat) flight now index := by
  simp [Orchestrator.complete, extract_visible]

theorem expire_world (flight : Flight) (now : Nat) :
    (Orchestrator.expire (backend Nat) flight now index).2 =
      Orchestrator.tearDown (backend Nat) flight now index := by
  simp [Orchestrator.expire, extract_visible]

-- A query that is let go of as it fires is only changed in that.
theorem complete_wake_world (flight : Flight) (now : Nat)
    (known : flight.handle < index.queries.length)
    (going : (index.query flight.handle).stoppedAt? = none) :
    ∃ query : MemoryQuery Nat, query.stoppedAt?.isSome = true ∧
      (Orchestrator.complete (backend Nat) flight now (index.wake flight.handle).2).2 =
        index.setQuery flight.handle query := by
  refine ⟨_, MemoryQuery.letGo_stopped (index.query flight.handle).notify.2 flight.subscription now,
    ?_⟩
  simp only [complete_world, wake, going, Option.isSome_none, Bool.false_eq_true, if_false]
  rw [tearDown_eq _ _ _ (by simpa using known), setQuery_setQuery, query_setQuery _ _ _ known]

theorem complete_gathers (flight : Flight) (now : Nat) (found : List MemoryEntry) (start : Nat)
    (gathers : (index.query flight.handle).Gathers found start) :
    (Orchestrator.complete (backend Nat) flight now index).1 =
      ⟨MemoryEntry.results found (now - start) flight.limit, false⟩ := by
  have known := index.known_of_gathers _ _ _ gathers
  simp only [Orchestrator.complete, Orchestrator.run_teardown, extract_visible,
    MemoryEntry.results]
  rw [tearDown_eq _ _ _ known, query_setQuery _ _ _ known, gathers.visible_letGo]

theorem expire_gathers (flight : Flight) (now : Nat) (found : List MemoryEntry) (start : Nat)
    (gathers : (index.query flight.handle).Gathers found start) :
    (Orchestrator.expire (backend Nat) flight now index).1 =
      ⟨MemoryEntry.results found (now - start) flight.limit, true⟩ := by
  simp only [Orchestrator.expire, extract_visible, MemoryEntry.results, gathers.visible]

def flight (config : SearchConfig) (request : SearchRequest) (number now : Nat) : Flight where
  number
  handle := index.queries.length
  subscription := 1
  limit := config.effectiveLimit request.limit?
  deadline := Orchestrator.deadline now (request.timeoutMs?.getD config.defaultTimeoutMs)

theorem prepare_plan (config : SearchConfig) (request : SearchRequest) :
    (backend Nat).prepare (Orchestrator.plan config request) index =
      (.ok index.queries.length, index.add { found := config.found request index.entries }) := by
  rw [← SearchConfig.select_plan]
  rfl

theorem subscribe_add (query : MemoryQuery Nat) (listener : Nat) :
    (backend Nat).subscribe index.queries.length listener (index.add query) =
      ((query.notifier.subscribe listener).1,
        index.add { query with notifier := (query.notifier.subscribe listener).2 }) := by
  simp [backend]

theorem start_refused (query : MemoryQuery Nat) (handle now : Nat) (reason : String)
    (refuses : index.behavior = .refuse reason) :
    (backend Nat).start handle now (index.add query) = ({ accepted := false }, index.add query) := by
  simp [backend, MemoryIndex.start, refuses]

theorem start_accepted (query : MemoryQuery Nat) (now : Nat)
    (accepts : ∀ reason, index.behavior ≠ .refuse reason) (runtime : index.hasRuntime = true) :
    (backend Nat).start index.queries.length now (index.add query) =
      ({ accepted := true, alarm? := index.behavior.delay? },
        index.add { query with startedAt? := some now }) := by
  cases behavior : index.behavior <;> simp_all [backend, MemoryIndex.start]

theorem launch_refused (config : SearchConfig) (request : SearchRequest) (number now : Nat)
    (reason : String) (refuses : index.behavior = .refuse reason) :
    Orchestrator.launch (backend Nat) config request number now index =
      (.failed (.backendStartFailure reason),
        index.add
          { found := config.found request index.entries
            notifier := ⟨1, none⟩
            stoppedAt? := some now }) := by
  have error (query : MemoryQuery Nat) :
      (backend Nat).startError index.queries.length (index.add query) =
        (some reason, index.add query) := by
    simp [backend, startError, refuses]
  have knows (query : MemoryQuery Nat) :
      index.queries.length < (index.add query).queries.length := by
    simp [add]
  simp only [Orchestrator.launch, prepare_plan, subscribe_add,
    start_refused index _ _ _ reason refuses, error]
  simp [tearDown_eq, knows, MemoryQuery.letGo, MemoryQuery.stop, Notifier.subscribe,
    Notifier.unsubscribe]

theorem launch_accepted (config : SearchConfig) (request : SearchRequest) (number now : Nat)
    (accepts : ∀ reason, index.behavior ≠ .refuse reason) (runtime : index.hasRuntime = true) :
    Orchestrator.launch (backend Nat) config request number now index =
      (.flying (index.flight config request number now)
          { accepted := true, alarm? := index.behavior.delay? },
        index.add
          { found := config.found request index.entries
            notifier := ⟨1, some (1, number)⟩
            startedAt? := some now }) := by
  simp only [Orchestrator.launch, prepare_plan, subscribe_add,
    start_accepted index _ _ accepts runtime]
  rfl

end MemoryIndex

end FileSearch
