import FileSearch.Index.Backend
import FileSearch.Index.Notifier
import FileSearch.Path.Scope

set_option autoImplicit false

namespace FileSearch

structure MemoryEntry where
  path : Path
  kind? : Option String := none
  size? : Option UInt64 := none
  createdAt? : Option Instant := none
  modifiedAt? : Option Instant := none
  content? : Option String := none
  availableAfter : Nat := 0

def MemoryEntry.attributes (entry : MemoryEntry) : Attributes where
  text
    | .path => some entry.path.text
    | .fileName => entry.path.fileName?
    | .displayName => entry.path.fileName?
    | .textContent => entry.content?
    | .kind => entry.kind?
    | _ => none
  bytes
    | .size => entry.size?
    | _ => none
  time
    | .createdAt => entry.createdAt?
    | .modifiedAt => entry.modifiedAt?
    | _ => none

inductive GatherBehavior where
  | immediate
  | after (delay : Nat)
  | never
  | refuse (reason : String)
  deriving DecidableEq, Repr

def GatherBehavior.delay? : GatherBehavior → Option Nat
  | .immediate => some 0
  | .after delay => some delay
  | _ => none

def Scope.anyHolds (scopes : List Scope) (path : Path) : Bool :=
  scopes.any fun scope => match scope with
    | .indexedVolume => true
    | .directory root => path.isWithin root

structure MemoryQuery (ℓ : Type) where
  found : List MemoryEntry
  notifier : Notifier ℓ := {}
  startedAt? : Option Nat := none
  stoppedAt? : Option Nat := none

namespace MemoryQuery

variable {ℓ : Type}

def visible (query : MemoryQuery ℓ) (now : Nat) : List MemoryEntry :=
  match query.startedAt? with
  | some startedAt =>
    let elapsed := query.stoppedAt?.getD now - startedAt
    query.found.filter fun entry => entry.availableAfter ≤ elapsed
  | none => []

def resultAt (query : MemoryQuery ℓ) (index now : Nat) : Option RawRecord :=
  (query.visible now)[index]?.map fun entry => RawRecord.capture entry.attributes

def notify (query : MemoryQuery ℓ) : List (Signal ℓ) × MemoryQuery ℓ :=
  let (listener?, notifier) := query.notifier.notify
  ((listener?.map Signal.fired).toList, { query with notifier })

def stop (query : MemoryQuery ℓ) (now : Nat) : MemoryQuery ℓ :=
  { query with stoppedAt? := some (query.stoppedAt?.getD now) }

end MemoryQuery

/-- An index over a list of entries, with the queries that were opened on it. Without a runtime
there are no alarms: a query then fires as it starts, or not at all. -/
structure MemoryIndex (ℓ : Type) where
  entries : List MemoryEntry
  behavior : GatherBehavior := .immediate
  hasRuntime : Bool := true
  queries : List (MemoryQuery ℓ) := []

namespace MemoryIndex

variable {ℓ : Type}

def select (entries : List MemoryEntry) (plan : Plan) : List MemoryEntry :=
  let isWanted (entry : MemoryEntry) : Bool :=
    Scope.anyHolds plan.scopes entry.path && plan.predicate.holds entry.attributes
  plan.order.sort MemoryEntry.attributes (entries.filter isWanted)

def query (index : MemoryIndex ℓ) (handle : Nat) : MemoryQuery ℓ :=
  index.queries[handle]?.getD { found := [] }

def setQuery (index : MemoryIndex ℓ) (handle : Nat) (query : MemoryQuery ℓ) : MemoryIndex ℓ :=
  { index with queries := index.queries.set handle query }

def start (index : MemoryIndex ℓ) (handle now : Nat) : Started ℓ × MemoryIndex ℓ :=
  match index.behavior with
  | .refuse _ => ({ accepted := false }, index)
  | behavior =>
    let query := { index.query handle with startedAt? := some now }
    if index.hasRuntime then
      ({ accepted := true, alarm? := behavior.delay? }, index.setQuery handle query)
    else if behavior.delay? = some 0 then
      let (signals, query) := query.notify
      ({ accepted := true, signals }, index.setQuery handle query)
    else ({ accepted := true }, index.setQuery handle query)

def wake (index : MemoryIndex ℓ) (handle : Nat) : List (Signal ℓ) × MemoryIndex ℓ :=
  let query := index.query handle
  if query.stoppedAt?.isSome then ([], index)
  else
    let (signals, query) := query.notify
    (signals, index.setQuery handle query)

def startError (index : MemoryIndex ℓ) : Option String :=
  match index.behavior with
  | .refuse reason => some reason
  | _ => none

def backend (ℓ : Type) : Backend ℓ (MemoryIndex ℓ) where
  prepare plan index :=
    (.ok index.queries.length,
      { index with queries := index.queries ++ [{ found := select index.entries plan }] })
  subscribe handle listener index :=
    let query := index.query handle
    let (subscription, notifier) := query.notifier.subscribe listener
    (subscription, index.setQuery handle { query with notifier })
  unsubscribe handle subscription index :=
    let query := index.query handle
    index.setQuery handle { query with notifier := query.notifier.unsubscribe subscription }
  start handle now index := index.start handle now
  startError _ index := (index.startError, index)
  stop handle now index := index.setQuery handle ((index.query handle).stop now)
  resultCount handle now index := (((index.query handle).visible now).length, index)
  resultAt handle position now index := ((index.query handle).resultAt position now, index)
  wake handle _ index := index.wake handle

end MemoryIndex

end FileSearch
