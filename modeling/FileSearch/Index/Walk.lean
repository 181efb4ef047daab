import FileSearch.Index.Backend
import FileSearch.Index.Cancellation
import FileSearch.Index.Notifier
import FileSearch.Index.Tree
import FileSearch.Path.Raw

set_option autoImplicit false

namespace FileSearch

inductive Visit where
  | start
  -- A file, with its node unless its path is too long to look at it.
  | entry (path : Path) (node? : Option Node)
  | failed

namespace Visit

def isSkipped (hidden : Bool) (name : String) : Bool :=
  !hidden && name.toList.head? = some '.'

mutual

def below (hidden : Bool) (path : Path) : Node → List Visit
  | .folder _ entries => among hidden path entries
  | _ => []

def among (hidden : Bool) (path : Path) : List (String × Node) → List Visit
  | [] => []
  | (name, node) :: rest =>
    if isSkipped hidden name then among hidden path rest
    else
      let inner := path.join ⟨name⟩
      -- A file of too long a path is reported by its name alone, and a folder cannot be listed.
      if inner.isTooLong then
        .entry inner none :: (if node.isFolder then [.failed] else []) ++ among hidden path rest
      else .entry inner (some node) :: below hidden inner node ++ among hidden path rest

end

def startingAt (tree : Tree) (hidden : Bool) (root : Path) : List Visit :=
  match tree.folder? root with
  | some entries => .start :: among hidden root entries
  | none => [.failed]

def attributes (tree : Tree) (cancelled : Bool) (path : Path) (node? : Option Node) :
    Attributes :=
  let text : Attribute → Option String
    | .path => some path.text
    | .fileName => path.fileName?
    | .displayName => path.fileName?
    | .kind => node?.map Node.kind
    | _ => none
  { text
    bytes := fun attr => if attr = .size then node?.bind Node.size? else none
    time := fun attr =>
      match attr with
      | .createdAt => node?.bind fun node => node.times.created?
      | .modifiedAt => node?.bind fun node => node.times.modified?
      | _ => none
    containsText := fun attr needle =>
      if attr = .textContent then
        Content.contains? (tree.content path) needle cancelled = some true
      else
        match text attr with
        | some value => Text.contains (Text.lowercase value) needle
        | none => false }

def record? (tree : Tree) (cancelled : Bool) (predicate : Predicate) : Visit → Option RawRecord
  | .entry path node? =>
    let attributes := attributes tree cancelled path node?
    if predicate.holds attributes then some (RawRecord.capture attributes) else none
  | _ => none

-- The visits that a walk makes before it sees that it is cancelled; `done` were made before.
def untilSeen (cancelled : Bool) (done : Nat) : List Visit → List Visit
  | [] => []
  | visit :: rest =>
    if Cancellation.seenAt (done + 1) cancelled then []
    else visit :: untilSeen cancelled (done + 1) rest

end Visit

structure RecordStore where
  records : List RawRecord := []
  sorted : Bool := false

namespace RecordStore

def push (store : RecordStore) (record : RawRecord) : RecordStore :=
  { records := store.records ++ [record], sorted := false }

def settle (store : RecordStore) (order : Order) : RecordStore :=
  if store.sorted then store
  else { records := order.sort RawRecord.attributes store.records, sorted := true }

end RecordStore

structure WalkQuery (ℓ : Type) where
  roots : List Path
  predicate : Predicate
  order : Order
  store : RecordStore := {}
  notifier : Notifier ℓ := {}
  started : Bool := false
  startError? : Option String := none
  cancelled : Bool := false

structure WalkIndex (ℓ : Type) where
  tree : Tree
  volumeRoot : Path
  hidden : Bool := false
  queries : List (WalkQuery ℓ) := []

namespace WalkIndex

variable {ℓ : Type}

def dropRepeated {α : Type} (same : α → α → Bool) : List α → List α
  | [] => []
  | [folder] => [folder]
  | first :: second :: rest =>
    if same first second then dropRepeated same (first :: rest)
    else first :: dropRepeated same (second :: rest)

def addOuter {α : Type} (within : α → α → Bool) (kept : List α) : List α → List α
  | [] => kept
  | folder :: rest =>
    addOuter within (if kept.any (within folder) then kept else kept ++ [folder]) rest

def outermost {α : Type} (compare : α → α → Ordering) (same within : α → α → Bool)
    (folders : List α) : List α :=
  -- In order, a folder comes before all that lie in it.
  let inOrder := folders.mergeSort fun left right => (compare left right).isLE
  addOuter within [] (dropRepeated same inOrder)

/-- The folders where the walks for some places start, without those that lie in another. -/
def resolveRoots (volumeRoot : Path) (scopes : List Scope) : List Path :=
  outermost Path.compare Path.sameAs Path.isWithin (scopes.map fun scope => match scope with
    | .indexedVolume => volumeRoot
    | .directory path => path)

/-- The same where the volume has a path that need not be text. -/
def resolveRawRoots (volumeRoot : RawPath) (scopes : List Scope) : List RawPath :=
  outermost RawPath.compare RawPath.sameAs RawPath.isWithin (scopes.map fun scope => match scope with
    | .indexedVolume => volumeRoot
    | .directory path => .ofPath path)

def query (index : WalkIndex ℓ) (handle : Nat) : WalkQuery ℓ :=
  index.queries[handle]?.getD { roots := [], predicate := .always, order := SortSpec.order {} }

def setQuery (index : WalkIndex ℓ) (handle : Nat) (query : WalkQuery ℓ) : WalkIndex ℓ :=
  { index with queries := index.queries.set handle query }

def gather (index : WalkIndex ℓ) (query : WalkQuery ℓ) : List RawRecord :=
  let visits := query.roots.flatMap (Visit.startingAt index.tree index.hidden)
  (Visit.untilSeen query.cancelled 0 visits).filterMap
    (Visit.record? index.tree query.cancelled query.predicate)

def refusal? (index : WalkIndex ℓ) (query : WalkQuery ℓ) : Option String :=
  if query.started then some "query was already started"
  else (query.roots.find? fun root => (index.tree.folder? root).isNone).map fun root =>
    "search scope is not a directory: " ++ root.text

def start (index : WalkIndex ℓ) (handle : Nat) : Started ℓ × WalkIndex ℓ :=
  let query := index.query handle
  match index.refusal? query with
  | some reason =>
    ({ accepted := false },
      index.setQuery handle { query with started := true, startError? := some reason })
  | none =>
    ({ accepted := true, alarm? := some 0 }, index.setQuery handle { query with started := true })

def wake (index : WalkIndex ℓ) (handle : Nat) : List (Signal ℓ) × WalkIndex ℓ :=
  let query := index.query handle
  let store := (index.gather query).foldl RecordStore.push query.store
  if query.cancelled then ([], index.setQuery handle { query with store })
  else
    let (listener?, notifier) := query.notifier.notify
    ((listener?.map Signal.fired).toList, index.setQuery handle { query with store, notifier })

def backend (ℓ : Type) : Backend ℓ (WalkIndex ℓ) where
  prepare plan index :=
    let roots := resolveRoots index.volumeRoot plan.scopes
    (.ok index.queries.length,
      { index with
        queries := index.queries ++ [{ roots, predicate := plan.predicate, order := plan.order }] })
  subscribe handle listener index :=
    let query := index.query handle
    let (subscription, notifier) := query.notifier.subscribe listener
    (subscription, index.setQuery handle { query with notifier })
  unsubscribe handle subscription index :=
    let query := index.query handle
    index.setQuery handle { query with notifier := query.notifier.unsubscribe subscription }
  start handle _ index := index.start handle
  startError handle index := ((index.query handle).startError?, index)
  stop handle _ index := index.setQuery handle { index.query handle with cancelled := true }
  resultCount handle _ index := ((index.query handle).store.records.length, index)
  resultAt handle position _ index :=
    let query := index.query handle
    let store := query.store.settle query.order
    (store.records[position]?, index.setQuery handle { query with store })
  wake handle _ index := index.wake handle

end WalkIndex

end FileSearch
