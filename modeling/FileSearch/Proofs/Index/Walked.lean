import FileSearch.Proofs.Index.RecordStore
import FileSearch.Proofs.Index.Roots
import FileSearch.Proofs.Index.Visits
import FileSearch.Proofs.Search.Extraction
import Mathlib.Data.Set.Basic

set_option autoImplicit false

namespace FileSearch

-- The components of the path that a record tells.
def RawRecord.place? (record : RawRecord) : Option (List Component) :=
  (record.text .path).map fun path => Path.components ⟨path⟩

namespace Visit

theorem untilSeen_going (done : Nat) (visits : List Visit) :
    untilSeen false done visits = visits := by
  induction visits generalizing done with
  | nil => rfl
  | cons visit rest ih => simp [untilSeen, Cancellation.seenAt, ih]

variable {tree : Tree} {cancelled : Bool} {predicate : Predicate}

@[simp] theorem capture_place? (met : Path) (node? : Option Node) :
    (RawRecord.capture (attributes tree cancelled met node?)).place? = some met.components := rfl

theorem recorded_iff (visit : Visit) (place : List Component) :
    (∃ record, record? tree cancelled predicate visit = some record ∧
        record.place? = some place) ↔
      ∃ met node?, visit = .entry met node? ∧
        predicate.holds (attributes tree cancelled met node?) = true ∧ met.components = place := by
  cases visit with
  | entry met node? =>
    by_cases held : predicate.holds (attributes tree cancelled met node?) = true
    · simp [record?, held]
    · simp [record?, held]
  | _ => simp [record?]

end Visit

namespace WalkIndex

variable {ℓ : Type} (index : WalkIndex ℓ)

-- The walk from a folder goes along these names to a folder with these files.
def Opens (root : Path) (names : List String) (inside : Entries) : Prop :=
  ∃ entries, index.tree.folder? root = some entries ∧
    Visit.GoesAlong index.hidden root entries names inside

-- The walk from a folder meets a file of this name where these names lead to.
def Meets (root : Path) (names : List String) (name : String) (node : Node) : Prop :=
  ∃ inside, index.Opens root names inside ∧ Visit.isSkipped index.hidden name = false ∧
    (name, node) ∈ inside

theorem opens_nil_iff (root : Path) (inside : Entries) :
    index.Opens root [] inside ↔ index.tree.folder? root = some inside := by
  constructor
  · rintro ⟨entries, leads, along⟩
    cases along.opens
    exact leads
  · intro leads
    exact ⟨inside, leads, rfl, by simp, (Tree.folder?_iff.mp leads).1⟩

section

variable {index} (proper : index.tree.IsProper) {root : Path} {names : List String}
  {inside : Entries} {name : String} {node : Node}
include proper

theorem Opens.named (opens : index.Opens root names inside) :
    root.isAbsolute = true ∧ (∀ name ∈ names, IsFileName name) ∧ inside.AreProper := by
  obtain ⟨entries, leads, along⟩ := opens
  obtain ⟨good, named⟩ := (Tree.folder?_areProper proper leads).inner along.opens
  exact ⟨(Tree.folder?_iff.mp leads).2.1, named, good⟩

theorem Meets.named (meets : index.Meets root names name node) :
    root.isAbsolute = true ∧ (∀ name ∈ names, IsFileName name) ∧ IsFileName name := by
  obtain ⟨inside, opens, -, member⟩ := meets
  obtain ⟨absolute, named, good⟩ := opens.named proper
  exact ⟨absolute, named, good.named member⟩

theorem Meets.components (meets : index.Meets root names name node) :
    ((root.below names).join ⟨name⟩).components =
      root.components ++ names.map .named ++ [.named name] := by
  obtain ⟨absolute, named, named'⟩ := meets.named proper
  rw [Path.join_components (Path.below_absolute absolute named) named',
    Path.below_components absolute named]

theorem opens_concat_iff :
    index.Opens root (names ++ [name]) inside ↔
      (∃ times, index.Meets root names name (.folder times inside)) ∧
        ((root.below names).join ⟨name⟩).isTooLong = false := by
  constructor
  · rintro ⟨entries, leads, opens, wanted, fits⟩
    obtain ⟨-, absolute, -⟩ := Tree.folder?_iff.mp leads
    rw [Entries.inner?_append, Option.bind_eq_some_iff] at opens
    obtain ⟨middle, opens, further⟩ := opens
    obtain ⟨times, found⟩ := Entries.inner?_one.mp further
    obtain ⟨good, named⟩ := (Tree.folder?_areProper proper leads).inner opens
    have member := (good.lookup_iff name _).mp found
    obtain ⟨wanted, wanted'⟩ := List.forall_mem_append.mp wanted
    rw [Path.below_concat] at fits
    have fits' := Path.fits_of_join (Path.below_absolute absolute named) (good.named member) fits
    exact ⟨⟨times, middle, ⟨entries, leads, opens, wanted, fits'⟩, by simpa using wanted', member⟩,
      fits⟩
  · rintro ⟨⟨times, middle, ⟨entries, leads, opens, wanted, -⟩, wanted', member⟩, fits⟩
    have good := ((Tree.folder?_areProper proper leads).inner opens).1
    refine ⟨entries, leads, ?_, ?_, ?_⟩
    · rw [Entries.inner?_append, opens]
      exact Entries.inner?_one.mpr ⟨times, (good.lookup_iff name _).mpr member⟩
    · exact List.forall_mem_append.mpr ⟨wanted, by simpa using wanted'⟩
    · rwa [Path.below_concat]

theorem mem_startingAt_iff (met : Path) (node? : Option Node) :
    .entry met node? ∈ Visit.startingAt index.tree index.hidden root ↔
      ∃ names name node, index.Meets root names name node ∧
        met = (root.below names).join ⟨name⟩ ∧ node? = Visit.seen? met node := by
  rw [Visit.startingAt]
  cases leads : index.tree.folder? root with
  | none => simp [Meets, Opens, leads]
  | some entries =>
    have good := Tree.folder?_areProper proper leads
    obtain ⟨fits, absolute, -⟩ := Tree.folder?_iff.mp leads
    constructor
    · intro meets
      obtain ⟨names, inside, name, node, along, wanted, member, made⟩ :=
        Visit.goesAlong_of_mem good fits (by simpa using meets)
      exact ⟨names, name, node, ⟨inside, ⟨entries, leads, along⟩, wanted, member⟩, made⟩
    · rintro ⟨names, name, node, ⟨inside, ⟨entries', leads', along⟩, wanted, member⟩, rfl, rfl⟩
      cases leads.symm.trans leads'
      exact List.mem_cons_of_mem _ (along.meets good absolute wanted member)

end

variable (query : WalkQuery ℓ)

theorem gather_going (going : query.cancelled = false) :
    index.gather query = (query.roots.flatMap (Visit.startingAt index.tree index.hidden)).filterMap
      (Visit.record? index.tree false query.predicate) := by
  rw [gather, going, Visit.untilSeen_going]

-- The query that a plan is prepared to.
def ready (plan : Plan) : WalkQuery ℓ where
  roots := resolveRoots index.volumeRoot plan.scopes
  predicate := plan.predicate
  order := plan.order

-- The records that can be read of a query that is prepared and started now, after its walk.
def walked (plan : Plan) (now : Nat) : List RawRecord :=
  let handle := index.queries.length
  let (started, index) := (backend ℓ).start handle now ((backend ℓ).prepare plan index).2
  if started.accepted then
    let index := ((backend ℓ).wake handle now index).2
    (List.range ((backend ℓ).resultCount handle now index).1).filterMap fun position =>
      ((backend ℓ).resultAt handle position now index).1
  else []

theorem refusal?_ready (plan : Plan)
    (exist : ∀ root ∈ resolveRoots index.volumeRoot plan.scopes,
      (index.tree.folder? root).isSome = true) :
    index.refusal? (index.ready plan) = none := by
  rw [refusal?, ready, if_neg Bool.false_ne_true, Option.map_eq_none_iff, List.find?_eq_none]
  intro root member
  simp [Option.isSome_iff_ne_none.mp (exist root member)]

theorem start_ready (plan : Plan) (now : Nat)
    (exist : ∀ root ∈ resolveRoots index.volumeRoot plan.scopes,
      (index.tree.folder? root).isSome = true) :
    (backend ℓ).start index.queries.length now (index.add (index.ready plan)) =
      ({ accepted := true, alarm? := some 0 },
        index.add { index.ready plan with started := true }) := by
  have accepts : (index.add (index.ready plan)).refusal? (index.ready plan) = none :=
    index.refusal?_ready plan exist
  simp [backend, WalkIndex.start, accepts]

theorem wake_add (now : Nat) (fresh : query.store = {}) (going : query.cancelled = false) :
    ∃ notifier, ((backend ℓ).wake index.queries.length now (index.add query)).2 =
      index.add { query with
        store := RecordStore.run query.order {} ((index.gather query).map .push)
        notifier } := by
  refine ⟨query.notifier.notify.2, ?_⟩
  have gathered : (index.add query).gather query = index.gather query := rfl
  simp [backend, wake, going, gathered, RecordStore.run_pushes, fresh]

theorem walked_eq (plan : Plan) (now : Nat)
    (exist : ∀ root ∈ resolveRoots index.volumeRoot plan.scopes,
      (index.tree.folder? root).isSome = true) :
    index.walked plan now =
      plan.order.sort RawRecord.attributes (index.gather (index.ready plan)) := by
  have prepared : ((backend ℓ).prepare plan index).2 = index.add (index.ready plan) := rfl
  obtain ⟨notifier, woken⟩ :=
    index.wake_add { index.ready plan with started := true } now rfl rfl
  have gathered : index.gather { index.ready plan with started := true } =
      index.gather (index.ready plan) := rfl
  rw [walked, prepared, start_ready index plan now exist]
  dsimp only
  rw [if_pos rfl, woken, gathered]
  simp only [backend, query_add, RecordStore.run_length, RecordStore.settle_run]
  rw [Backend.filterMap_range, RecordStore.shown, RecordStore.pushed_pushes]
  rfl

theorem walked_perm (plan : Plan) (now : Nat)
    (exist : ∀ root ∈ resolveRoots index.volumeRoot plan.scopes,
      (index.tree.folder? root).isSome = true) :
    (index.walked plan now).Perm
      (((resolveRoots index.volumeRoot plan.scopes).flatMap
        (Visit.startingAt index.tree index.hidden)).filterMap
        (Visit.record? index.tree false plan.predicate)) := by
  have gathered := index.gather_going (index.ready plan) rfl
  rw [walked_eq index plan now exist]
  exact gathered ▸ (plan.order.sort_stablySorts RawRecord.attributes _).perm

-- Where a query finds something.
def found (plan : Plan) (now : Nat) : Set (List Component) :=
  { place | some place ∈ (index.walked plan now).map RawRecord.place? }

-- The walk from a folder records what it meets, and the condition holds of it.
def Yields (root : Path) (predicate : Predicate) (place : List Component) : Prop :=
  ∃ names name node, index.Meets root names name node ∧
    (let met := (root.below names).join ⟨name⟩
     predicate.holds (Visit.attributes index.tree false met (Visit.seen? met node)) = true) ∧
    place = root.components ++ names.map .named ++ [.named name]

theorem mem_found_iff (proper : index.tree.IsProper) (plan : Plan) (now : Nat)
    (exist : ∀ root ∈ resolveRoots index.volumeRoot plan.scopes,
      (index.tree.folder? root).isSome = true) (place : List Component) :
    place ∈ index.found plan now ↔
      ∃ root ∈ resolveRoots index.volumeRoot plan.scopes, index.Yields root plan.predicate place := by
  have gathered : place ∈ index.found plan now ↔
      ∃ root ∈ resolveRoots index.volumeRoot plan.scopes,
        ∃ visit ∈ Visit.startingAt index.tree index.hidden root, ∃ record,
          Visit.record? index.tree false plan.predicate visit = some record ∧
            record.place? = some place := by
    rw [found, Set.mem_ofPred_eq, ((index.walked_perm plan now exist).map _).mem_iff]
    simp only [List.mem_map, List.mem_filterMap, List.mem_flatMap]
    constructor
    · rintro ⟨record, ⟨visit, ⟨root, member, meets⟩, made⟩, told⟩
      exact ⟨root, member, visit, meets, record, made, told⟩
    · rintro ⟨root, member, visit, meets, record, made, told⟩
      exact ⟨record, ⟨visit, ⟨root, member, meets⟩, made⟩, told⟩
  rw [gathered]
  refine exists_congr fun root => and_congr_right fun member => ?_
  simp only [Visit.recorded_iff]
  constructor
  · rintro ⟨visit, meets, met, node?, rfl, held, rfl⟩
    obtain ⟨names, name, node, reaches, rfl, rfl⟩ :=
      (mem_startingAt_iff proper met node?).mp meets
    exact ⟨names, name, node, reaches, held, reaches.components proper⟩
  · rintro ⟨names, name, node, meets, held, rfl⟩
    exact ⟨_, (mem_startingAt_iff proper _ _).mpr ⟨names, name, node, meets, rfl, rfl⟩,
      _, _, rfl, held, meets.components proper⟩

end WalkIndex

end FileSearch
