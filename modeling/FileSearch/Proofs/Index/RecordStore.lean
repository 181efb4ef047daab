import FileSearch.Index.Walk
import FileSearch.Proofs.Order.Sorting

set_option autoImplicit false

namespace FileSearch

namespace RecordStore

inductive Access where
  | push (record : RawRecord)
  | count
  | slot (position : Nat)

def Access.pushed? : Access → Option RawRecord
  | .push record => some record
  | _ => none

def pushed (calls : List Access) : List RawRecord :=
  calls.filterMap Access.pushed?

def call (order : Order) (store : RecordStore) : Access → RecordStore
  | .push record => store.push record
  | .count => store
  | .slot _ => store.settle order

def run (order : Order) (store : RecordStore) (calls : List Access) : RecordStore :=
  calls.foldl (call order) store

def shown (order : Order) (calls : List Access) : List RawRecord :=
  order.sort RawRecord.attributes (pushed calls)

theorem pushed_append (calls more : List Access) : pushed (calls ++ more) = pushed calls ++ pushed more :=
  List.filterMap_append

theorem pushed_pushes (records : List RawRecord) : pushed (records.map .push) = records := by
  simp [pushed, List.filterMap_map, Function.comp_def, Access.pushed?]

theorem pushed_read (call : Access) (reads : call.pushed? = none) : pushed [call] = [] :=
  List.filterMap_cons_none reads

theorem run_append (order : Order) (store : RecordStore) (calls more : List Access) :
    store.run order (calls ++ more) = (store.run order calls).run order more :=
  List.foldl_append

theorem run_pushes (order : Order) (store : RecordStore) (records : List RawRecord) :
    store.run order (records.map .push) = records.foldl push store :=
  List.foldl_map

-- A store sorts to what these records sort to, and is there already if it counts as sorted.
structure Holds (order : Order) (records : List RawRecord) (store : RecordStore) : Prop where
  sorts : order.sort RawRecord.attributes store.records = order.sort RawRecord.attributes records
  settled : store.sorted = true → store.records = order.sort RawRecord.attributes records

theorem holds_empty (order : Order) : Holds order [] {} := ⟨rfl, fun sorted => nomatch sorted⟩

namespace Holds

variable {order : Order} {records : List RawRecord} {store : RecordStore}

theorem push (holds : Holds order records store) (record : RawRecord) :
    Holds order (records ++ [record]) (store.push record) where
  sorts := by
    rw [RecordStore.push, ← Order.sort_sort_append, holds.sorts, Order.sort_sort_append]
  settled sorted := nomatch sorted

theorem settle (holds : Holds order records store) :
    (store.settle order).records = order.sort RawRecord.attributes records ∧
      Holds order records (store.settle order) := by
  by_cases sorted : store.sorted = true
  · rw [RecordStore.settle, if_pos sorted]
    exact ⟨holds.settled sorted, holds⟩
  · rw [RecordStore.settle, if_neg sorted]
    have again := Order.sort_sort_append order RawRecord.attributes store.records []
    rw [List.append_nil, List.append_nil, holds.sorts] at again
    exact ⟨holds.sorts, holds.sorts ▸ again, fun _ => holds.sorts⟩

theorem call (holds : Holds order records store) (call : Access) :
    Holds order (records ++ pushed [call]) (store.call order call) := by
  cases call with
  | push record => exact holds.push record
  | count =>
    rw [pushed_read _ rfl, List.append_nil]
    exact holds
  | slot position =>
    rw [pushed_read _ rfl, List.append_nil]
    exact holds.settle.2

theorem run (holds : Holds order records store) (calls : List Access) :
    Holds order (records ++ pushed calls) (store.run order calls) := by
  induction calls generalizing records store with
  | nil => simpa [pushed, RecordStore.run] using holds
  | cons call rest ih =>
    have later := ih (holds.call call)
    rwa [List.append_assoc, ← pushed_append] at later

end Holds

variable (order : Order) (calls : List Access)

theorem settle_run : ((run order {} calls).settle order).records = shown order calls :=
  ((holds_empty order).run calls).settle.1

theorem run_length : (run order {} calls).records.length = (shown order calls).length := by
  have sizes := congrArg List.length ((holds_empty order).run calls).sorts
  rwa [((order.sort_stablySorts _ _).perm).length_eq] at sizes

end RecordStore

namespace WalkIndex

variable {ℓ : Type}

def add (index : WalkIndex ℓ) (query : WalkQuery ℓ) : WalkIndex ℓ :=
  { index with queries := index.queries ++ [query] }

@[simp] theorem query_add (index : WalkIndex ℓ) (query : WalkQuery ℓ) :
    (index.add query).query index.queries.length = query := by
  simp [WalkIndex.query, add]

@[simp] theorem setQuery_add (index : WalkIndex ℓ) (query later : WalkQuery ℓ) :
    (index.add query).setQuery index.queries.length later = index.add later := by
  simp [setQuery, add]

open RecordStore

/-- After any pushes and reads a query counts and shows all records that were pushed, in their one
stable order, and what it showed at some time is part of what it shows later. -/
theorem reads_show_all_pushed (index : WalkIndex ℓ) (query : WalkQuery ℓ) (now : Nat)
    (calls more : List Access) :
    let order := query.order
    let handle := index.queries.length
    let after (calls : List Access) := index.add { query with store := run order {} calls }
    order.StablySorts RawRecord.attributes (pushed calls) (shown order calls) ∧
      (backend ℓ).resultCount handle now (after calls) =
        ((shown order calls).length, after (calls ++ [.count])) ∧
      (∀ position, (backend ℓ).resultAt handle position now (after calls) =
        ((shown order calls)[position]?, after (calls ++ [.slot position]))) ∧
      (shown order calls).Sublist (shown order (calls ++ more)) := by
  intro order handle after
  refine ⟨order.sort_stablySorts _ _, ?_, fun position => ?_, ?_⟩
  · simp only [backend, after, handle, query_add, run_length, run_append]
    rfl
  · simp only [backend, after, handle, query_add, setQuery_add, order, settle_run, run_append]
    rfl
  · rw [shown, shown, pushed_append]
    exact order.sort_sublist_append _ _ _

end WalkIndex

end FileSearch
