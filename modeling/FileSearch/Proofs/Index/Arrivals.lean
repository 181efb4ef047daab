import FileSearch.Proofs.Index.Memory
import FileSearch.Proofs.Order.Comparison
import FileSearch.Proofs.Order.Rank
import FileSearch.Proofs.Search.Listing
import Mathlib.Order.Monotone.Basic

set_option autoImplicit false

namespace FileSearch

namespace MemoryQuery

variable {ℓ : Type} (query : MemoryQuery ℓ)

-- How long a started query has been going on at a time, at most until it was stopped.
def elapsed (now : Nat) : Nat :=
  query.stoppedAt?.getD now - query.startedAt?.getD 0

theorem visible_of_started (started : query.startedAt?.isSome) (now : Nat) :
    query.visible now = query.found.filter (·.availableAfter ≤ query.elapsed now) := by
  obtain ⟨start, started⟩ := Option.isSome_iff_exists.mp started
  simp [visible, elapsed, started]

theorem elapsed_mono {early late : Nat} (forward : early ≤ late) :
    query.elapsed early ≤ query.elapsed late := by
  rw [elapsed, elapsed]
  cases query.stoppedAt? with
  | none => exact Nat.sub_le_sub_right forward _
  | some stoppedAt => exact Nat.le_refl _

theorem elapsed_stopped (stopped : query.stoppedAt?.isSome) (early late : Nat) :
    query.elapsed early = query.elapsed late := by
  obtain ⟨stoppedAt, stopped⟩ := Option.isSome_iff_exists.mp stopped
  simp [elapsed, stopped]

-- The entry shows up after one time and by another.
def Gains (entry : MemoryEntry) (early late : Nat) : Prop :=
  query.elapsed early < entry.availableAfter ∧ entry.availableAfter ≤ query.elapsed late

theorem not_gains_iff (entry : MemoryEntry) (early late : Nat) :
    ¬ query.Gains entry early late ↔ (entry.availableAfter ≤ query.elapsed late →
      entry.availableAfter ≤ query.elapsed early) := by
  rw [Gains]
  omega

end MemoryQuery

namespace MemoryEntry

-- No path comes twice, and each entry comes before all behind it.
structure Ascends (order : Order) (picked : List MemoryEntry) : Prop where
  distinct : (picked.map MemoryEntry.path).Nodup
  ordered : picked.Pairwise (order.Precedes attributes)

theorem ascends_iff {order : Order} {entries picked : List MemoryEntry} (apart : Apart entries)
    (listed : ∀ entry ∈ picked, entry ∈ entries) :
    Ascends order picked ↔ picked.Pairwise (order.Precedes attributes) := by
  refine ⟨Ascends.ordered, fun ordered => ⟨?_, ordered⟩⟩
  rw [List.Nodup, List.pairwise_map]
  refine ordered.imp_of_mem ?_
  intro left right member member' before same
  have symm : Std.Symm fun left right : MemoryEntry => left.path.text ≠ right.path.text :=
    ⟨fun _ _ => Ne.symm⟩
  have other : left ≠ right := by
    rintro rfl
    exact order.precedes_asymm attributes _ _ before before
  exact apart.forall (listed left member) (listed right member') other (congrArg Path.text same)

end MemoryEntry

theorem take_filterMap_range {α : Type} {pick : Nat → Option α} {count : Nat}
    (each : ∀ turn < count, (pick turn).isSome) (limit : Nat) :
    ∃ picked : List α, ((List.range count).filterMap pick).take limit = picked ∧
      picked.length = min limit count ∧
        ∀ turn, (inside : turn < picked.length) → pick turn = some picked[turn] := by
  have whole : ((List.range count).filterMap pick).map some = (List.range count).map pick := by
    induction count with
    | zero => rfl
    | succ count ih =>
      obtain ⟨last, made⟩ := Option.isSome_iff_exists.mp (each count (Nat.lt_succ_self count))
      have before := ih fun turn less => each turn (Nat.lt_succ_of_lt less)
      simp [List.range_succ, before, made]
  generalize (List.range count).filterMap pick = all at whole
  have size : all.length = count := by simpa using congrArg List.length whole
  refine ⟨_, rfl, by rw [List.length_take, size], fun turn inside => ?_⟩
  have within : turn < all.length := by
    rw [List.length_take] at inside
    omega
  have place := congrArg (·[turn]?) whole
  simp only [List.getElem?_map, List.getElem?_eq_getElem within,
    List.getElem?_range (size ▸ within), Option.map_some] at place
  rw [List.getElem_take]
  exact (Option.some.inj place).symm

namespace MemoryIndex

section

variable {ℓ : Type} (index : MemoryIndex ℓ) (handle : Nat)

theorem extractAlong_visible (limit : Nat) (clock : Nat → Nat) :
    (backend ℓ).extractAlong handle limit clock index =
      ((((List.range ((index.query handle).visible (clock 0)).length).filterMap fun turn =>
        ((index.query handle).visible (clock (turn + 1)))[turn]?).take limit).map
          MemoryEntry.result, index) := by
  have read (shown : List MemoryEntry) (turn : Nat) :
      (shown.map fun entry => some (RawRecord.capture entry.attributes))[turn]?.join.bind
        RawRecord.result? = shown[turn]?.map MemoryEntry.result := by
    rw [List.getElem?_map]
    cases shown[turn]? with
    | none => rfl
    | some entry => exact entry.capture_result
  rw [Backend.extractAlong_eq fun turn => reads index handle (clock turn), List.length_map,
    List.map_take, List.map_filterMap]
  simp only [read]

theorem extractAlong_picks (started : (index.query handle).startedAt?.isSome) (limit : Nat)
    (clock : Nat → Nat) (forward : Monotone clock) :
    ∃ picked : List MemoryEntry,
      (backend ℓ).extractAlong handle limit clock index = (picked.map MemoryEntry.result, index) ∧
        picked.length = min limit ((index.query handle).visible (clock 0)).length ∧
        ∀ turn, (inside : turn < picked.length) →
          ((index.query handle).visible (clock (turn + 1)))[turn]? = some picked[turn] := by
  let query := index.query handle
  let count := (query.visible (clock 0)).length
  have grows (turn : Nat) : count ≤ (query.visible (clock (turn + 1))).length := by
    have later := query.elapsed_mono (forward (Nat.zero_le (turn + 1)))
    simp only [count, query.visible_of_started started]
    refine (List.monotone_filter_right query.found fun entry => ?_).length_le
    simpa using fun shown => shown.trans later
  have each : ∀ turn < count, ((query.visible (clock (turn + 1)))[turn]?).isSome := by
    intro turn less
    simpa using Nat.lt_of_lt_of_le less (grows turn)
  obtain ⟨picked, same, length, picks⟩ := take_filterMap_range each limit
  exact ⟨picked, same ▸ index.extractAlong_visible handle limit clock, length, picks⟩

/-- The results come in order without repeats iff from no reading to the next an entry arrives in
front of the one read. Of a query that was stopped before it is read they always do. -/
theorem extraction_ascends_iff (plan : Plan) (entries : List MemoryEntry) (limit : Nat)
    (clock : Nat → Nat) (found : (index.query handle).found = select entries plan)
    (started : (index.query handle).startedAt?.isSome) (apart : MemoryEntry.Apart entries)
    (forward : Monotone clock) :
    ∃ picked : List MemoryEntry,
      (backend ℓ).extractAlong handle limit clock index = (picked.map MemoryEntry.result, index) ∧
        picked.length = min limit ((index.query handle).visible (clock 0)).length ∧
        (∀ turn, (inside : turn < picked.length) →
          ((index.query handle).visible (clock (turn + 1)))[turn]? = some picked[turn]) ∧
        (MemoryEntry.Ascends plan.order picked ↔
          ∀ turn, (inside : turn + 1 < picked.length) → ∀ entry ∈ select entries plan,
            plan.order.Precedes MemoryEntry.attributes entry picked[turn] →
              ¬ (index.query handle).Gains entry (clock (turn + 1)) (clock (turn + 2))) ∧
        ((index.query handle).stoppedAt?.isSome → MemoryEntry.Ascends plan.order picked) := by
  let query := index.query handle
  obtain ⟨picked, read, length, picks⟩ :=
    index.extractAlong_picks handle started limit clock forward
  have shown (time : Nat) : query.visible time =
      (select entries plan).filter fun entry => entry.availableAfter ≤ query.elapsed time := by
    rw [query.visible_of_started started, found]
  have listed : ∀ entry ∈ picked, entry ∈ entries := by
    intro entry member
    obtain ⟨turn, inside, rfl⟩ := List.mem_iff_getElem.mp member
    have visible := List.mem_of_getElem? (picks turn inside)
    rw [shown] at visible
    have selected := (plan.order.sort_stablySorts MemoryEntry.attributes _).perm.subset
      (List.mem_filter.mp visible).1
    exact (List.mem_filter.mp selected).1
  have sorted : (select entries plan).Pairwise (plan.order.Precedes MemoryEntry.attributes) := by
    refine plan.order.sort_precedes MemoryEntry.attributes ((apart.sublist List.filter_sublist).imp ?_)
    exact fun differ same => differ (Option.some.inj same)
  have gains : MemoryEntry.Ascends plan.order picked ↔
      ∀ turn, (inside : turn + 1 < picked.length) → ∀ entry ∈ select entries plan,
        plan.order.Precedes MemoryEntry.attributes entry picked[turn] →
          ¬ query.Gains entry (clock (turn + 1)) (clock (turn + 2)) := by
    rw [MemoryEntry.ascends_iff apart listed]
    have grows (turn : Nat) (entry : MemoryEntry)
        (early : entry.availableAfter ≤ query.elapsed (clock (turn + 1))) :
        entry.availableAfter ≤ query.elapsed (clock (turn + 2)) :=
      early.trans (query.elapsed_mono (forward (Nat.le_succ _)))
    have steps := picked_sorted_iff (plan.order.precedes_asymm MemoryEntry.attributes)
      (plan.order.precedes_trans MemoryEntry.attributes) sorted
      (fun turn entry => by simpa using grows turn entry)
      (fun turn inside => shown (clock (turn + 1)) ▸ picks turn inside)
    simpa [query.not_gains_iff] using steps
  -- Once a query was stopped, nothing arrives any more.
  refine ⟨picked, read, length, picks, gains, fun stopped => gains.mpr ?_⟩
  rintro turn inside entry - - ⟨behind, shown⟩
  rw [(index.query handle).elapsed_stopped stopped (clock (turn + 2)) (clock (turn + 1))] at shown
  exact absurd shown (Nat.not_le_of_lt behind)

end

def entryAt (path : String) (availableAfter : Nat) : MemoryEntry :=
  { path := ⟨path⟩, availableAfter }

def allByName : Plan :=
  { predicate := .always, scopes := [.indexedVolume], order := SortSpec.order {} }

def startedOver (entries : List MemoryEntry) : MemoryIndex Nat :=
  let calls := backend Nat
  let opened := (calls.prepare allByName { entries, behavior := .never }).2
  (calls.start 0 0 (calls.subscribe 0 7 opened).2).2

-- As the first entry arrives, the second is read once more in place of the third.
theorem late_entry_repeats_another :
    let entries := [entryAt "/d/a" 5, entryAt "/d/b" 0, entryAt "/d/c" 0]
    let clock (reading : Nat) : Nat := if reading ≤ 1 then 0 else 5
    let again := [entryAt "/d/b" 0, entryAt "/d/b" 0]
    (backend Nat).extractAlong 0 10 clock (startedOver entries) =
        (again.map MemoryEntry.result, startedOver entries) ∧
      ¬ MemoryEntry.Ascends allByName.order again := by
  intro entries clock again
  let query := (startedOver entries).query 0
  have apart : MemoryEntry.Apart entries := by simp [MemoryEntry.Apart, entries, entryAt]
  have forward : Monotone clock := by
    intro early late less
    simp only [clock]
    split <;> split <;> omega
  obtain ⟨picked, read, length, picks, ascends, -⟩ :=
    (startedOver entries).extraction_ascends_iff 0 allByName entries 10 clock rfl rfl apart forward
  have selected : select entries allByName = entries := by
    have ordered : entries.Pairwise (allByName.order.MayPrecede MemoryEntry.attributes) := by
      decide +kernel
    exact List.mergeSort_of_pairwise ordered
  have shown (time : Nat) :
      query.visible time = entries.filter (·.availableAfter ≤ query.elapsed time) := by
    rw [query.visible_of_started rfl, ← selected]
    rfl
  have size : picked.length = 2 := by
    rw [length, shown]
    rfl
  obtain ⟨first, second, rfl⟩ := List.length_eq_two.mp size
  have picks (turn : Nat) (inside : turn < 2) := shown (clock (turn + 1)) ▸ picks turn inside
  obtain rfl : entryAt "/d/b" 0 = first := Option.some.inj (picks 0 (by decide))
  obtain rfl : entryAt "/d/b" 0 = second := Option.some.inj (picks 1 (by decide))
  refine ⟨read, fun increasing => ?_⟩
  have before : allByName.order.Precedes MemoryEntry.attributes (entryAt "/d/a" 5)
      (entryAt "/d/b" 0) := by
    decide +kernel
  have listed : entryAt "/d/a" 5 ∈ select entries allByName := by
    rw [selected]
    exact List.mem_cons_self
  exact ascends.mp increasing 0 (by decide) (entryAt "/d/a" 5) listed before
    ⟨by decide, by decide⟩

end MemoryIndex

end FileSearch
