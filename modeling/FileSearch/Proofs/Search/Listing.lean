import FileSearch.Proofs.Index.RecordStore
import FileSearch.Proofs.Search.Answers

set_option autoImplicit false

namespace FileSearch

-- Entries of different files.
def MemoryEntry.Apart (entries : List MemoryEntry) : Prop :=
  entries.Pairwise fun left right => left.path.text ≠ right.path.text

def RawRecord.Apart (records : List RawRecord) : Prop :=
  records.Pairwise fun left right => left.text .path ≠ right.text .path

theorem MemoryIndex.select_eq_of_perm {entries listed : List MemoryEntry}
    (perm : listed.Perm entries) (apart : MemoryEntry.Apart entries) (plan : Plan) :
    select listed plan = select entries plan := by
  refine Order.sort_eq_of_perm ?_ (perm.filter _)
  apply (apart.sublist List.filter_sublist).imp
  intro left right differ same
  exact differ (Option.some.inj same)

theorem SearchConfig.found_eq_of_perm {entries listed : List MemoryEntry}
    (perm : listed.Perm entries) (apart : MemoryEntry.Apart entries) (config : SearchConfig)
    (request : SearchRequest) : config.found request listed = config.found request entries := by
  rw [← select_plan, ← select_plan, MemoryIndex.select_eq_of_perm perm apart]

namespace Engine

open MemoryIndex (backend)

-- Both engines answer a search in the same way if they are left to their clocks, and whatever else
-- happens, each can only answer as the other can.
def AnswersAs (engine other : Engine (MemoryIndex Nat)) (request : SearchRequest) : Prop :=
  (∀ background background',
      (({ engine, background } : Session _).takeStep (backend Nat) (.search (.ok request))).1 =
        (({ engine := other, background := background' } : Session _).takeStep (backend Nat)
          (.search (.ok request))).1) ∧
    ∀ answer outcome?,
      engine.MayEnd request answer outcome? ↔ other.MayEnd request answer outcome?

variable {config : SearchConfig} {entries listed : List MemoryEntry} {behavior : GatherBehavior}
variable {engine other : Engine (MemoryIndex Nat)}

theorem Idle.answersAs (idle : engine.Idle config entries behavior)
    (idle' : other.Idle config listed behavior) (request : SearchRequest)
    (found : config.found request entries = config.found request listed)
    (patience : engine.patienceOf request = other.patienceOf request) :
    engine.AnswersAs other request := by
  by_cases refuses : ∃ reason, behavior = .refuse reason
  · obtain ⟨reason, refuses⟩ := refuses
    refine ⟨fun background background' => ?_, fun answer outcome? => ?_⟩
    · rw [(idle.search_refused request background reason refuses).1,
        (idle'.search_refused request background' reason refuses).1]
    · rw [idle.mayEnd_refused request reason refuses, idle'.mayEnd_refused request reason refuses]
  · have accepts : ∀ reason, behavior ≠ .refuse reason := fun reason same => refuses ⟨reason, same⟩
    refine ⟨fun background background' => ?_, fun answer outcome? => ?_⟩
    · rw [(idle.search_accepted request background accepts).1,
        (idle'.search_accepted request background' accepts).1, GatherBehavior.results,
        GatherBehavior.results, found, patience]
    · simp only [idle.mayEnd_accepted request accepts, idle'.mayEnd_accepted request accepts,
        GatherBehavior.results, found, patience]

end Engine

open Engine RecordStore

/-- Results come in the same order in whatever order an index lists its entries, and in whatever
order a walk pushes its records. -/
theorem results_ignore_listing :
    (∀ entries listed : List MemoryEntry, listed.Perm entries → MemoryEntry.Apart entries →
      (∀ plan, MemoryIndex.select listed plan = MemoryIndex.select entries plan) ∧
        ∀ config behavior engine other request,
          (overMemory config listed behavior).Reaches (MemoryIndex.backend Nat) engine →
          (overMemory config entries behavior).Reaches (MemoryIndex.backend Nat) other →
          engine.orchestrator.flight? = none → other.orchestrator.flight? = none →
          engine.patienceOf request = other.patienceOf request →
          engine.AnswersAs other request) ∧
      ∀ (order : Order) (calls others : List RecordStore.Access),
        (pushed calls).Perm (pushed others) → RawRecord.Apart (pushed others) →
        ((run order {} calls).settle order).records =
          ((run order {} others).settle order).records := by
  refine ⟨fun entries listed perm apart => ⟨?_, ?_⟩, ?_⟩
  · exact MemoryIndex.select_eq_of_perm perm apart
  · intro config behavior engine other request reached reached' free free' patience
    have idle := idle_of_reaches config listed behavior engine reached free
    have idle' := idle_of_reaches config entries behavior other reached' free'
    exact idle.answersAs idle' request (config.found_eq_of_perm perm apart request) patience
  · intro order calls others perm apart
    rw [settle_run, settle_run]
    exact Order.sort_eq_of_perm apart perm

def twin (path : String) : MemoryEntry := { path := ⟨path⟩ }

-- Names that agree but for their case are told apart by their paths.
theorem twins_listed_either_way :
    let entries := [twin "/a/X", twin "/b/x"]
    let listed := [twin "/b/x", twin "/a/X"]
    let records := entries.map fun entry => RawRecord.capture entry.attributes
    let request : SearchRequest := { criteria := .query .matchAll }
    let order := SortSpec.order {}
    (overMemory {} listed .immediate).AnswersAs (overMemory {} entries .immediate) request ∧
      ((run order {} (records.reverse.map .push)).settle order).records =
        ((run order {} (records.map .push)).settle order).records := by
  intro entries listed records request order
  have perm : listed.Perm entries := List.Perm.swap _ _ _
  have apart : MemoryEntry.Apart entries := by simp [MemoryEntry.Apart, entries, twin]
  have apart' : RawRecord.Apart records := by
    simp [RawRecord.Apart, records, entries, twin, RawRecord.text, RawRecord.capture,
      RawRecord.captured, MemoryEntry.attributes]
  obtain ⟨memory, walk⟩ := results_ignore_listing
  constructor
  · exact (memory entries listed perm apart).2 {} .immediate _ _ request
      (reaches_refl _ _) (reaches_refl _ _) rfl rfl rfl
  · apply walk order
    · rw [pushed_pushes, pushed_pushes]
      exact List.reverse_perm records
    · rwa [pushed_pushes]

end FileSearch
