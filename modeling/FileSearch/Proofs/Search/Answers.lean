import FileSearch.Proofs.Search.Gathering
import Mathlib.Algebra.Group.Nat.Defs

set_option autoImplicit false

namespace FileSearch

-- How long a search waits; a year, if its timeout would end beyond what the clock can tell.
def Orchestrator.patience (now timeout : Nat) : Nat :=
  if now + timeout < clockEnd then timeout else unboundedWait

theorem Orchestrator.deadline_eq (now timeout : Nat) :
    deadline now timeout = now + patience now timeout := by
  rw [deadline, patience]
  split <;> rfl

def GatherBehavior.results (behavior : GatherBehavior) (config : SearchConfig)
    (entries : List MemoryEntry) (request : SearchRequest) (patience : Nat) (cut : Bool) :
    SearchResults :=
  ⟨MemoryEntry.results (config.found request entries) (behavior.span patience)
    (config.effectiveLimit request.limit?), cut⟩

-- The last tick of a timer, which counts milliseconds in 64 bits and needs two values of its own.
def Alarm.lastTick : Nat := 2 ^ 64 - 3

-- How long a timer sleeps at most whose end the clock cannot tell: thirty years.
def Alarm.farFuture : Nat := 30 * 365 * 24 * 60 * 60 * 1000

-- What timers make of a behavior.
def GatherBehavior.slept (now : Nat) : GatherBehavior → GatherBehavior
  | .after delay =>
    .after (if now + delay ≤ Alarm.lastTick then delay
      else if now + delay < Orchestrator.clockEnd then Alarm.lastTick - now
      else Alarm.farFuture)
  | behavior => behavior

def Outcome.ofCut (cut : Bool) : Outcome :=
  if cut then .timedOut else .completed

namespace Engine

open MemoryIndex (backend)

def patienceOf {W : Type} (engine : Engine W) (request : SearchRequest) : Nat :=
  Orchestrator.patience engine.now
    (request.timeoutMs?.getD engine.orchestrator.config.defaultTimeoutMs)

-- The deadline of a search is one that timers keep, and so is the end of the gathering, if it could
-- otherwise come too early.
structure Timed {W : Type} (engine : Engine W) (behavior : GatherBehavior)
    (request : SearchRequest) : Prop where
  ends : engine.now + engine.patienceOf request < Alarm.lastTick
  gathers : ∀ delay, behavior.delay? = some delay →
    engine.now + delay ≤ Alarm.lastTick ∨ engine.patienceOf request < Alarm.farFuture

theorem Timed.slept_eq {W : Type} {engine : Engine W} {behavior : GatherBehavior}
    {request : SearchRequest} (timed : engine.Timed behavior request) :
    (behavior.slept engine.now).span (engine.patienceOf request) =
        behavior.span (engine.patienceOf request) ∧
      (behavior.slept engine.now).outlasts (engine.patienceOf request) =
        behavior.outlasts (engine.patienceOf request) := by
  obtain ⟨ends, gathers⟩ := timed
  generalize engine.patienceOf request = patience at ends gathers ⊢
  cases behavior with
  | after delay =>
    rw [GatherBehavior.slept]
    split_ifs with kept told
    · exact ⟨rfl, rfl⟩
    all_goals
      -- Both the timer and the delay are still to go on at the deadline.
      have soon := (gathers delay rfl).resolve_left kept
      simp only [GatherBehavior.span, GatherBehavior.outlasts, GatherBehavior.delay?,
        Option.all_some, decide_eq_decide]
      omega
  | _ => exact ⟨rfl, rfl⟩

-- The ways in which a search can end that is not given up, with the outcome that is noted.
inductive MayEnd (engine : Engine (MemoryIndex Nat)) (request : SearchRequest) :
    Answer → Option Outcome → Prop where
  | atOnce (answer : Answer) (later : Engine (MemoryIndex Nat))
      (called : engine.submit (backend Nat) request = (.answered answer, later)) :
      MayEnd engine request answer later.orchestrator.lastOutcome?
  | later (number : Nat) (waiting : Engine (MemoryIndex Nat))
      (called : engine.submit (backend Nat) request = (.waiting number, waiting))
      (course : List (Event (MemoryIndex Nat))) (attends : waiting.Attends number course)
      (answer : Answer)
      (answered : (waiting.runTo (backend Nat) number course).answer? number = some answer) :
      MayEnd engine request answer
        (waiting.runTo (backend Nat) number course).orchestrator.lastOutcome?

structure Idle (config : SearchConfig) (entries : List MemoryEntry) (behavior : GatherBehavior)
    (engine : Engine (MemoryIndex Nat)) : Prop where
  serves : engine.Serves config entries behavior
  numbered : engine.Numbered
  ordered : Alarm.Ordered engine.alarms
  free : engine.orchestrator.flight? = none

theorem idle_of_reaches (config : SearchConfig) (entries : List MemoryEntry)
    (behavior : GatherBehavior) (engine : Engine (MemoryIndex Nat))
    (reached : (overMemory config entries behavior).Reaches (backend Nat) engine)
    (free : engine.orchestrator.flight? = none) : engine.Idle config entries behavior := by
  obtain ⟨before, ordinary, rfl⟩ := reached
  exact ⟨(serves_overMemory config entries behavior).run before ordinary,
    numbered_run (backend Nat) config _ before, ordered_run (backend Nat) config _ before, free⟩

namespace Idle

variable {config : SearchConfig} {entries : List MemoryEntry} {behavior : GatherBehavior}
variable {engine : Engine (MemoryIndex Nat)}

theorem submit_refuses (idle : engine.Idle config entries behavior) (request : SearchRequest)
    (reason : String) (refuses : behavior = .refuse reason) :
    ∃ world, engine.submit (backend Nat) request =
      (.answered (.error (.backendStartFailure reason)), engine.grounded world) :=
  ⟨_, engine.submit_refuses request idle.free reason
    (idle.serves.contents.2.1.trans refuses)⟩

theorem submit_accepts (idle : engine.Idle config entries behavior) (request : SearchRequest)
    (accepts : ∀ reason, behavior ≠ .refuse reason) :
    engine.submit (backend Nat) request =
      (.waiting engine.orchestrator.flown, engine.awaiting request) := by
  obtain ⟨-, same, runtime⟩ := idle.serves.contents
  exact engine.submit_accepts request idle.free (same ▸ accepts) runtime

theorem awaits (idle : engine.Idle config entries behavior) (request : SearchRequest)
    (accepts : ∀ reason, behavior ≠ .refuse reason) :
    (engine.awaiting request).Awaits behavior
      (engine.world.flight config request engine.orchestrator.flown engine.now)
      (config.found request entries) engine.now (engine.patienceOf request) := by
  obtain ⟨serves, numbered, -, free⟩ := idle
  obtain ⟨rfl, ⟨rfl, rfl, runtime⟩, known, -, -⟩ := serves
  refine ⟨?_, Orchestrator.deadline_eq _ _, ?_, fun due => ?_, fun delay _ => ?_⟩
  · exact boarded_waits (backend Nat) engine numbered request _ _ _
      (engine.world.launch_accepted engine.orchestrator.config request _ _ accepts runtime)
  · rw [awaiting, boarded]
    dsimp only [MemoryIndex.flight]
    rw [MemoryIndex.query_add]
    exact ⟨rfl, rfl, rfl⟩
  · have new : ⟨due, engine.world.queries.length⟩ ∉ engine.alarms := fun queued =>
      absurd (known _ queued) (Nat.lt_irrefl _)
    change ⟨due, engine.world.queries.length⟩ ∈ Alarm.schedule engine.world.queries.length
      engine.now engine.world.behavior.delay? engine.alarms ↔ _
    cases engine.world.behavior.delay? with
    | none => simpa [Alarm.schedule] using new
    | some delay => simp [Alarm.schedule, (Alarm.insert_perm _ _).mem_iff, new, eq_comm]
  · exact Nat.le_add_right _ _

theorem awaiting_serves (idle : engine.Idle config entries behavior) (request : SearchRequest)
    (accepts : ∀ reason, behavior ≠ .refuse reason) :
    (engine.awaiting request).Serves config entries behavior := by
  have serves := idle.serves.submit request
  rwa [idle.submit_accepts request accepts] at serves

theorem awaiting_ordered (idle : engine.Idle config entries behavior) (request : SearchRequest)
    (accepts : ∀ reason, behavior ≠ .refuse reason) :
    Alarm.Ordered (engine.awaiting request).alarms := by
  have ordered := (react_follows (backend Nat) engine (.submit request)).ordered idle.ordered
  rwa [react, idle.submit_accepts request accepts] at ordered

theorem mayEnd_refused (idle : engine.Idle config entries behavior) (request : SearchRequest)
    (reason : String) (refuses : behavior = .refuse reason) (answer : Answer)
    (outcome? : Option Outcome) :
    engine.MayEnd request answer outcome? ↔
      answer = .error (.backendStartFailure reason) ∧ outcome? = some .failed := by
  obtain ⟨world, submits⟩ := idle.submit_refuses request reason refuses
  constructor
  · intro ends
    cases ends with
    | atOnce answer later called =>
      rw [submits] at called
      cases called
      exact ⟨rfl, rfl⟩
    | later number waiting called =>
      rw [submits] at called
      cases called
  · rintro ⟨rfl, rfl⟩
    exact .atOnce _ _ submits

theorem mayEnd_concluded (idle : engine.Idle config entries behavior) (request : SearchRequest)
    (accepts : ∀ reason, behavior ≠ .refuse reason) (course : List (Event (MemoryIndex Nat)))
    (attends : (engine.awaiting request).Attends engine.orchestrator.flown course) (cut : Bool)
    (ended : ((engine.awaiting request).runTo (backend Nat) engine.orchestrator.flown
      course).Concludes behavior
        (engine.world.flight config request engine.orchestrator.flown engine.now)
        (config.found request entries) engine.now (engine.patienceOf request) cut) :
    engine.MayEnd request
      (.ok (behavior.results config entries request (engine.patienceOf request) cut))
      (some (Outcome.ofCut cut)) := by
  have ends := MayEnd.later _ _ (idle.submit_accepts request accepts) course attends _ ended.answered
  rwa [ended.outcome] at ends

theorem mayEnd_accepted (idle : engine.Idle config entries behavior) (request : SearchRequest)
    (accepts : ∀ reason, behavior ≠ .refuse reason) (answer : Answer)
    (outcome? : Option Outcome) :
    engine.MayEnd request answer outcome? ↔
      ∃ cut, (cut = behavior.outlasts (engine.patienceOf request) ∨
          behavior.delay? = some (engine.patienceOf request)) ∧
        answer = .ok (behavior.results config entries request (engine.patienceOf request) cut) ∧
        outcome? = some (Outcome.ofCut cut) := by
  have submits := idle.submit_accepts request accepts
  have awaits := idle.awaits request accepts
  have serves := idle.awaiting_serves request accepts
  constructor
  · intro ends
    cases ends with
    | atOnce answer later called =>
      rw [submits] at called
      cases called
    | later number waiting called course attends answer answered =>
      rw [submits] at called
      cases called
      rcases awaits.runTo serves course attends with still | ⟨cut, ended, decides⟩
      · exact nomatch answered.symm.trans still.waits.unanswered
      · exact ⟨cut, decides.imp_right And.left,
          Option.some.inj (answered.symm.trans ended.answered), ended.outcome⟩
  · rintro ⟨cut, allowed, rfl, rfl⟩
    by_cases usual : cut = behavior.outlasts (engine.patienceOf request)
    · obtain ⟨ended, course, attends, runs⟩ :=
        awaits.left_to_clock serves (idle.awaiting_ordered request accepts)
      exact idle.mayEnd_concluded request accepts course attends cut (usual ▸ runs ▸ ended)
    · have tied := allowed.resolve_left usual
      have inTime := (behavior.span_inTime _ _ tied (Nat.le_refl _)).2
      obtain rfl : cut = true := by simpa [inTime] using usual
      obtain ⟨course, attends, ended⟩ := awaits.tied tied
      exact idle.mayEnd_concluded request accepts course attends true ended

theorem search_refused (idle : engine.Idle config entries behavior) (request : SearchRequest)
    (background : List (String × BackgroundSearch)) (reason : String)
    (refuses : behavior = .refuse reason) :
    let asked := ({ engine, background } : Session _).takeStep (backend Nat) (.search (.ok request))
    asked.1 = .answer (.error (.backendStartFailure reason)) ∧
      asked.2.engine.orchestrator.lastOutcome? = some .failed := by
  obtain ⟨world, submits⟩ := idle.submit_refuses request reason refuses
  simp [Session.takeStep, Session.call, submits, Session.withEngine, grounded]

theorem search_accepted (idle : engine.Idle config entries behavior) (request : SearchRequest)
    (background : List (String × BackgroundSearch))
    (accepts : ∀ reason, behavior ≠ .refuse reason) :
    let patience := engine.patienceOf request
    let cut := behavior.outlasts patience
    let asked := ({ engine, background } : Session _).takeStep (backend Nat) (.search (.ok request))
    asked.1 = .answer (.ok (behavior.results config entries request patience cut)) ∧
      asked.2.engine.orchestrator.lastOutcome? = some (Outcome.ofCut cut) := by
  have ended := ((idle.awaits request accepts).left_to_clock
    (idle.awaiting_serves request accepts) (idle.awaiting_ordered request accepts)).1
  have answered : ((engine.awaiting request).runUntilAnswered (backend Nat)
      engine.orchestrator.flown none).answer? engine.orchestrator.flown = _ := ended.answered
  intro patience cut
  simp only [Session.takeStep, Session.call, idle.submit_accepts request accepts, Session.await,
    answered]
  exact ⟨rfl, ended.outcome⟩

end Idle

/-- A search that finds the slot free answers with what it asks for, of the entries that have shown
up when the index has gathered everything or its time is over, and says which of them came first. -/
theorem memory_search_answers (config : SearchConfig) (entries : List MemoryEntry)
    (behavior : GatherBehavior) (engine : Engine (MemoryIndex Nat))
    (reached : (overMemory config entries behavior).Reaches (backend Nat) engine)
    (free : engine.orchestrator.flight? = none) (request : SearchRequest)
    (background : List (String × BackgroundSearch)) :
    let query := request.criteria.toQuery
    let wanted := entries.filter fun entry =>
      config.covers query entry.path && query.compile.predicate.holds entry.attributes
    let sorted := request.sort.order.sort MemoryEntry.attributes wanted
    let patience := engine.patienceOf request
    let visible := sorted.filter (·.availableAfter ≤ behavior.span patience)
    let records := (visible.take (config.effectiveLimit request.limit?)).map MemoryEntry.result
    let asked := ({ engine, background } : Session _).takeStep (backend Nat) (.search (.ok request))
    request.sort.order.StablySorts MemoryEntry.attributes wanted sorted ∧
      (∀ reason, behavior = .refuse reason →
        let error := SearchError.backendStartFailure reason
        asked.1 = .answer (.error error) ∧
          ∀ answer outcome?, engine.MayEnd request answer outcome? ↔
            answer = .error error ∧ outcome? = some .failed) ∧
      ((∀ reason, behavior ≠ .refuse reason) → engine.Timed behavior request →
        behavior.delay? ≠ some patience →
        (behavior.slept engine.now).span patience = behavior.span patience ∧
        (behavior.slept engine.now).outlasts patience = behavior.outlasts patience ∧
        ∃ results : SearchResults, results.records = records ∧
          (results.isPartial = true ↔
            ∀ delay, behavior.delay? = some delay → patience < delay) ∧
          asked.1 = .answer (.ok results) ∧
          ∀ answer outcome?, engine.MayEnd request answer outcome? ↔
            answer = .ok results ∧ outcome? = some (Outcome.ofCut results.isPartial)) := by
  intro query wanted sorted patience visible records asked
  have idle := idle_of_reaches config entries behavior engine reached free
  refine ⟨Order.sort_stablySorts _ _ _, fun reason refuses => ⟨?_, ?_⟩,
    fun accepts timed untied => ⟨timed.slept_eq.1, timed.slept_eq.2, ?_⟩⟩
  · exact (idle.search_refused request background reason refuses).1
  · exact idle.mayEnd_refused request reason refuses
  · refine ⟨behavior.results config entries request patience (behavior.outlasts patience), rfl,
      behavior.outlasts_iff patience, (idle.search_accepted request background accepts).1, ?_⟩
    intro answer outcome?
    rw [idle.mayEnd_accepted request accepts]
    constructor
    · rintro ⟨cut, rfl | tied, rfl, rfl⟩
      · exact ⟨rfl, rfl⟩
      · exact absurd tied untied
    · rintro ⟨rfl, rfl⟩
      exact ⟨_, .inl rfl, rfl, rfl⟩

def reportEntry : MemoryEntry := { path := ⟨"/d/report"⟩, availableAfter := 3 }

def hastyRequest : SearchRequest := { criteria := .query .matchAll, timeoutMs? := some 4 }

theorem entry_shows_up_in_time :
    let before : List (Event (MemoryIndex Nat)) := [.submit hastyRequest, .tick 2, .abandon 0]
    let engine := (overMemory {} [reportEntry] (.after 5)).run (backend Nat) before
    let asked := ({ engine } : Session _).takeStep (backend Nat) (.search (.ok hastyRequest))
    engine.orchestrator.flight? = none ∧
      asked.1 = .answer (.ok ⟨[{ path := ⟨"/d/report"⟩, name := "report" }], true⟩) := by
  intro before engine asked
  have free : engine.orchestrator.flight? = none := rfl
  have reached : (overMemory {} [reportEntry] (.after 5)).Reaches (backend Nat) engine :=
    ⟨before, by simp [before, Event.isOrdinary], rfl⟩
  have name : reportEntry.result = { path := ⟨"/d/report"⟩, name := "report" } := by decide
  obtain ⟨-, -, answers⟩ :=
    memory_search_answers {} [reportEntry] (.after 5) engine reached free hastyRequest []
  have timed : engine.Timed (.after 5) hastyRequest :=
    ⟨by decide, by rintro delay ⟨⟩; exact .inl (by decide)⟩
  obtain ⟨-, -, ⟨records, cut⟩, found, partly, answered, -⟩ := answers (by simp) timed (by decide)
  have wanted : [reportEntry].filter (fun entry =>
      ({} : SearchConfig).covers hastyRequest.criteria.toQuery entry.path &&
        hastyRequest.criteria.toQuery.compile.predicate.holds entry.attributes) = [reportEntry] :=
    rfl
  rw [wanted, Order.sort, List.mergeSort_singleton] at found
  have found : records = [reportEntry.result] := found
  have partly : cut = true := partly.mpr (by rintro delay ⟨⟩; decide)
  refine ⟨free, answered.trans ?_⟩
  rw [partly, found, name]

-- A timeout beyond what the clock can tell does not count in full.
theorem longest_timeout_is_a_year :
    let late : MemoryEntry := { path := ⟨"/d/late"⟩, availableAfter := 35000000000 }
    let behavior : GatherBehavior := .after 40000000000
    let timeout := 2 ^ 63 * 1000
    let request : SearchRequest := { criteria := .query .matchAll, timeoutMs? := some timeout }
    let asked := ({ engine := overMemory {} [late] behavior } : Session _).takeStep (backend Nat)
      (.search (.ok request))
    behavior.delay? ≠ some timeout ∧ asked.1 = .answer (.ok ⟨[], true⟩) ∧
      behavior.results {} [late] request timeout (behavior.outlasts timeout) =
        ⟨[late.result], false⟩ := by
  intro late behavior timeout request asked
  have idle : (overMemory {} [late] behavior).Idle {} [late] behavior :=
    idle_of_reaches {} [late] behavior _ (reaches_refl (backend Nat) _) rfl
  have answered := (idle.search_accepted request [] (by simp [behavior])).1
  have patience : (overMemory {} [late] behavior).patienceOf request = 31536000000 := by
    simp [patienceOf, Orchestrator.patience, Orchestrator.clockEnd, Orchestrator.unboundedWait,
      overMemory, fresh, request, timeout]
  have found : ({} : SearchConfig).found request [late] = [late] :=
    List.mergeSort_singleton late
  refine ⟨by decide, answered.trans ?_, ?_⟩
  · rw [patience, GatherBehavior.results, found]
    rfl
  · rw [GatherBehavior.results, found]
    rfl

/-- A search on a free slot can end in the same ways as the first one ever, whatever has been before
it: searches that ended in any way or were given up, with alarms that may still be to come. The
first is asked at any `time` from which the clock leaves it the same wait. -/
theorem search_forgets_history (config : SearchConfig) (entries : List MemoryEntry)
    (behavior : GatherBehavior) (engine : Engine (MemoryIndex Nat))
    (reached : (overMemory config entries behavior).Reaches (backend Nat) engine)
    (free : engine.orchestrator.flight? = none) (request : SearchRequest)
    (background : List (String × BackgroundSearch)) (time : Nat)
    (same : engine.patienceOf request =
      ((overMemory config entries behavior).advance time).patienceOf request) :
    let first := (overMemory config entries behavior).advance time
    let asked := ({ engine, background } : Session _).takeStep (backend Nat) (.search (.ok request))
    let once := ({ engine := first } : Session _).takeStep (backend Nat) (.search (.ok request))
    (∀ answer outcome?,
        engine.MayEnd request answer outcome? ↔ first.MayEnd request answer outcome?) ∧
      asked.1 = once.1 ∧
      asked.2.engine.orchestrator.lastOutcome? = once.2.engine.orchestrator.lastOutcome? := by
  intro first asked once
  have idle := idle_of_reaches config entries behavior engine reached free
  have new := idle_of_reaches config entries behavior first
    (reaches_advance (backend Nat) _ time) rfl
  by_cases refuses : ∃ reason, behavior = .refuse reason
  · obtain ⟨reason, refuses⟩ := refuses
    have here := idle.search_refused request background reason refuses
    have there := new.search_refused request [] reason refuses
    refine ⟨fun answer outcome? => ?_, here.1.trans there.1.symm, here.2.trans there.2.symm⟩
    rw [idle.mayEnd_refused request reason refuses, new.mayEnd_refused request reason refuses]
  · have accepts : ∀ reason, behavior ≠ .refuse reason := fun reason same => refuses ⟨reason, same⟩
    have same : engine.patienceOf request = first.patienceOf request := same
    have here := idle.search_accepted request background accepts
    have there := new.search_accepted request [] accepts
    rw [← same] at there
    refine ⟨fun answer outcome? => ?_, here.1.trans there.1.symm, here.2.trans there.2.symm⟩
    rw [idle.mayEnd_accepted request accepts, new.mayEnd_accepted request accepts, same]

theorem given_up_search_leaves_no_trace :
    let before : List (Event (MemoryIndex Nat)) := [.submit hastyRequest, .tick 2, .abandon 0]
    let first := overMemory {} [reportEntry] (.after 5)
    let engine := first.run (backend Nat) before
    engine.orchestrator.flight? = none ∧ engine.alarms = [⟨5, 0⟩] ∧
      ∀ answer outcome?, engine.MayEnd hastyRequest answer outcome? ↔
        first.MayEnd hastyRequest answer outcome? := by
  intro before first engine
  have reached : first.Reaches (backend Nat) engine :=
    ⟨before, by simp [before, Event.isOrdinary], rfl⟩
  exact ⟨rfl, rfl,
    (search_forgets_history {} [reportEntry] (.after 5) engine reached rfl hastyRequest [] 0 rfl).1⟩

end Engine

end FileSearch
