import FileSearch.Proofs.Search.Signals
import FileSearch.Proofs.Search.Teardown

set_option autoImplicit false

namespace FileSearch

def Alarm.Ordered (alarms : List Alarm) : Prop :=
  alarms.Pairwise fun early late => early.due ≤ late.due

theorem Alarm.insert_ordered (alarm : Alarm) (alarms : List Alarm) (ordered : Ordered alarms) :
    Ordered (alarm.insert alarms) := by
  induction alarms with
  | nil => exact List.pairwise_singleton _ alarm
  | cons first rest ih =>
    obtain ⟨first_le, ordered⟩ := List.pairwise_cons.mp ordered
    rw [Alarm.insert]
    split
    next early =>
      refine List.pairwise_cons.mpr ⟨fun other member => ?_, ih ordered⟩
      rcases List.mem_cons.mp ((Alarm.insert_perm _ _).mem_iff.mp member) with rfl | old
      · exact early
      · exact first_le other old
    next late =>
      have before : alarm.due ≤ first.due := Nat.le_of_not_le late
      refine List.pairwise_cons.mpr
        ⟨fun other member => ?_, List.pairwise_cons.mpr ⟨first_le, ordered⟩⟩
      rcases List.mem_cons.mp member with rfl | later
      · exact before
      · exact Nat.le_trans before (first_le other later)

theorem Alarm.schedule_ordered (handle now : Nat) (delay? : Option Nat) (alarms : List Alarm)
    (ordered : Ordered alarms) : Ordered (Alarm.schedule handle now delay? alarms) := by
  cases delay? with
  | none => exact ordered
  | some delay => exact Alarm.insert_ordered _ alarms ordered

namespace Event

variable {W : Type}

-- The clock stops at the deadline of a search that waits, and only then is the search out of time.
def MindsDeadline (engine : Engine W) : Event W → Prop
  | .tick time => ∀ flight, engine.orchestrator.flight? = some flight → time ≤ flight.deadline
  | .expire => ∀ flight, engine.orchestrator.flight? = some flight → flight.deadline ≤ engine.now
  | _ => True

def MindsAlarms (engine : Engine W) : Event W → Prop
  | .tick time => ∀ alarm ∈ engine.alarms, time ≤ alarm.due
  | .ring => ∀ first, engine.alarms.head? = some first → first.due ≤ engine.now
  -- Alarms come before a deadline at the same time.
  | .expire => ∀ flight, engine.orchestrator.flight? = some flight →
    ∀ alarm ∈ engine.alarms, flight.deadline < alarm.due
  | _ => True

def IsPunctual (engine : Engine W) (event : Event W) : Prop :=
  event.MindsDeadline engine ∧ event.MindsAlarms engine

-- What happens as time goes by, without anybody's doing.
def isClockwork : Event W → Bool
  | .ring => true
  | .expire => true
  | .tick _ => true
  | _ => false

end Event

namespace Engine

variable {W : Type} (backend : Backend Nat W)

def Along (property : Engine W → Event W → Prop) : Engine W → List (Event W) → Prop
  | _, [] => True
  | engine, event :: rest =>
    property engine event ∧ Along property (engine.react backend event).2 rest

theorem Along.mono {property weaker : Engine W → Event W → Prop}
    (weakens : ∀ engine event, property engine event → weaker engine event) (engine : Engine W)
    (course : List (Event W)) (along : engine.Along backend property course) :
    engine.Along backend weaker course := by
  induction course generalizing engine with
  | nil => trivial
  | cons event rest ih => exact ⟨weakens engine event along.1, ih _ along.2⟩

-- The engine as soon as a search has ended in a course, or behind the course.
def runTo (number : Nat) (engine : Engine W) : List (Event W) → Engine W
  | [] => engine
  | event :: rest =>
    if (engine.answer? number).isSome then engine
    else runTo number (engine.react backend event).2 rest

theorem runTo_answered (number : Nat) (engine : Engine W)
    (ended : (engine.answer? number).isSome = true) (course : List (Event W)) :
    engine.runTo backend number course = engine := by
  cases course with
  | nil => rfl
  | cons event rest => rw [runTo, if_pos ended]

theorem runTo_unanswered (number : Nat) (engine : Engine W)
    (waits : engine.answer? number = none) (event : Event W) (rest : List (Event W)) :
    engine.runTo backend number (event :: rest) =
      (engine.react backend event).2.runTo backend number rest := by
  simp [runTo, waits]

theorem deliver_keeps (engine : Engine W) (signal : Signal Nat) :
    (engine.deliver backend signal).now = engine.now ∧
      (engine.deliver backend signal).alarms = engine.alarms ∧
      (engine.deliver backend signal).orchestrator.flight?.toList.length ≤
        engine.orchestrator.flight?.toList.length := by
  rw [deliver]
  cases flying : engine.orchestrator.flight? with
  | none => simp [flying]
  | some flight => cases signal <;> dsimp only <;> split <;> simp [land, flying]

theorem deliverAll_keeps (engine : Engine W) (signals : List (Signal Nat)) :
    (engine.deliverAll backend signals).now = engine.now ∧
      (engine.deliverAll backend signals).alarms = engine.alarms ∧
      (engine.deliverAll backend signals).orchestrator.flight?.toList.length ≤
        engine.orchestrator.flight?.toList.length := by
  induction signals generalizing engine with
  | nil => exact ⟨rfl, rfl, Nat.le_refl _⟩
  | cons signal rest ih =>
    obtain ⟨now, alarms, flights⟩ := engine.deliver_keeps backend signal
    obtain ⟨later, queued, left⟩ := ih (engine.deliver backend signal)
    exact ⟨later.trans now, queued.trans alarms, Nat.le_trans left flights⟩

-- The clock does not go back, and alarms stay in order.
structure Follows (engine later : Engine W) : Prop where
  now : engine.now ≤ later.now
  ordered : Alarm.Ordered engine.alarms → Alarm.Ordered later.alarms

theorem follows_of_same (engine later : Engine W) (now : later.now = engine.now)
    (alarms : later.alarms = engine.alarms) : engine.Follows later :=
  ⟨Nat.le_of_eq now.symm, fun ordered => alarms ▸ ordered⟩

theorem react_follows (engine : Engine W) (event : Event W) :
    engine.Follows (engine.react backend event).2 := by
  cases event with
  | submit request =>
    have ways := engine.submits backend request
    rw [react]
    generalize engine.submit backend request = submitted at ways ⊢
    cases ways with
    | rejected flight taken => exact follows_of_same _ _ rfl rfl
    | grounded error world free failed => exact follows_of_same _ _ rfl rfl
    | boarded flight started world free flew =>
      obtain ⟨now, queued, -⟩ := deliverAll_keeps backend
        (engine.boarded flight started.alarm? world) started.signals
      refine ⟨Nat.le_of_eq now.symm, fun ordered => ?_⟩
      rw [queued]
      exact Alarm.schedule_ordered flight.handle engine.now started.alarm? _ ordered
  | abandon number =>
    rw [react, abandon]
    split
    · exact follows_of_same _ _ rfl rfl
    · split <;> exact follows_of_same _ _ rfl rfl
  | signal sent =>
    obtain ⟨now, queued, -⟩ := engine.deliver_keeps backend sent
    exact follows_of_same _ _ now queued
  | ring =>
    rw [react]
    cases queued : engine.alarms with
    | nil =>
      rw [ring, queued]
      exact follows_of_same _ _ rfl rfl
    | cons first rest =>
      obtain ⟨now, left, -⟩ := deliverAll_keeps backend (engine.woken backend first rest)
        (backend.wake first.handle engine.now engine.world).1
      rw [ring_queued _ _ _ _ queued]
      refine ⟨Nat.le_of_eq now.symm, fun ordered => ?_⟩
      rw [queued] at ordered
      rw [left]
      exact (List.pairwise_cons.mp ordered).2
  | expire =>
    rw [react, timeOut]
    split <;> exact follows_of_same _ _ rfl rfl
  | tick time => exact ⟨Nat.le_max_left _ _, id⟩
  | edit change => exact follows_of_same _ _ rfl rfl

theorem ordered_run (config : SearchConfig) (world : W) (events : List (Event W)) :
    Alarm.Ordered ((fresh config world).run backend events).alarms :=
  run_invariant backend (fun engine => Alarm.Ordered engine.alarms)
    (fun engine event => (react_follows backend engine event).ordered) (fresh config world)
    List.Pairwise.nil events

theorem next_time_le (engine : Engine W) (due : Due) (next : engine.next? = some due)
    (ordered : Alarm.Ordered engine.alarms) :
    (∀ flight, engine.orchestrator.flight? = some flight → due.time ≤ flight.deadline) ∧
      ∀ alarm ∈ engine.alarms, due.time ≤ alarm.due := by
  rw [next?] at next
  cases queued : engine.alarms with
  | nil =>
    cases flying : engine.orchestrator.flight? with
    | none => simp [queued, flying] at next
    | some flight =>
      simp only [queued, flying, Option.some.injEq] at next
      subst next
      simp [Due.time]
  | cons first rest =>
    rw [queued] at ordered
    have ordered := List.pairwise_cons.mp ordered
    cases flying : engine.orchestrator.flight? with
    | none =>
      simp only [queued, flying, Option.some.injEq] at next
      subst next
      simpa [Due.time] using ordered.1
    | some flight =>
      simp only [queued, flying] at next
      split at next <;> cases next
      next early => simpa [Due.time, early] using ordered.1
      next late =>
        have later : ∀ alarm ∈ rest, flight.deadline ≤ alarm.due := fun alarm member =>
          Nat.le_trans (Nat.le_of_not_le late) (ordered.1 alarm member)
        simpa [Due.time, Nat.le_of_not_le late] using later

theorem next_isSome (engine : Engine W) (flight : Flight)
    (flying : engine.orchestrator.flight? = some flight) : engine.next?.isSome = true := by
  rw [next?, flying]
  cases engine.alarms with
  | nil => rfl
  | cons first rest =>
    dsimp only
    split <;> rfl

theorem happen_course (engine : Engine W) (due : Due) (next : engine.next? = some due)
    (ordered : Alarm.Ordered engine.alarms) :
    ∃ event : Event W, event.isClockwork = true ∧
      engine.Along backend Event.IsPunctual [.tick due.time, event] ∧
      engine.happen backend due = ((engine.advance due.time).react backend event).2 := by
  obtain ⟨deadlines, alarms⟩ := engine.next_time_le due next ordered
  have reached : due.time ≤ (engine.advance due.time).now := Nat.le_max_right _ _
  have ticks : (Event.tick due.time : Event W).IsPunctual engine := ⟨deadlines, alarms⟩
  cases due with
  | alarm first rest =>
    have queued := engine.next_alarm first rest next
    refine ⟨.ring, rfl, ⟨ticks, ⟨trivial, ?_⟩, trivial⟩, ?_⟩
    · intro head same
      have listed : engine.alarms.head? = some head := same
      rw [queued] at listed
      cases listed
      exact reached
    · simp [react, ring, advance, queued, happen, Due.time]
  | deadline time =>
    suffices holds : ∀ flight, engine.orchestrator.flight? = some flight →
        time = flight.deadline ∧ ∀ alarm ∈ engine.alarms, flight.deadline < alarm.due from
      ⟨.expire, rfl, ⟨ticks, ⟨fun flight flying => (holds flight flying).1 ▸ reached,
        fun flight flying => (holds flight flying).2⟩, trivial⟩, rfl⟩
    intro flight flying
    rw [next?, flying] at next
    cases queued : engine.alarms with
    | nil => simpa [queued, eq_comm] using next
    | cons first rest =>
      rw [queued] at ordered
      simp only [queued] at next
      split at next
      · cases next
      next later =>
        cases next
        refine ⟨rfl, fun alarm member => ?_⟩
        have first_le : first.due ≤ alarm.due := by
          rcases List.mem_cons.mp member with rfl | behind
          · exact Nat.le_refl _
          · exact (List.pairwise_cons.mp ordered).1 alarm behind
        omega

theorem runWhile_course (number : Nat) (limit? : Option Nat) (fuel : Nat) (engine : Engine W)
    (ordered : Alarm.Ordered engine.alarms) :
    ∃ course : List (Event W), (∀ event ∈ course, event.isClockwork = true) ∧
      engine.Along backend Event.IsPunctual course ∧
      engine.runWhile backend (fun engine => (engine.answer? number).isNone) limit? fuel =
        engine.runTo backend number course := by
  induction fuel generalizing engine with
  | zero => exact ⟨[], by simp, trivial, rfl⟩
  | succ fuel ih =>
    rw [runWhile]
    cases next : engine.next? with
    | none => exact ⟨[], by simp, trivial, rfl⟩
    | some due =>
      by_cases go : ((engine.answer? number).isNone && limit?.all (due.time ≤ ·)) = true
      · obtain ⟨event, clockwork, ⟨ticks, happens, -⟩, happened⟩ :=
          happen_course backend engine due next ordered
        obtain ⟨course, quiet, punctual, runs⟩ := ih (engine.happen backend due)
          (happened ▸ (react_follows backend (engine.advance due.time) event).ordered ordered)
        have waits : engine.answer? number = none := by
          simpa using (Bool.and_eq_true_iff.mp go).1
        have still : (engine.advance due.time).answer? number = none := waits
        refine ⟨.tick due.time :: event :: course, by simpa [clockwork] using ⟨rfl, quiet⟩,
          ⟨ticks, happens, happened ▸ punctual⟩, ?_⟩
        simp only [go, if_true]
        rw [runs, happened, runTo_unanswered _ _ _ waits]
        exact (runTo_unanswered _ _ _ still event course).symm
      · exact ⟨[], by simp, trivial, by simp only [go]; rfl⟩

theorem runWhile_answered (number : Nat) (limit? : Option Nat) (fuel : Nat) (engine : Engine W)
    (ended : (engine.answer? number).isSome = true) :
    engine.runWhile backend (fun engine => (engine.answer? number).isNone) limit? fuel = engine := by
  obtain ⟨answer, answered⟩ := Option.isSome_iff_exists.mp ended
  cases fuel with
  | zero => rfl
  | succ fuel =>
    rw [runWhile]
    cases engine.next? <;> simp [answered]

-- How often something can still be due.
def burden (engine : Engine W) : Nat :=
  engine.alarms.length + engine.orchestrator.flight?.toList.length

theorem burden_le_pending (engine : Engine W) : engine.burden ≤ engine.pending := by
  cases flying : engine.orchestrator.flight? <;> simp [burden, pending, flying]

theorem happen_burden (engine : Engine W) (due : Due) (next : engine.next? = some due) :
    (engine.happen backend due).burden < engine.burden := by
  cases due with
  | alarm first rest =>
    have kept := deliverAll_keeps backend ((engine.advance first.due).woken backend first rest)
      (backend.wake first.handle (engine.advance first.due).now engine.world).1
    have left : (engine.happen backend (.alarm first rest)).alarms = rest := kept.2.1
    have flights : (engine.happen backend (.alarm first rest)).orchestrator.flight?.toList.length ≤
        engine.orchestrator.flight?.toList.length := kept.2.2
    rw [burden, burden, left, engine.next_alarm first rest next, List.length_cons]
    omega
  | deadline time =>
    cases flying : engine.orchestrator.flight? with
    | none =>
      rw [next?, flying] at next
      cases queued : engine.alarms <;> simp [queued] at next
    | some flight =>
      have same : (engine.advance time).orchestrator.flight? = some flight := flying
      rw [happen, Due.time, timeOut_flying _ _ flight same]
      simp [burden, expired, landed, land, advance, flying]

theorem runWhile_ends (number fuel : Nat) (engine : Engine W) (enough : engine.burden ≤ fuel) :
    let later := engine.runWhile backend (fun engine => (engine.answer? number).isNone) none fuel
    later.next? = none ∨ (later.answer? number).isSome = true := by
  induction fuel generalizing engine with
  | zero =>
    left
    have none : engine.alarms = [] ∧ engine.orchestrator.flight? = none := by
      simpa [burden] using enough
    simp [runWhile, next?, none]
  | succ fuel ih =>
    rw [runWhile]
    cases next : engine.next? with
    | none => exact .inl next
    | some due =>
      cases answered : engine.answer? number with
      | some answer => simp [answered]
      | none =>
        have less := happen_burden backend engine due next
        simpa [answered] using ih (engine.happen backend due) (by omega)

end Engine

end FileSearch
