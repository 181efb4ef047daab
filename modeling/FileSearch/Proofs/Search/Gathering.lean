import FileSearch.Proofs.Search.Serving

set_option autoImplicit false

namespace FileSearch

namespace Event

variable {W : Type}

-- The clock stops when an alarm of the search that waits is due, which does not go off before.
def MindsOwnAlarm (engine : Engine W) : Event W → Prop
  | .tick time => ∀ flight, engine.orchestrator.flight? = some flight →
    ∀ due, ⟨due, flight.handle⟩ ∈ engine.alarms → time ≤ due
  | .ring => ∀ flight, engine.orchestrator.flight? = some flight →
    ∀ due rest, engine.alarms = ⟨due, flight.handle⟩ :: rest → due ≤ engine.now
  | _ => True

def IsTimely (engine : Engine W) (event : Event W) : Prop :=
  event.MindsDeadline engine ∧ event.MindsOwnAlarm engine

-- An alarm at the deadline comes first.
def AlarmFirst (engine : Engine W) : Event W → Prop
  | .expire => ∀ flight, engine.orchestrator.flight? = some flight →
    ∀ due, ⟨due, flight.handle⟩ ∈ engine.alarms → flight.deadline < due
  | _ => True

theorem timely_of_punctual (engine : Engine W) (event : Event W)
    (punctual : event.IsPunctual engine) : event.IsTimely engine := by
  refine ⟨punctual.1, ?_⟩
  have minds := punctual.2
  cases event with
  | tick time => exact fun flight _ due queued => minds _ queued
  | ring => exact fun flight _ due rest queued => minds _ (by rw [queued]; rfl)
  | _ => trivial

theorem alarmFirst_of_punctual (engine : Engine W) (event : Event W)
    (punctual : event.IsPunctual engine) : event.AlarmFirst engine := by
  have minds := punctual.2
  cases event with
  | expire => exact fun flight flying due queued => minds flight flying _ queued
  | _ => trivial

end Event

namespace GatherBehavior

-- How long a search goes on which waits for a query with this behavior, but only so long.
def span (behavior : GatherBehavior) (patience : Nat) : Nat :=
  match behavior.delay? with
  | some delay => min delay patience
  | none => patience

def outlasts (behavior : GatherBehavior) (patience : Nat) : Bool :=
  behavior.delay?.all (patience < ·)

theorem span_inTime (behavior : GatherBehavior) (delay patience : Nat)
    (delays : behavior.delay? = some delay) (inTime : delay ≤ patience) :
    behavior.span patience = delay ∧ behavior.outlasts patience = false := by
  simp [span, outlasts, delays, inTime]

theorem span_late (behavior : GatherBehavior) (patience : Nat)
    (late : ∀ delay, behavior.delay? = some delay → patience ≤ delay) :
    behavior.span patience = patience := by
  cases delays : behavior.delay? with
  | none => simp [span, delays]
  | some delay => simp [span, delays, late delay delays]

theorem outlasts_iff (behavior : GatherBehavior) (patience : Nat) :
    behavior.outlasts patience = true ↔
      ∀ delay, behavior.delay? = some delay → patience < delay := by
  simp [outlasts, Option.all_eq_true]

end GatherBehavior

namespace Engine

open MemoryIndex (backend)

-- A search waits for its query, which started at some time and goes off after its delay.
structure Awaits (behavior : GatherBehavior) (flight : Flight) (found : List MemoryEntry)
    (start patience : Nat) (engine : Engine (MemoryIndex Nat)) : Prop where
  waits : engine.Waits flight
  deadline : flight.deadline = start + patience
  gathers : (engine.world.query flight.handle).Gathers found start
  alarm : ∀ due, ⟨due, flight.handle⟩ ∈ engine.alarms ↔
    behavior.delay?.map (start + ·) = some due
  before : ∀ delay, behavior.delay? = some delay → engine.now ≤ start + delay

-- The search has ended in time, with what had shown up, whole or cut short.
structure Concludes (behavior : GatherBehavior) (flight : Flight) (found : List MemoryEntry)
    (start patience : Nat) (cut : Bool) (engine : Engine (MemoryIndex Nat)) : Prop where
  now : engine.now = start + behavior.span patience
  free : engine.orchestrator.flight? = none
  outcome : engine.orchestrator.lastOutcome? = some (if cut then .timedOut else .completed)
  answered : engine.answer? flight.number =
    some (.ok ⟨MemoryEntry.results found (behavior.span patience) flight.limit, cut⟩)

variable {config : SearchConfig} {entries : List MemoryEntry} {behavior : GatherBehavior}
variable {engine : Engine (MemoryIndex Nat)} {flight : Flight} {found : List MemoryEntry}
variable {start patience : Nat}

theorem completed_concludes (engine : Engine (MemoryIndex Nat))
    (gathers : (engine.world.query flight.handle).Gathers found start) (delay : Nat)
    (delays : behavior.delay? = some delay) (now : engine.now = start + delay)
    (inTime : delay ≤ patience) :
    (engine.completed (backend Nat) flight).Concludes behavior flight found start patience
      false := by
  have elapsed : engine.now - start = delay := by omega
  have results := MemoryIndex.complete_gathers _ _ engine.now _ _ gathers
  have span := (behavior.span_inTime delay patience delays inTime).1
  refine ⟨span ▸ now, rfl, rfl, ?_⟩
  simp [span, completed, landed, land, answer?, results, elapsed]

theorem expired_concludes (engine : Engine (MemoryIndex Nat))
    (gathers : (engine.world.query flight.handle).Gathers found start)
    (late : ∀ delay, behavior.delay? = some delay → patience ≤ delay)
    (now : engine.now = start + patience) :
    (engine.expired (backend Nat) flight).Concludes behavior flight found start patience
      true := by
  have elapsed : engine.now - start = patience := by omega
  have results := MemoryIndex.expire_gathers _ _ engine.now _ _ gathers
  have span := behavior.span_late patience late
  refine ⟨span.symm ▸ now, rfl, rfl, ?_⟩
  simp [span, expired, landed, land, answer?, results, elapsed]

-- Whether the search is cut short is settled by the delay, or else by what comes first.
def Decides (behavior : GatherBehavior) (patience : Nat) (alarmFirst : Prop) (cut : Bool) : Prop :=
  cut = behavior.outlasts patience ∨ behavior.delay? = some patience ∧ ¬ alarmFirst

namespace Awaits

theorem ring (awaits : engine.Awaits behavior flight found start patience)
    (serves : engine.Serves config entries behavior)
    (minds : (Event.ring : Event (MemoryIndex Nat)).MindsOwnAlarm engine) :
    (engine.ring (backend Nat)).Awaits behavior flight found start patience ∨
      (engine.ring (backend Nat)).Concludes behavior flight found start patience false ∧
        behavior.outlasts patience = false := by
  have flying := awaits.waits.flying
  cases queued : engine.alarms with
  | nil =>
    rw [Engine.ring, queued]
    exact .inl awaits
  | cons first rest =>
    obtain ⟨due, handle⟩ := first
    by_cases own : flight.handle = handle
    · subst own
      obtain ⟨delay, delays, rfl⟩ := Option.map_eq_some_iff.mp
        ((awaits.alarm due).mp (queued ▸ List.mem_cons_self))
      have now : engine.now = start + delay :=
        Nat.le_antisymm (awaits.before delay delays) (minds flight flying _ rest queued)
      have inTime : delay ≤ patience := by
        have early := awaits.waits.early
        rw [now, awaits.deadline] at early
        omega
      rw [serves.ring_own flight flying _ rest queued]
      exact .inr ⟨completed_concludes (engine.woken _ _ rest)
        (MemoryIndex.wake_gathers _ _ _ _ awaits.gathers) delay delays now inTime,
        (behavior.span_inTime delay patience delays inTime).2⟩
    · have other : ∀ waiting, engine.orchestrator.flight? = some waiting →
          waiting.handle ≠ handle := by
        intro waiting same
        rw [flying] at same
        cases same
        exact own
      rw [serves.ring_other _ rest queued other]
      refine .inl ⟨⟨flying, awaits.waits.unanswered, awaits.waits.early⟩, awaits.deadline,
        awaits.gathers, fun due => ?_, awaits.before⟩
      rw [← awaits.alarm due, queued]
      simp [own]

-- The alarm is still to come, so the delay is not less than the time to wait.
theorem timeOut (awaits : engine.Awaits behavior flight found start patience)
    (reached : flight.deadline ≤ engine.now) :
    (engine.timeOut (backend Nat)).Concludes behavior flight found start patience true ∧
      Decides behavior patience ((Event.expire : Event (MemoryIndex Nat)).AlarmFirst engine)
        true := by
  have flying := awaits.waits.flying
  have now : engine.now = start + patience :=
    awaits.deadline ▸ Nat.le_antisymm awaits.waits.early reached
  have late : ∀ delay, behavior.delay? = some delay → patience ≤ delay := by
    intro delay delays
    have before := awaits.before delay delays
    omega
  rw [timeOut_flying _ _ flight flying]
  refine ⟨expired_concludes engine awaits.gathers late now, ?_⟩
  by_cases tied : behavior.delay? = some patience
  · refine .inr ⟨tied, fun first => ?_⟩
    have queued := (awaits.alarm (start + patience)).mpr (by simp [tied])
    exact absurd awaits.deadline (Nat.ne_of_lt (first flight flying _ queued))
  · refine .inl ((behavior.outlasts_iff patience).mpr fun delay delays => ?_).symm
    exact Nat.lt_of_le_of_ne (late delay delays) fun same => tied (same ▸ delays)

theorem react (awaits : engine.Awaits behavior flight found start patience)
    (serves : engine.Serves config entries behavior) (event : Event (MemoryIndex Nat))
    (ordinary : event.isOrdinary = true) (stays : event.givesUp flight.number = false)
    (timely : event.IsTimely engine) :
    let later := (engine.react (backend Nat) event).2
    later.Awaits behavior flight found start patience ∨
      ∃ cut, later.Concludes behavior flight found start patience cut ∧
        Decides behavior patience (event.AlarmFirst engine) cut := by
  have flying := awaits.waits.flying
  have early := awaits.waits.early
  cases event with
  | submit request =>
    rw [Engine.react, submit_taken _ _ _ flight flying]
    exact .inl ⟨⟨flying, awaits.waits.unanswered, early⟩, awaits.deadline, awaits.gathers,
      awaits.alarm, awaits.before⟩
  | abandon number =>
    have other : ¬ flight.number = number := by simpa [Event.givesUp, eq_comm] using stays
    rw [Engine.react, abandon, flying]
    simp only [other, if_false]
    exact .inl awaits
  | signal sent => cases ordinary
  | ring =>
    rcases awaits.ring serves timely.2 with still | ⟨ended, whole⟩
    · exact .inl still
    · exact .inr ⟨false, ended, .inl whole.symm⟩
  | expire => exact .inr ⟨true, awaits.timeOut (timely.1 flight flying)⟩
  | tick time =>
    refine .inl ⟨⟨flying, awaits.waits.unanswered, ?_⟩, awaits.deadline, awaits.gathers,
      awaits.alarm, ?_⟩
    · exact Nat.max_le.mpr ⟨early, timely.1 flight flying⟩
    · intro delay delays
      have queued := (awaits.alarm (start + delay)).mpr (by simp [delays])
      exact Nat.max_le.mpr ⟨awaits.before delay delays, timely.2 flight flying _ queued⟩
  | edit change => cases ordinary

end Awaits

-- A course on the way to the end of a search: it keeps to the clock, and the caller does not give
-- up.
structure Attends (engine : Engine (MemoryIndex Nat)) (number : Nat)
    (course : List (Event (MemoryIndex Nat))) : Prop where
  ordinary : ∀ event ∈ course, event.isOrdinary = true
  stays : ∀ event ∈ course, event.givesUp number = false
  timely : engine.Along (backend Nat) Event.IsTimely course

theorem Awaits.runTo (awaits : engine.Awaits behavior flight found start patience)
    (serves : engine.Serves config entries behavior) (course : List (Event (MemoryIndex Nat)))
    (attends : engine.Attends flight.number course) :
    let later := engine.runTo (backend Nat) flight.number course
    later.Awaits behavior flight found start patience ∨
      ∃ cut, later.Concludes behavior flight found start patience cut ∧
        Decides behavior patience (engine.Along (backend Nat) Event.AlarmFirst course) cut := by
  induction course generalizing engine with
  | nil => exact .inl awaits
  | cons event rest ih =>
    obtain ⟨ordinary, stays, timely, later⟩ := attends
    obtain ⟨usual, ordinary⟩ := List.forall_mem_cons.mp ordinary
    obtain ⟨stay, stays⟩ := List.forall_mem_cons.mp stays
    rw [runTo_unanswered _ _ _ awaits.waits.unanswered]
    rcases awaits.react serves event usual stay timely with still | ⟨cut, ended, decides⟩
    · rcases ih still (serves.react event usual) ⟨ordinary, stays, later⟩ with
        still | ⟨cut, ended, decides⟩
      · exact .inl still
      · exact .inr ⟨cut, ended, decides.imp_right (.imp_right fun not first => not first.2)⟩
    · rw [runTo_answered _ _ _ (by simp [ended.answered])]
      exact .inr ⟨cut, ended, decides.imp_right (.imp_right fun not first => not first.1)⟩

theorem Awaits.left_to_clock (awaits : engine.Awaits behavior flight found start patience)
    (serves : engine.Serves config entries behavior) (ordered : Alarm.Ordered engine.alarms) :
    (engine.runUntilAnswered (backend Nat) flight.number none).Concludes behavior flight found
        start patience (behavior.outlasts patience) ∧
      ∃ course, engine.Attends flight.number course ∧
        engine.runUntilAnswered (backend Nat) flight.number none =
          engine.runTo (backend Nat) flight.number course := by
  have ends := runUntilAnswered_ends (backend Nat) engine flight awaits.waits ordered
  obtain ⟨course, quiet, punctual, runs⟩ := runWhile_course (backend Nat) flight.number none
    engine.pending engine ordered
  have attends : engine.Attends flight.number course :=
    ⟨fun event member => event.isOrdinary_of_isClockwork (quiet event member),
      fun event member => not_givesUp_of_isClockwork event (quiet event member) _,
      Along.mono _ Event.timely_of_punctual engine course punctual⟩
  refine ⟨?_, course, attends, runs⟩
  rw [Engine.runUntilAnswered, runs] at ends ⊢
  rcases awaits.runTo serves course attends with still | ⟨cut, ended, same | ⟨-, not⟩⟩
  · simp [still.waits.unanswered] at ends
  · exact same ▸ ended
  · exact absurd (Along.mono _ Event.alarmFirst_of_punctual engine course punctual) not

theorem Awaits.tied (awaits : engine.Awaits behavior flight found start patience)
    (tied : behavior.delay? = some patience) :
    ∃ course, engine.Attends flight.number course ∧
      (engine.runTo (backend Nat) flight.number course).Concludes behavior flight found start
        patience true := by
  have reached : (engine.advance flight.deadline).now = flight.deadline :=
    Nat.max_eq_right awaits.waits.early
  have own : ∀ other, engine.orchestrator.flight? = some other → other = flight :=
    fun other flying => Option.some.inj (flying.symm.trans awaits.waits.flying)
  have ticks : (Event.tick flight.deadline).IsTimely engine := by
    refine ⟨fun other flying => own other flying ▸ Nat.le_refl _, fun other flying due queued => ?_⟩
    have gathered := (awaits.alarm due).mp (own other flying ▸ queued)
    rw [tied, Option.map_some, ← awaits.deadline] at gathered
    exact Nat.le_of_eq (Option.some.inj gathered)
  have expires : Event.expire.IsTimely (engine.advance flight.deadline) :=
    ⟨fun other flying => own other flying ▸ Nat.le_max_right _ _, trivial⟩
  have late : ∀ delay, behavior.delay? = some delay → patience ≤ delay := by
    intro delay delays
    exact Nat.le_of_eq (Option.some.inj (tied.symm.trans delays))
  refine ⟨[.tick flight.deadline, .expire], ⟨?_, ?_, ⟨ticks, expires, trivial⟩⟩, ?_⟩
  · simp [Event.isOrdinary]
  · simp [Event.givesUp]
  · have waits : (engine.advance flight.deadline).answer? flight.number = none :=
      awaits.waits.unanswered
    have flying : (engine.advance flight.deadline).orchestrator.flight? = some flight :=
      awaits.waits.flying
    have runs : engine.runTo (backend Nat) flight.number [.tick flight.deadline, .expire] =
        (engine.advance flight.deadline).expired (backend Nat) flight := by
      rw [← timeOut_flying _ _ flight flying, runTo_unanswered _ _ _ awaits.waits.unanswered]
      exact runTo_unanswered _ _ _ waits _ _
    rw [runs]
    exact expired_concludes _ awaits.gathers late (reached.trans awaits.deadline)

end Engine

end FileSearch
