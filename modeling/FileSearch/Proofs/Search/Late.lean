import FileSearch.Proofs.Search.Course

set_option autoImplicit false

namespace FileSearch

namespace Engine

variable {W : Type} (backend : Backend Nat W)

structure Past (number : Nat) (answer : Answer) (engine : Engine W) : Prop where
  numbered : engine.Numbered
  answered : engine.answer? number = some answer

namespace Past

variable {backend}
variable {number : Nat} {answer : Answer} {engine : Engine W}

theorem foreign (past : engine.Past number answer) (flight : Flight)
    (flying : engine.orchestrator.flight? = some flight) : number ≠ flight.number := by
  rintro rfl
  exact absurd past.answered (by simp [past.numbered.answer flight flying])

theorem land (past : engine.Past number answer) (flight : Flight)
    (flying : engine.orchestrator.flight? = some flight) (outcome : Outcome) (other : Answer)
    (world : W) : (engine.land flight outcome other world).Past number answer := by
  refine ⟨past.numbered.land flight flying outcome other world, ?_⟩
  have apart : (number == flight.number) = false := by simpa using past.foreign flight flying
  have answered := past.answered
  rw [answer?] at answered
  simp [Engine.land, answer?, List.lookup_cons, apart, answered]

theorem deliver (past : engine.Past number answer) (signal : Signal Nat) :
    (engine.deliver backend signal).Past number answer := by
  refine ⟨past.numbered.deliver signal, ?_⟩
  rw [Engine.deliver]
  split
  · exact past.answered
  next flight flying =>
    split
    · split
      · exact (past.land flight flying _ _ _).answered
      · exact past.answered
    · split <;> exact past.answered

theorem deliverAll (past : engine.Past number answer) (signals : List (Signal Nat)) :
    (engine.deliverAll backend signals).Past number answer := by
  induction signals generalizing engine with
  | nil => exact past
  | cons signal rest ih => exact ih (past.deliver signal)

theorem react (past : engine.Past number answer) (event : Event W) :
    (engine.react backend event).2.Past number answer := by
  refine ⟨past.numbered.react event, ?_⟩
  cases event with
  | submit request =>
    have ways := engine.submits backend request
    rw [Engine.react]
    generalize engine.submit backend request = submitted at ways ⊢
    cases ways with
    | rejected flight taken => exact past.answered
    | grounded error world free failed => exact past.answered
    | boarded flight started world free flew =>
      have boarded : (engine.boarded flight started.alarm? world).Past number answer :=
        ⟨past.numbered.boarded request flight started world flew, past.answered⟩
      exact (boarded.deliverAll started.signals).answered
  | abandon other =>
    rw [Engine.react, abandon]
    split
    · exact past.answered
    · split <;> exact past.answered
  | signal sent => exact (past.deliver sent).answered
  | ring =>
    rw [Engine.react]
    cases queued : engine.alarms with
    | nil =>
      rw [ring, queued]
      exact past.answered
    | cons first rest =>
      have woken : (engine.woken backend first rest).Past number answer :=
        ⟨⟨past.numbered.past, past.numbered.flying, past.numbered.unanswered⟩, past.answered⟩
      rw [ring_queued _ _ _ _ queued]
      exact (woken.deliverAll _).answered
  | expire =>
    rw [Engine.react, timeOut]
    split
    · exact past.answered
    next flight flying => exact (past.land flight flying _ _ _).answered
  | tick time => exact past.answered
  | edit change => exact past.answered

theorem run (past : engine.Past number answer) (events : List (Event W)) :
    (engine.run backend events).Past number answer :=
  run_invariant backend (Past number answer) (fun _ event past => past.react event) engine past
    events

theorem deliverAll_without (past : engine.Past number answer) (signals : List (Signal Nat)) :
    engine.deliverAll backend signals =
      engine.deliverAll backend (signals.filter (·.listener ≠ number)) := by
  induction signals generalizing engine with
  | nil => rfl
  | cons signal rest ih =>
    by_cases own : signal.listener = number
    · have passes : engine.deliver backend signal = engine :=
        engine.deliver_foreign backend signal fun flight flying => own ▸ past.foreign flight flying
      rw [List.filter_cons_of_neg (by simpa using own), Engine.deliverAll, List.foldl_cons, passes]
      exact ih past
    · rw [List.filter_cons_of_pos (by simpa using own), Engine.deliverAll, Engine.deliverAll,
        List.foldl_cons, List.foldl_cons]
      exact ih (past.deliver signal)

end Past

theorem runTo_numbered (number : Nat) (engine : Engine W) (numbered : engine.Numbered)
    (course : List (Event W)) : (engine.runTo backend number course).Numbered := by
  induction course generalizing engine with
  | nil => exact numbered
  | cons event rest ih =>
    rw [runTo]
    split
    · exact numbered
    · exact ih _ (numbered.react event)

end Engine

end FileSearch
