import FileSearch.Index.Notifier
import Mathlib.Data.List.Induction
import Mathlib.Data.List.Nodup

set_option autoImplicit false

namespace FileSearch.Notifier

inductive Operation (ℓ : Type) where
  | subscribe (listener : ℓ)
  | unsubscribe (number : Nat)
  | notify

inductive Reply where
  | subscribed (number : Nat)
  | unsubscribed
  | notified (ran : Bool)

-- What an operation answers, and the listeners that it runs.
structure Turn (ℓ : Type) where
  reply : Reply
  ran : List ℓ

variable {ℓ κ : Type}

def perform (notifier : Notifier ℓ) : Operation ℓ → Turn ℓ × Notifier ℓ
  | .subscribe listener =>
    let (number, notifier) := notifier.subscribe listener
    (⟨.subscribed number, []⟩, notifier)
  | .unsubscribe number => (⟨.unsubscribed, []⟩, notifier.unsubscribe number)
  | .notify =>
    let (listener?, notifier) := notifier.notify
    (⟨.notified listener?.isSome, listener?.toList⟩, notifier)

def turns (notifier : Notifier ℓ) : List (Operation ℓ) → List (Turn ℓ)
  | [] => []
  | operation :: rest =>
    let (turn, notifier) := notifier.perform operation
    turn :: notifier.turns rest

def performAll (notifier : Notifier ℓ) (operations : List (Operation ℓ)) : Notifier ℓ :=
  operations.foldl (fun notifier operation => (notifier.perform operation).2) notifier

def Operation.listener? : Operation ℓ → Option ℓ
  | .subscribe listener => some listener
  | _ => none

def Operation.map (f : ℓ → κ) : Operation ℓ → Operation κ
  | .subscribe listener => .subscribe (f listener)
  | .unsubscribe number => .unsubscribe number
  | .notify => .notify

-- The operations with each listener marked by the place of its subscription, so that no two are
-- alike.
def marked (operations : List (Operation ℓ)) : List (Operation (Nat × ℓ)) :=
  operations.mapIdx fun place operation => operation.map (place, ·)

def Reply.number? : Reply → Option Nat
  | .subscribed number => some number
  | _ => none

-- How many subscriptions there are among some operations.
def subscriptions (operations : List (Operation ℓ)) : Nat :=
  (operations.filterMap Operation.listener?).length

-- Between two places stand only cancellations of other subscriptions.
def Undisturbed (operations : List (Operation ℓ)) (number place turn : Nat) : Prop :=
  ∀ between, place < between → between < turn →
    ∃ other, other ≠ number ∧ operations[between]? = some (.unsubscribe other)

theorem subscriptions_append (first second : List (Operation ℓ)) :
    subscriptions (first ++ second) = subscriptions first + subscriptions second := by
  simp [subscriptions]

section Steps

variable (notifier : Notifier ℓ) (operation : Operation ℓ) (operations : List (Operation ℓ))

theorem unsubscribe_eq (number : Nat) :
    notifier.unsubscribe number =
      ⟨notifier.issued, notifier.current?.filter (·.1 ≠ number)⟩ := by
  obtain ⟨issued, _ | ⟨current, listener⟩⟩ := notifier
  · rfl
  · by_cases same : current = number <;> simp [unsubscribe, same, Option.filter]

theorem perform_issued :
    (notifier.perform operation).2.issued = notifier.issued + subscriptions [operation] := by
  cases operation with
  | subscribe listener => rfl
  | unsubscribe number =>
    rw [perform, unsubscribe_eq]
    rfl
  | notify => rfl

theorem perform_current? (number : Nat) (listener : ℓ) :
    (notifier.perform operation).2.current? = some (number, listener) ↔
      operation = .subscribe listener ∧ number = notifier.issued + 1 ∨
        (∃ other, other ≠ number ∧ operation = .unsubscribe other) ∧
          notifier.current? = some (number, listener) := by
  cases operation with
  | subscribe other => simp [perform, subscribe, eq_comm, and_comm]
  | unsubscribe other =>
    simp [perform, unsubscribe_eq, Option.filter_eq_some_iff, and_comm, ne_comm]
  | notify => simp [perform, notify]

theorem mem_ran_iff (listener : ℓ) :
    listener ∈ (notifier.perform operation).1.ran ↔
      operation = .notify ∧ ∃ number, notifier.current? = some (number, listener) := by
  cases operation with
  | subscribe other => simp [perform, subscribe]
  | unsubscribe number => simp [perform]
  | notify => simp [perform, notify]

theorem perform_sublist :
    ((notifier.perform operation).1.ran ++
        ((notifier.perform operation).2.current?.map Prod.snd).toList).Sublist
      ((notifier.current?.map Prod.snd).toList ++ operation.listener?.toList) := by
  cases operation with
  | subscribe listener => exact List.sublist_append_right _ _
  | unsubscribe number =>
    have kept : (notifier.current?.toList.filter (·.1 ≠ number)).Sublist notifier.current?.toList :=
      List.filter_sublist
    simpa [perform, unsubscribe_eq, Operation.listener?, Option.toList_map, Option.toList_filter]
      using kept.map Prod.snd
  | notify => exact List.Sublist.refl _

theorem notified_true_iff :
    (notifier.perform operation).1.reply = .notified true ↔
      (notifier.perform operation).1.ran ≠ [] := by
  cases operation with
  | subscribe listener => simp [perform, subscribe]
  | unsubscribe number => simp [perform]
  | notify => cases held : notifier.current? <;> simp [perform, notify, held]

theorem performAll_concat :
    notifier.performAll (operations ++ [operation]) =
      ((notifier.performAll operations).perform operation).2 := by
  simp [performAll]

theorem performAll_issued :
    (notifier.performAll operations).issued = notifier.issued + subscriptions operations := by
  induction operations using List.reverseRecOn with
  | nil => rfl
  | append_singleton operations operation ih =>
    rw [performAll_concat, perform_issued, ih, Nat.add_assoc, ← subscriptions_append]

theorem turns_getElem? (turn : Nat) :
    (notifier.turns operations)[turn]? = operations[turn]?.map fun operation =>
      ((notifier.performAll (operations.take turn)).perform operation).1 := by
  induction operations generalizing notifier turn with
  | nil => rfl
  | cons first rest ih =>
    cases turn with
    | zero => rfl
    | succ turn => exact ih _ turn

theorem turns_concat :
    notifier.turns (operations ++ [operation]) =
      notifier.turns operations ++ [((notifier.performAll operations).perform operation).1] := by
  induction operations generalizing notifier with
  | nil => rfl
  | cons first rest ih => exact congrArg (_ :: ·) (ih _)

theorem ran_sublist (history : List (Operation ℓ)) :
    ((turns {} history).flatMap Turn.ran ++
        ((performAll {} history).current?.map Prod.snd).toList).Sublist
      (history.filterMap Operation.listener?) := by
  induction history using List.reverseRecOn with
  | nil => exact List.Sublist.refl _
  | append_singleton history operation ih =>
    have step := perform_sublist (performAll {} history) operation
    have last : [operation].filterMap Operation.listener? = operation.listener?.toList := by
      cases operation <;> rfl
    rw [turns_concat, performAll_concat, List.flatMap_append, List.filterMap_append, last,
      List.append_assoc, List.flatMap_singleton]
    refine (step.append_left _).trans ?_
    rw [← List.append_assoc]
    exact ih.append_right _

theorem numbers_eq :
    (notifier.turns operations).filterMap (·.reply.number?) =
      List.range' (notifier.issued + 1) (subscriptions operations) := by
  induction operations generalizing notifier with
  | nil => rfl
  | cons operation rest ih =>
    have tail := ih (notifier.perform operation).2
    rw [perform_issued] at tail
    rw [turns, List.filterMap_cons, tail]
    cases operation with
    | subscribe listener => exact (List.range'_succ).symm
    | unsubscribe _ | notify => rfl

end Steps

section Marks

variable (operations : List (Operation ℓ)) (operation : Operation ℓ)

theorem marked_concat :
    marked (operations ++ [operation]) =
      marked operations ++ [operation.map (operations.length, ·)] :=
  List.mapIdx_concat

theorem marked_getElem? (place : Nat) :
    (marked operations)[place]? = operations[place]?.map (·.map (place, ·)) :=
  List.getElem?_mapIdx

theorem marked_take (count : Nat) : (marked operations).take count = marked (operations.take count) := by
  apply List.ext_getElem?
  intro place
  rw [List.getElem?_take, marked_getElem?, marked_getElem?, List.getElem?_take]
  split <;> rfl

theorem subscriptions_marked : subscriptions (marked operations) = subscriptions operations := by
  induction operations using List.reverseRecOn with
  | nil => rfl
  | append_singleton operations operation ih =>
    rw [marked_concat, subscriptions_append, subscriptions_append, ih]
    cases operation <;> rfl

variable {operation}

theorem map_eq_subscribe_iff {mark place : Nat} {listener : ℓ} :
    operation.map (mark, ·) = .subscribe (place, listener) ↔
      mark = place ∧ operation = .subscribe listener := by
  cases operation <;> simp [Operation.map]

theorem map_eq_unsubscribe_iff {mark other : Nat} :
    operation.map (mark, ·) = .unsubscribe other ↔ operation = .unsubscribe other := by
  cases operation <;> simp [Operation.map]

theorem map_eq_notify_iff {mark : Nat} :
    operation.map (mark, ·) = .notify ↔ operation = .notify := by
  cases operation <;> simp [Operation.map]

end Marks

theorem undisturbed_concat {operations : List (Operation ℓ)} {operation : Operation ℓ}
    {number place : Nat} (inside : place < operations.length) :
    Undisturbed (operations ++ [operation]) number place (operations.length + 1) ↔
      (∃ other, other ≠ number ∧ operation = .unsubscribe other) ∧
        Undisturbed operations number place operations.length := by
  constructor
  · intro calm
    refine ⟨?_, fun between behind before => ?_⟩
    · simpa using calm operations.length inside (Nat.lt_succ_self _)
    · simpa [List.getElem?_append_left before] using calm between behind (Nat.lt_succ_of_lt before)
  · rintro ⟨last, calm⟩ between behind before
    rcases Nat.lt_succ_iff_lt_or_eq.mp before with before | rfl
    · simpa [List.getElem?_append_left before] using calm between behind before
    · simpa using last

theorem current?_marked_iff (history : List (Operation ℓ)) (number place : Nat) (listener : ℓ) :
    (performAll {} (marked history)).current? = some (number, place, listener) ↔
      history[place]? = some (.subscribe listener) ∧
        number = subscriptions (history.take place) + 1 ∧
        Undisturbed history number place history.length := by
  induction history using List.reverseRecOn with
  | nil => simp [performAll, marked]
  | append_singleton history operation ih =>
    rw [marked_concat, performAll_concat, perform_current?, ih, performAll_issued,
      subscriptions_marked, map_eq_subscribe_iff, List.length_append, List.length_singleton]
    simp only [map_eq_unsubscribe_iff]
    rcases Nat.lt_trichotomy place history.length with inside | rfl | outside
    · -- The listener was subscribed before, so the last operation must have left it alone.
      rw [undisturbed_concat inside, List.getElem?_append_left inside,
        List.take_append_of_le_length (Nat.le_of_lt inside)]
      have other : history.length ≠ place := by omega
      simp only [other, false_and, false_or]
      tauto
    · have alone : Undisturbed (history ++ [operation]) number history.length (history.length + 1) :=
        fun between behind before => absurd before (by omega)
      simp [alone]
    · have beyond : history[place]? = none := List.getElem?_eq_none (by omega)
      have beyond' : (history ++ [operation])[place]? = none :=
        List.getElem?_eq_none (by simp; omega)
      have other : history.length ≠ place := by omega
      simp [beyond, beyond', other]

theorem ran_at_iff (operations : List (Operation ℓ)) (turn place : Nat) (listener : ℓ) :
    (∃ answered ∈ (turns {} (marked operations))[turn]?, (place, listener) ∈ answered.ran) ↔
      operations[turn]? = some .notify ∧ place < turn ∧
        operations[place]? = some (.subscribe listener) ∧
        Undisturbed operations (subscriptions (operations.take place) + 1) place turn := by
  rw [turns_getElem?, marked_getElem?, marked_take]
  cases here : operations[turn]? with
  | none => simp
  | some operation =>
    have inside : turn ≤ operations.length :=
      Nat.le_of_lt (List.getElem?_eq_some_iff.mp here).1
    have before (index : Nat) : (operations.take turn)[index]? =
        if index < turn then operations[index]? else none := List.getElem?_take
    simp only [Option.map_some, Option.mem_some_iff, exists_eq_left', mem_ran_iff,
      current?_marked_iff, map_eq_notify_iff, Option.some.injEq, before, List.length_take_of_le inside]
    refine and_congr_right fun _ => ?_
    by_cases behind : place < turn
    · have calm (number : Nat) : Undisturbed (operations.take turn) number place turn ↔
          Undisturbed operations number place turn := by
        refine forall_congr' fun between => forall_congr' fun _ => forall_congr' fun less => ?_
        rw [before, if_pos less]
      have earlier : (operations.take turn).take place = operations.take place := by
        rw [List.take_take, Nat.min_eq_left (Nat.le_of_lt behind)]
      simp [behind, calm, earlier]
    · simp [behind]

theorem marks_sublist (operations : List (Operation ℓ)) :
    (((marked operations).filterMap Operation.listener?).map Prod.fst).Sublist
      (List.range operations.length) := by
  induction operations using List.reverseRecOn with
  | nil => exact List.Sublist.refl _
  | append_singleton operations operation ih =>
    rw [marked_concat, List.filterMap_append, List.map_append, List.length_append,
      List.length_singleton, List.range_succ]
    refine ih.append ?_
    cases operation <;> simp [Operation.map, Operation.listener?]

section Blindness

variable (f : ℓ → κ)

def Turn.map (turn : Turn ℓ) : Turn κ :=
  ⟨turn.reply, turn.ran.map f⟩

def map (notifier : Notifier ℓ) : Notifier κ :=
  ⟨notifier.issued, notifier.current?.map (Prod.map id f)⟩

theorem perform_map (notifier : Notifier ℓ) (operation : Operation ℓ) :
    (notifier.map f).perform (operation.map f) =
      ((notifier.perform operation).1.map f, (notifier.perform operation).2.map f) := by
  cases operation with
  | subscribe listener => rfl
  | unsubscribe number =>
    simp [perform, Operation.map, Turn.map, map, unsubscribe_eq, Option.filter_map,
      Function.comp_def]
  | notify =>
    cases held : notifier.current? <;> simp [perform, Operation.map, Turn.map, map, notify, held]

theorem turns_map (notifier : Notifier ℓ) (operations : List (Operation ℓ)) :
    (notifier.map f).turns (operations.map (Operation.map f)) =
      (notifier.turns operations).map (Turn.map f) := by
  induction operations generalizing notifier with
  | nil => rfl
  | cons operation rest ih => simp [turns, perform_map, ih]

theorem marked_unmarked (operations : List (Operation ℓ)) :
    (marked operations).map (Operation.map Prod.snd) = operations := by
  apply List.ext_getElem?
  intro place
  rw [List.getElem?_map, marked_getElem?]
  rcases operations[place]? with _ | (listener | number | _) <;> rfl

end Blindness

section History

variable (operations : List (Operation ℓ))

theorem turns_unmarked :
    turns {} operations = (turns {} (marked operations)).map (Turn.map Prod.snd) := by
  have blind := turns_map Prod.snd ({} : Notifier (Nat × ℓ)) (marked operations)
  rwa [marked_unmarked] at blind

theorem ran_marks_nodup : (((turns {} (marked operations)).flatMap Turn.ran).map Prod.fst).Nodup := by
  have ran := (List.sublist_append_left _ _).trans (ran_sublist (marked operations))
  exact List.nodup_range.sublist ((ran.map Prod.fst).trans (marks_sublist operations))

theorem subscribed_turn {place : Nat} {listener : ℓ}
    (subscribed : operations[place]? = some (.subscribe listener)) :
    (turns {} (marked operations))[place]? =
      some ⟨.subscribed (subscriptions (operations.take place) + 1), []⟩ := by
  have issued := performAll_issued {} (marked (operations.take place))
  rw [subscriptions_marked] at issued
  simp [turns_getElem?, marked_getElem?, marked_take, subscribed, Operation.map, perform, subscribe,
    issued]

theorem notified_of_turn (notifier : Notifier ℓ) {answered : Turn ℓ}
    (member : answered ∈ notifier.turns operations) :
    answered.reply = .notified true ↔ answered.ran ≠ [] := by
  obtain ⟨turn, here⟩ := List.mem_iff_getElem?.mp member
  rw [turns_getElem?] at here
  obtain ⟨operation, -, rfl⟩ := Option.map_eq_some_iff.mp here
  exact notified_true_iff _ operation

end History

/-- Each listener is run at most once, by a notification behind its subscription that nothing but
cancellations of other subscriptions separates from it, and by every such one. The numbers of
subscriptions differ, and a notification tells whether it has run a listener. -/
theorem listeners_run_once (operations : List (Operation ℓ)) :
    let turns := ({} : Notifier (Nat × ℓ)).turns (marked operations)
    let numbers := turns.filterMap (·.reply.number?)
    ({} : Notifier ℓ).turns operations = turns.map (Turn.map Prod.snd) ∧
      ((turns.flatMap Turn.ran).map Prod.fst).Nodup ∧
      (∀ place listener, operations[place]? = some (.subscribe listener) →
        ∃ number, turns[place]? = some ⟨.subscribed number, []⟩ ∧
          ∀ turn, (∃ answered ∈ turns[turn]?, (place, listener) ∈ answered.ran) ↔
            operations[turn]? = some .notify ∧ place < turn ∧
              Undisturbed operations number place turn) ∧
      numbers.Nodup ∧ (∀ number ∈ numbers, number ≤ subscriptions operations) ∧
      ∀ answered ∈ turns, answered.reply = .notified true ↔ answered.ran ≠ [] := by
  intro turns numbers
  have listed : numbers = List.range' 1 (subscriptions operations) := by
    rw [← subscriptions_marked]
    exact numbers_eq {} (marked operations)
  refine ⟨turns_unmarked operations, ran_marks_nodup operations, ?_, ?_, ?_, ?_⟩
  · intro place listener subscribed
    refine ⟨_, subscribed_turn operations subscribed, fun turn => ?_⟩
    rw [ran_at_iff]
    simp [subscribed]
  · rw [listed]
    exact List.nodup_range'
  · intro number member
    rw [listed, List.mem_range'_1] at member
    omega
  · intro answered member
    exact notified_of_turn _ _ member

end FileSearch.Notifier
