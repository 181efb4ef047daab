import FileSearch.Proofs.Search.Recorder
import Mathlib.Data.List.Infix

set_option autoImplicit false

namespace FileSearch

def HandleCall.isUse : HandleCall → Bool
  | .start => true
  | .startError => true
  | call => call.isRead

def HandleCall.isLeaving : HandleCall → Bool
  | .unsubscribe _ => true
  | .stop => true
  | _ => false

def HandleCall.subscription? : HandleCall → Option Nat
  | .subscribe subscription => some subscription
  | _ => none

theorem HandleCall.quiet_of_isUse (call : HandleCall) (use : call.isUse = true) :
    call.subscription? = none ∧ call.isLeaving = false := by
  cases call <;> simp [isUse, isRead, subscription?, isLeaving] at use ⊢

theorem HandleCall.isUse_of_isRead (call : HandleCall) (read : call.isRead = true) :
    call.isUse = true := by
  cases call <;> simp [isUse, isRead] at read ⊢

inductive Phase where
  | idle
  | opened (handle : Nat)
  | live (handle subscription : Nat)
  | leaving (handle subscription : Nat)

-- The tidy logs, with how many queries were opened in them and where the last one stands.
inductive Tidy : List BackendCall → Nat → Phase → Prop where
  | empty : Tidy [] 0 .idle
  | unopened {calls : List BackendCall} {count : Nat} (before : Tidy calls count .idle) :
    Tidy (calls ++ [.opened false]) count .idle
  | opened {calls : List BackendCall} {count : Nat} (before : Tidy calls count .idle) :
    Tidy (calls ++ [.opened true]) (count + 1) (.opened count)
  | subscribed {calls : List BackendCall} {count handle : Nat} (subscription : Nat)
    (before : Tidy calls count (.opened handle)) :
    Tidy (calls ++ [.on handle (.subscribe subscription)]) count (.live handle subscription)
  | used {calls : List BackendCall} {count handle subscription : Nat} (call : HandleCall)
    (use : call.isUse = true) (before : Tidy calls count (.live handle subscription)) :
    Tidy (calls ++ [.on handle call]) count (.live handle subscription)
  | unsubscribed {calls : List BackendCall} {count handle subscription : Nat}
    (before : Tidy calls count (.live handle subscription)) :
    Tidy (calls ++ [.on handle (.unsubscribe subscription)]) count (.leaving handle subscription)
  | stopped {calls : List BackendCall} {count handle subscription : Nat}
    (before : Tidy calls count (.leaving handle subscription)) :
    Tidy (calls ++ [.on handle .stop]) count .idle
  | read {calls : List BackendCall} {count handle : Nat} (call : HandleCall)
    (read : call.isRead = true) (known : handle < count) (before : Tidy calls count .idle) :
    Tidy (calls ++ [.on handle call]) count .idle

def Phase.handle? : Phase → Option Nat
  | .idle => none
  | .opened handle => some handle
  | .live handle _ => some handle
  | .leaving handle _ => some handle

def callsOn (handle : Nat) (calls : List BackendCall) : List HandleCall :=
  calls.filterMap fun call => match call with
    | .on other call => if other = handle then some call else none
    | .opened _ => none

def subscriptionsOf (handle : Nat) (calls : List BackendCall) : List Nat :=
  (callsOn handle calls).filterMap HandleCall.subscription?

-- The calls by which a query was let go of.
def leavingsOf (handle : Nat) (calls : List BackendCall) : List HandleCall :=
  (callsOn handle calls).filter HandleCall.isLeaving

-- A query is subscribed to and not yet stopped.
def IsLive (handle : Nat) (calls : List BackendCall) : Prop :=
  subscriptionsOf handle calls ≠ [] ∧ HandleCall.stop ∉ leavingsOf handle calls

-- A query was subscribed to once, then unsubscribed from with that subscription, and then stopped,
-- each once.
def LetGo (handle : Nat) (calls : List BackendCall) : Prop :=
  ∃ subscription, subscriptionsOf handle calls = [subscription] ∧
    leavingsOf handle calls = [.unsubscribe subscription, .stop]

def Phase.Explains (calls : List BackendCall) : Phase → Prop
  | .idle => True
  | .opened last => subscriptionsOf last calls = [] ∧ leavingsOf last calls = []
  | .live last subscription =>
    subscriptionsOf last calls = [subscription] ∧ leavingsOf last calls = []
  | .leaving last subscription =>
    subscriptionsOf last calls = [subscription] ∧
      leavingsOf last calls = [.unsubscribe subscription]

@[simp] theorem callsOn_opened (handle : Nat) (calls : List BackendCall) (succeeded : Bool) :
    callsOn handle (calls ++ [.opened succeeded]) = callsOn handle calls := by
  simp [callsOn]

@[simp] theorem callsOn_same (handle : Nat) (calls : List BackendCall) (call : HandleCall) :
    callsOn handle (calls ++ [.on handle call]) = callsOn handle calls ++ [call] := by
  simp [callsOn]

theorem callsOn_other (handle other : Nat) (calls : List BackendCall) (call : HandleCall)
    (away : other ≠ handle) :
    callsOn handle (calls ++ [.on other call]) = callsOn handle calls := by
  simp [callsOn, away]

theorem callsOn_unknown (handle : Nat) (calls : List BackendCall)
    (unknown : ∀ call, .on handle call ∉ calls) : callsOn handle calls = [] := by
  rw [callsOn, List.filterMap_eq_nil_iff]
  intro call made
  cases call with
  | opened succeeded => rfl
  | on other call =>
    have away : other ≠ handle := by
      rintro rfl
      exact unknown call made
    simp [away]

theorem LetGo.opened {handle : Nat} {calls : List BackendCall} (gone : LetGo handle calls)
    (succeeded : Bool) : LetGo handle (calls ++ [.opened succeeded]) := by
  simpa [LetGo, subscriptionsOf, leavingsOf] using gone

theorem LetGo.other {handle other : Nat} {calls : List BackendCall} (gone : LetGo handle calls)
    (call : HandleCall) (away : other ≠ handle) : LetGo handle (calls ++ [.on other call]) := by
  simpa [LetGo, subscriptionsOf, leavingsOf, callsOn_other _ _ _ _ away] using gone

theorem LetGo.used {handle : Nat} {calls : List BackendCall} (gone : LetGo handle calls)
    (call : HandleCall) (use : call.isUse = true) : LetGo handle (calls ++ [.on handle call]) := by
  obtain ⟨unsubscribing, staying⟩ := call.quiet_of_isUse use
  simpa [LetGo, subscriptionsOf, leavingsOf, unsubscribing, staying] using gone

theorem LetGo.not_isLive {handle : Nat} {calls : List BackendCall} (gone : LetGo handle calls) :
    ¬ IsLive handle calls := by
  obtain ⟨subscription, -, left⟩ := gone
  rintro ⟨-, running⟩
  simp [left] at running

namespace Tidy

variable {calls : List BackendCall} {count : Nat} {phase : Phase}

theorem handle_lt (tidy : Tidy calls count phase) (handle : Nat)
    (current : phase.handle? = some handle) : handle < count := by
  induction tidy with
  | empty => cases current
  | unopened before ih => cases current
  | opened before ih =>
    cases current
    exact Nat.lt_succ_self _
  | subscribed subscription before ih => exact ih current
  | used call use before ih => exact ih current
  | unsubscribed before ih => exact ih current
  | stopped before ih => cases current
  | read call read known before ih => cases current

theorem known (tidy : Tidy calls count phase) (handle : Nat) (call : HandleCall)
    (made : .on handle call ∈ calls) : handle < count := by
  have last (other : Nat) (made' : HandleCall) (earlier : List BackendCall) (count : Nat)
      (ih : .on handle call ∈ earlier → handle < count) (opened : other < count)
      (made : .on handle call ∈ earlier ++ [.on other made']) : handle < count := by
    rcases List.mem_append.mp made with old | new
    · exact ih old
    · cases List.mem_singleton.mp new
      exact opened
  induction tidy with
  | empty => cases made
  | unopened before ih => exact ih (by simpa using made)
  | opened before ih => exact Nat.lt_succ_of_lt (ih (by simpa using made))
  | subscribed subscription before ih =>
    exact last _ _ _ _ ih (before.handle_lt _ rfl) made
  | used other use before ih => exact last _ _ _ _ ih (before.handle_lt _ rfl) made
  | unsubscribed before ih => exact last _ _ _ _ ih (before.handle_lt _ rfl) made
  | stopped before ih => exact last _ _ _ _ ih (before.handle_lt _ rfl) made
  | read other read opened before ih => exact last _ _ _ _ ih opened made

theorem explains (tidy : Tidy calls count phase) : phase.Explains calls := by
  induction tidy with
  | empty => trivial
  | unopened before ih => trivial
  | @opened calls count before ih =>
    -- No call was made yet on a query of a number that was not given yet.
    have fresh : callsOn count calls = [] := by
      apply callsOn_unknown
      intro call made
      exact Nat.lt_irrefl _ (before.known count call made)
    simp [Phase.Explains, subscriptionsOf, leavingsOf, fresh]
  | subscribed subscription before ih =>
    simp only [Phase.Explains, subscriptionsOf, leavingsOf] at ih
    simp [Phase.Explains, subscriptionsOf, leavingsOf, ih, HandleCall.subscription?,
      HandleCall.isLeaving]
  | used call use before ih =>
    obtain ⟨unsubscribing, staying⟩ := call.quiet_of_isUse use
    simp only [Phase.Explains, subscriptionsOf, leavingsOf] at ih
    simp [Phase.Explains, subscriptionsOf, leavingsOf, ih, unsubscribing, staying]
  | unsubscribed before ih =>
    simp only [Phase.Explains, subscriptionsOf, leavingsOf] at ih
    simp [Phase.Explains, subscriptionsOf, leavingsOf, ih, HandleCall.subscription?,
      HandleCall.isLeaving]
  | stopped before ih => trivial
  | read call read known before ih => trivial

theorem letGo (tidy : Tidy calls count phase) (handle : Nat) (opened : handle < count)
    (past : phase.handle? ≠ some handle) : LetGo handle calls := by
  -- A call on another query leaves those let go of as they are; a stop is what lets go of the last
  -- one, and only reads come after it.
  induction tidy with
  | empty => cases opened
  | unopened before ih => exact (ih opened past).opened false
  | opened before ih =>
    have earlier : handle ≠ _ := fun same => past (congrArg some same.symm)
    exact (ih (by omega) (by simp [Phase.handle?])).opened true
  | subscribed subscription before ih =>
    exact (ih opened past).other _ (fun same => past (congrArg some same))
  | used call use before ih =>
    exact (ih opened past).other _ (fun same => past (congrArg some same))
  | unsubscribed before ih =>
    exact (ih opened past).other _ (fun same => past (congrArg some same))
  | @stopped calls count last subscription before ih =>
    by_cases same : last = handle
    · subst same
      obtain ⟨subscribed, left⟩ := before.explains
      simp only [subscriptionsOf, leavingsOf] at subscribed left
      exact ⟨subscription, by simp [subscriptionsOf, subscribed, HandleCall.subscription?],
        by simp [leavingsOf, left, HandleCall.isLeaving]⟩
    · exact (ih opened (by simpa [Phase.handle?] using same)).other _ same
  | @read calls count last call read known before ih =>
    have gone := ih opened past
    by_cases same : last = handle
    · subst same
      exact gone.used call (call.isUse_of_isRead read)
    · exact gone.other call same

theorem live (tidy : Tidy calls count phase) (handle : Nat) (running : IsLive handle calls) :
    phase.handle? = some handle := by
  by_contra past
  have opened : handle < count := by
    by_contra beyond
    have none : callsOn handle calls = [] :=
      callsOn_unknown handle calls fun call made => beyond (tidy.known handle call made)
    exact running.1 (by simp [subscriptionsOf, none])
  exact (tidy.letGo handle opened past).not_isLive running

theorem prefixed (tidy : Tidy calls count phase) (part : List BackendCall)
    (first : part <+: calls) : ∃ count phase, Tidy part count phase := by
  have last (earlier : List BackendCall) (call : BackendCall) (count : Nat) (phase : Phase)
      (whole : Tidy (earlier ++ [call]) count phase)
      (ih : part <+: earlier → ∃ count phase, Tidy part count phase)
      (first : part <+: earlier ++ [call]) : ∃ count phase, Tidy part count phase := by
    rcases List.prefix_concat_iff.mp first with all | shorter
    · exact ⟨count, phase, all ▸ whole⟩
    · exact ih shorter
  induction tidy with
  | empty =>
    rw [List.prefix_nil.mp first]
    exact ⟨0, .idle, .empty⟩
  | unopened before ih => exact last _ _ _ _ before.unopened ih first
  | opened before ih => exact last _ _ _ _ before.opened ih first
  | subscribed subscription before ih => exact last _ _ _ _ (before.subscribed subscription) ih first
  | used call use before ih => exact last _ _ _ _ (before.used call use) ih first
  | unsubscribed before ih => exact last _ _ _ _ before.unsubscribed ih first
  | stopped before ih => exact last _ _ _ _ before.stopped ih first
  | read call read known before ih => exact last _ _ _ _ (before.read call read known) ih first

theorem count_opened (tidy : Tidy calls count phase) : calls.count (.opened true) = count := by
  induction tidy with
  | empty => rfl
  | opened before ih => simp [ih]
  | _ => simp [*]

theorem reads {handle : Nat} (tidy : Tidy calls count .idle) (known : handle < count)
    (made : List HandleCall) (all : ∀ call ∈ made, call.isRead = true) :
    Tidy (calls ++ made.map (.on handle)) count .idle := by
  induction made generalizing calls with
  | nil => simpa using tidy
  | cons call rest ih =>
    have first := tidy.read call (all call List.mem_cons_self) known
    have later := ih first fun call member => all call (List.mem_cons_of_mem _ member)
    simpa using later

theorem uses {handle subscription : Nat} (tidy : Tidy calls count (.live handle subscription))
    (made : List HandleCall) (all : ∀ call ∈ made, call.isUse = true) :
    Tidy (calls ++ made.map (.on handle)) count (.live handle subscription) := by
  induction made generalizing calls with
  | nil => simpa using tidy
  | cons call rest ih =>
    have first := tidy.used call (all call List.mem_cons_self)
    have later := ih first fun call member => all call (List.mem_cons_of_mem _ member)
    simpa using later

theorem left {handle subscription : Nat} (tidy : Tidy calls count (.live handle subscription)) :
    Tidy (calls ++ [.on handle (.unsubscribe subscription), .on handle .stop]) count .idle := by
  simpa using tidy.unsubscribed.stopped

theorem live_unique (tidy : Tidy calls count phase) (part : List BackendCall)
    (first : part <+: calls) (one other : Nat) (left : IsLive one part)
    (right : IsLive other part) : one = other := by
  obtain ⟨count, phase, tidy⟩ := tidy.prefixed part first
  have same := (tidy.live one left).symm.trans (tidy.live other right)
  exact Option.some.inj same

end Tidy

end FileSearch
