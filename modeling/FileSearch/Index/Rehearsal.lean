import FileSearch.Index.Backend
import FileSearch.Index.Notifier

set_option autoImplicit false

namespace FileSearch

inductive Script where
  | fireAfter (delay : Nat)
  | refuse (reason? : Option String)
  | fireAtOnce
  -- The listener is replaced by one that does nothing while the query starts.
  | dropListener
  | never
  | failToOpen (error : SearchError)

inductive Call where
  | opened (plan : Plan)
  | subscribe
  | unsubscribe
  | start
  | startError
  | stop
  | resultCount
  | resultAt (index : Nat)
  | notify (fired : Bool)

/-- An index that follows a script. Each query has a notifier, whose listener is missing if it does
nothing. -/
structure Rehearsal (ℓ : Type) where
  script : Script
  records : List (Option RawRecord)
  count : Nat
  leaky : Bool := false
  silent : Bool := false
  notifiers : List (Notifier (Option ℓ)) := []
  calls : List Call := []

namespace Rehearsal

variable {ℓ : Type}

def note (index : Rehearsal ℓ) (call : Call) : Rehearsal ℓ :=
  { index with calls := call :: index.calls }

def notifier (index : Rehearsal ℓ) (handle : Nat) : Notifier (Option ℓ) :=
  index.notifiers[handle]?.getD {}

def setNotifier (index : Rehearsal ℓ) (handle : Nat) (notifier : Notifier (Option ℓ)) :
    Rehearsal ℓ :=
  { index with notifiers := index.notifiers.set handle notifier }

def notify (index : Rehearsal ℓ) (handle : Nat) : List (Signal ℓ) × Rehearsal ℓ :=
  let (listener?, notifier) := (index.notifier handle).notify
  (((listener?.bind id).map Signal.fired).toList,
    (index.setNotifier handle notifier).note (.notify listener?.isSome))

def start (index : Rehearsal ℓ) (handle : Nat) : Started ℓ × Rehearsal ℓ :=
  let index := index.note .start
  match index.script with
  | .fireAfter delay => ({ accepted := true, alarm? := some delay }, index)
  | .refuse _ => ({ accepted := false }, index)
  | .fireAtOnce =>
    let (signals, index) := index.notify handle
    ({ accepted := true, signals }, index)
  | .dropListener =>
    let old := index.notifier handle
    let lost := (old.current?.bind Prod.snd).map Signal.lost
    ({ accepted := true, signals := lost.toList },
      index.setNotifier handle (old.subscribe none).2)
  | .never => ({ accepted := true }, index)
  | .failToOpen _ => ({ accepted := true }, index)

def startError (index : Rehearsal ℓ) : Option String × Rehearsal ℓ :=
  if index.silent then (none, index)
  else
    let reason? := match index.script with
      | .refuse reason? => reason?
      | _ => none
    (reason?, index.note .startError)

def backend (ℓ : Type) : Backend ℓ (Rehearsal ℓ) where
  prepare plan index :=
    let index := index.note (.opened plan)
    match index.script with
    | .failToOpen error => (.error error, index)
    | _ => (.ok index.notifiers.length, { index with notifiers := index.notifiers ++ [{}] })
  subscribe handle listener index :=
    let (subscription, notifier) := (index.notifier handle).subscribe (some listener)
    (subscription, (index.note .subscribe).setNotifier handle notifier)
  unsubscribe handle subscription index :=
    let index := index.note .unsubscribe
    if index.leaky then index
    else index.setNotifier handle ((index.notifier handle).unsubscribe subscription)
  start handle _ index := index.start handle
  startError _ index := index.startError
  stop _ _ index := index.note .stop
  resultCount _ _ index := (index.count, index.note .resultCount)
  resultAt _ position _ index :=
    ((index.records[position]?).bind id, index.note (.resultAt position))
  wake handle _ index := index.notify handle

end Rehearsal

end FileSearch
