import FileSearch.Index.Backend

set_option autoImplicit false

namespace FileSearch

inductive HandleStep where
  | subscribe (label : String)
  | unsubscribe (position : Nat)
  | start
  | startError
  | stop
  | count
  | record (index : Nat)
  | paths
  | sleep (ms : Nat)
  | waitFired

inductive HandleResult where
  | nothing
  | accepted (value : Bool)
  | reason (text? : Option String)
  | count (value : Nat)
  | record (record? : Option RawRecord)
  | paths (values : List String)

structure HandleSession (W : Type) where
  handle : Nat
  world : W
  now : Nat := 0
  alarms : List Alarm := []
  subscriptions : List Nat := []
  fired : List String := []

namespace HandleSession

variable {W : Type} (backend : Backend String W)

def start (plan : Plan) (world : W) : Except SearchError (HandleSession W) :=
  match backend.prepare plan world with
  | (.ok handle, world) => .ok { handle, world }
  | (.error error, _) => .error error

def noteSignals (session : HandleSession W) (signals : List (Signal String)) : HandleSession W :=
  { session with
    fired := session.fired ++ signals.filterMap fun signal => match signal with
      | .fired label => some label
      | .lost _ => none }

def ring (time : Nat) : Nat → HandleSession W → HandleSession W
  | 0, session => session
  | fuel + 1, session =>
    match session.alarms with
    | [] => session
    | alarm :: rest =>
      if alarm.due ≤ time then
        let now := max session.now alarm.due
        let (signals, world) := backend.wake alarm.handle now session.world
        ring time fuel ({ session with world, now, alarms := rest }.noteSignals signals)
      else session

def runUntil (session : HandleSession W) (time : Nat) : HandleSession W :=
  let session := ring backend time session.alarms.length session
  { session with now := max session.now time }

def readPaths (session : HandleSession W) : (index left : Nat) → List String × HandleSession W
  | _, 0 => ([], session)
  | index, left + 1 =>
    let (record?, world) := backend.resultAt session.handle index session.now session.world
    let (paths, session) := readPaths { session with world } (index + 1) left
    match record?.bind fun record => record.text .path with
    | some path => (path :: paths, session)
    | none => (paths, session)

def takeStep (session : HandleSession W) : HandleStep → HandleResult × HandleSession W
  | .subscribe label =>
    let (number, world) := backend.subscribe session.handle label session.world
    (.nothing, { session with world, subscriptions := session.subscriptions ++ [number] })
  | .unsubscribe position =>
    match session.subscriptions[position]? with
    | some number =>
      (.nothing,
        { session with world := backend.unsubscribe session.handle number session.world })
    | none => (.nothing, session)
  | .start =>
    let (started, world) := backend.start session.handle session.now session.world
    let alarms := Alarm.schedule session.handle session.now started.alarm? session.alarms
    (.accepted started.accepted,
      { session with world, alarms }.noteSignals started.signals)
  | .startError =>
    let (reason?, world) := backend.startError session.handle session.world
    (.reason reason?, { session with world })
  | .stop =>
    (.nothing, { session with world := backend.stop session.handle session.now session.world })
  | .count =>
    let (count, world) := backend.resultCount session.handle session.now session.world
    (.count count, { session with world })
  | .record index =>
    let (record?, world) := backend.resultAt session.handle index session.now session.world
    (.record record?, { session with world })
  | .paths =>
    let (count, world) := backend.resultCount session.handle session.now session.world
    let (paths, session) := readPaths backend { session with world } 0 count
    (.paths paths, session)
  | .sleep ms => (.nothing, session.runUntil backend (session.now + ms))
  | .waitFired => (.nothing, session)

def step (session : HandleSession W) (step : HandleStep) : HandleResult × HandleSession W :=
  let (result, session) := session.takeStep backend step
  (result, session.runUntil backend session.now)

end HandleSession

end FileSearch
