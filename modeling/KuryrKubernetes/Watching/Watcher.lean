import KuryrKubernetes.Data.Dict
import KuryrKubernetes.Transition.Run

/-!
# The watcher

`Watcher` with a thread group runs one `_watch` loop for each resource, on a thread of
its own.  The operations `add`, `remove`, `start` and `stop` and the loops change the
same two maps, `_watching` and `_idle`.  Killing a thread raises `GreenletExit` where
the thread stands and hands control over, so that `stop` and `remove` go on with the
entries of the killed path and with the remaining paths in a later step.  A thread that
has not begun dies without running any of `_watch`.  `client.watch` never comes to an
end by itself: it yields events or raises.
-/

namespace KuryrKubernetes.Watching

open KuryrKubernetes.Data
open KuryrKubernetes.Transition

/-- Where a thread of `_watch` stands. -/
inductive Place where
  | unstarted
  | watching
  | handling
  | sleeping
  | finished
  deriving DecidableEq

/-- A thread of the thread group, running `_watch(path)`. -/
structure Loop where
  path : String
  place : Place
  deriving DecidableEq

/-- A call of `stop` or `remove` that waits after a kill: the path whose loop it has
killed and the paths it has not come to. -/
structure Call where
  killed : String
  rest : List String
  deriving DecidableEq

/-- Why `_graceful_watch_exit` ran when it exited the process. -/
inductive Cause where
  | deadlineExceeded
  | requested
  deriving DecidableEq

/-- The watcher with the threads it has added, named by their positions, and the calls
underway.  `exited` is set by `sys.exit(1)`. -/
structure Watcher where
  running : Bool := false
  resources : List String := []
  watching : Dict String Nat := ∅
  idle : Dict String Bool := ∅
  alive : Bool := true
  loops : List Loop := []
  calls : List Call := []
  exited : Option Cause := none
  deriving DecidableEq

namespace Watcher

/-- `self._running and path in self._resources`. -/
def wanted (watcher : Watcher) (path : String) : Bool :=
  watcher.running && watcher.resources.contains path

/-- Where a thread stands. -/
def place? (watcher : Watcher) (thread : Nat) : Option Place :=
  (watcher.loops[thread]?).map Loop.place

/-- A thread goes to another place. -/
def moved (watcher : Watcher) (thread : Nat) (place : Place) : Watcher :=
  { watcher with
    loops := watcher.loops.modify thread fun loop => { loop with place := place } }

/-- `self._idle[path] = idle`. -/
def marked (watcher : Watcher) (path : String) (idle : Bool) : Watcher :=
  { watcher with idle := watcher.idle.set path idle }

/-- Both entries of a path are popped. -/
def forget (watcher : Watcher) (path : String) : Watcher :=
  { watcher with
    watching := watcher.watching.erase path
    idle := watcher.idle.erase path }

/-- `_start_watch`. -/
def startWatch (watcher : Watcher) (path : String) : Watcher :=
  { watcher with
    idle := watcher.idle.set path true
    watching := watcher.watching.set path watcher.loops.length
    loops := watcher.loops ++ [⟨path, .unstarted⟩] }

/-- `_start_watch` for a path that is not in `_watching`. -/
def ensureWatch (watcher : Watcher) (path : String) : Watcher :=
  if path ∈ watcher.watching then watcher else watcher.startWatch path

/-- `_graceful_watch_exit`.  The `stop` inside finds no path to stop. -/
def gracefulWatchExit (watcher : Watcher) (path : String) (cause : Cause) : Watcher :=
  let left := watcher.forget path
  if left.watching = ∅ ∧ left.idle = ∅ then
    { left with running := false, exited := some cause }
  else
    left

/-- `Thread.stop`: the `finally` of `_watch` runs if the thread is inside its `try`. -/
def kill (watcher : Watcher) (thread : Nat) : Watcher :=
  match watcher.loops[thread]? with
  | none => watcher
  | some ⟨_, .finished⟩ => watcher
  | some ⟨_, .unstarted⟩ => watcher.moved thread .finished
  | some ⟨path, _⟩ => (watcher.moved thread .finished).gracefulWatchExit path .requested

/-- `_stop_watch` for one path after the other, up to a kill. -/
def stopWatches (watcher : Watcher) : List String → Watcher
  | [] => watcher
  | path :: rest =>
      match watcher.idle.getD path false, watcher.watching.get? path with
      | true, some thread =>
          { watcher.kill thread with calls := watcher.calls ++ [⟨path, rest⟩] }
      | _, _ => watcher.stopWatches rest

/-- `add`. -/
def add (watcher : Watcher) (path : String) : Watcher :=
  let listed := { watcher with resources := watcher.resources.insert path }
  if listed.running then listed.ensureWatch path else listed

/-- `remove`, up to the kill. -/
def remove (watcher : Watcher) (path : String) : Watcher :=
  let delisted := { watcher with resources := watcher.resources.filter (· != path) }
  if path ∈ delisted.watching then delisted.stopWatches [path] else delisted

/-- `start`.  A path that is started has no second turn. -/
def start (watcher : Watcher) : Watcher :=
  watcher.resources.foldl ensureWatch { watcher with running := true }

/-- `stop`, up to the first kill. -/
def stop (watcher : Watcher) : Watcher :=
  { watcher with running := false }.stopWatches watcher.watching.keys

/-- A waiting call goes on: it pops what the kill has left and comes to the next path. -/
def resume (watcher : Watcher) (call : Call) : Watcher :=
  ({ watcher with calls := watcher.calls.erase call }.forget call.killed).stopWatches call.rest

/-! ## The loop -/

/-- The head of the `while` of `_watch`. -/
def nextRound (watcher : Watcher) (thread : Nat) (path : String) (entered : Place) : Watcher :=
  watcher.moved thread (if watcher.wanted path then entered else .finished)

/-- The handler returns; `_watch` returns inside its `try` if it is no longer wanted. -/
def handled (watcher : Watcher) (thread : Nat) (path : String) : Watcher :=
  let idling := watcher.marked path true
  if idling.wanted path then
    idling.moved thread .watching
  else
    (idling.moved thread .finished).gracefulWatchExit path .requested

/-- `except Exception` and the next round. -/
def failed (watcher : Watcher) (thread : Nat) (path : String) : Watcher :=
  (watcher.marked path true).nextRound thread path .sleeping

/-- `exponential_sleep` returns `0`. -/
def deadlineExceeded (watcher : Watcher) (thread : Nat) (path : String) : Watcher :=
  ({ watcher with alive := false }.moved thread .finished).gracefulWatchExit path
    .deadlineExceeded

end Watcher

/-! ## Interleavings -/

/-- What a thread does up to the next point where it blocks. -/
inductive Action where
  | begins
  | event
  | handled
  | raises
  | slept
  | deadlineExceeded
  deriving DecidableEq

/-- One step: an operation is called, a waiting call goes on, or a thread runs. -/
inductive Label where
  | add (path : String)
  | remove (path : String)
  | start
  | stop
  | resume (call : Call)
  | loop (thread : Nat) (action : Action)
  deriving DecidableEq

/-- A thread of `_watch(path)` runs. -/
def loopStep (watcher : Watcher) (thread : Nat) (path : String) :
    Place → Action → Option Watcher
  | .unstarted, .begins => some (watcher.nextRound thread path .watching)
  | .watching, .event => some ((watcher.marked path false).moved thread .handling)
  | .handling, .handled => some (watcher.handled thread path)
  | .watching, .raises => some (watcher.failed thread path)
  | .handling, .raises => some (watcher.failed thread path)
  | .sleeping, .slept => some (watcher.moved thread .watching)
  | .sleeping, .deadlineExceeded => some (watcher.deadlineExceeded thread path)
  | _, _ => none

/-- One step of a process that has not exited. -/
def step (watcher : Watcher) (label : Label) : Option Watcher :=
  if watcher.exited.isSome then none
  else
    match label with
    | .add path => some (watcher.add path)
    | .remove path => some (watcher.remove path)
    | .start => some watcher.start
    | .stop => some watcher.stop
    | .resume call => if call ∈ watcher.calls then some (watcher.resume call) else none
    | .loop thread action =>
        watcher.loops[thread]?.bind fun loop =>
          loopStep watcher thread loop.path loop.place action

end KuryrKubernetes.Watching
