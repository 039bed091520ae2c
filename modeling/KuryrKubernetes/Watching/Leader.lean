import KuryrKubernetes.Watching.Watcher
import Mathlib.Logic.Function.Basic

/-!
# The leader's watcher

In HA mode `KuryrK8sService` asks the elector every few seconds who the leader is, and
starts or stops its watcher accordingly.  `monitor_leader` waits in `sync_pools` after a
`start`, and at the kills of a `stop`; it notes the leader only when it comes to its end,
and the timer does not call it again before.  The threads of the watcher run meanwhile.
What `sync_pools` raises is logged by the periodic task.
-/

namespace KuryrKubernetes.Watching

open KuryrKubernetes.Data
open KuryrKubernetes.Transition

/-- Where `monitor_leader` waits, with the name that the elector has given. -/
inductive Monitor where
  | waiting
  | syncing (leader : String)
  | stopping (leader : Option String)
  deriving DecidableEq

/-- The controller of one node. -/
structure Service where
  nodeName : String
  watcher : Watcher := {}
  currentLeader : Option String := none
  monitor : Monitor := .waiting
  deriving DecidableEq

namespace Service

/-- `__init__`: the paths of the handlers are added to the watcher. -/
def create (nodeName : String) (paths : List String) : Service :=
  { nodeName, watcher := paths.foldl Watcher.add {} }

/-- `is_leader`. -/
def isLeader (service : Service) : Bool :=
  service.currentLeader = some service.nodeName

/-- `self.current_leader = leader`, the end of `monitor_leader`. -/
def heard (service : Service) (leader : Option String) : Service :=
  { service with currentLeader := leader, monitor := .waiting }

/-- `on_become_leader`, up to `sync_pools`. -/
def onBecomeLeader (service : Service) (leader : String) : Service :=
  { service with watcher := service.watcher.start, monitor := .syncing leader }

/-- `on_revoke_leader`, up to the first kill of `stop`. -/
def onRevokeLeader (service : Service) (leader : Option String) : Service :=
  if service.watcher.running then
    { service with watcher := service.watcher.stop, monitor := .stopping leader }
  else
    service.heard leader

/-- `on_continue_leader`. -/
def onContinueLeader (service : Service) : Service :=
  if service.watcher.running then
    service
  else
    { service with watcher := service.watcher.start }

/-- `monitor_leader`, up to where it waits. -/
def monitorLeader (service : Service) : Option String → Service
  | none => service.onRevokeLeader none
  | some leader =>
      if some leader ≠ service.currentLeader ∧ leader = service.nodeName then
        service.onBecomeLeader leader
      else if some leader ≠ service.currentLeader ∧ service.isLeader then
        service.onRevokeLeader (some leader)
      else if some leader = service.currentLeader ∧ service.isLeader then
        service.onContinueLeader.heard (some leader)
      else
        service.heard (some leader)

end Service

/-- The timer asks the elector, `sync_pools` returns or raises, `stop` has come to its
end, a waiting `stop` goes on, or a thread of the watcher runs. -/
inductive ServiceLabel where
  | asked (leader : Option String)
  | synced
  | syncFailed
  | stopped
  | resume (call : Call)
  | loop (thread : Nat) (action : Action)
  deriving DecidableEq

/-- A step of the watcher. -/
def Service.watch (service : Service) (label : Label) : Option Service :=
  (step service.watcher label).map fun watcher => { service with watcher }

/-- One step of a controller whose process has not exited. -/
def serviceStep (service : Service) (label : ServiceLabel) : Option Service :=
  if service.watcher.exited.isSome then none
  else
    match label, service.monitor with
    | .asked leader, .waiting => some (service.monitorLeader leader)
    | .synced, .syncing leader => some (service.heard (some leader))
    | .syncFailed, .syncing _ => some { service with monitor := .waiting }
    | .stopped, .stopping leader =>
        if service.watcher.calls = [] then some (service.heard leader) else none
    | .resume call, _ => service.watch (.resume call)
    | .loop thread action, _ => service.watch (.loop thread action)
    | _, _ => none

/-! ## The watcher runs on -/

namespace Watcher

variable {watcher after : Watcher} {path : String} {thread : Nat}

/-- Unless the process exits, the watcher is running afterwards as before. -/
def RunsOn (watcher after : Watcher) : Prop :=
  after.exited = none → after.running = watcher.running

theorem runsOn_gracefulWatchExit (watcher : Watcher) (path : String) (cause : Cause) :
    watcher.RunsOn (watcher.gracefulWatchExit path cause) := by
  intro alive
  simp only [gracefulWatchExit] at alive ⊢
  split at alive
  · cases alive
  · rename_i left
    rw [if_neg left]
    rfl

theorem runsOn_kill (watcher : Watcher) (thread : Nat) :
    watcher.RunsOn (watcher.kill thread) := by
  unfold kill
  split
  · exact fun _ => rfl
  · exact fun _ => rfl
  · exact fun _ => rfl
  · exact runsOn_gracefulWatchExit _ _ _

/-- `_stop_watch` leaves `_running` to `stop`. -/
theorem runsOn_stopWatches (watcher : Watcher) (paths : List String) :
    watcher.RunsOn (watcher.stopWatches paths) := by
  induction paths with
  | nil => exact fun _ => rfl
  | cons path rest ih =>
      unfold stopWatches
      split
      · exact runsOn_kill watcher _
      · exact ih

theorem running_stop (alive : watcher.stop.exited = none) : watcher.stop.running = false :=
  runsOn_stopWatches { watcher with running := false } watcher.watching.keys alive

theorem running_ensureWatch (watcher : Watcher) (path : String) :
    (watcher.ensureWatch path).running = watcher.running := by
  unfold ensureWatch
  split <;> rfl

theorem running_foldl_ensureWatch (watcher : Watcher) (paths : List String) :
    (paths.foldl ensureWatch watcher).running = watcher.running := by
  induction paths generalizing watcher with
  | nil => rfl
  | cons path rest ih => simp [ih, running_ensureWatch]

@[simp]
theorem running_start (watcher : Watcher) : watcher.start.running = true :=
  running_foldl_ensureWatch _ _

theorem running_foldl_add (paths : List String) (stopped : watcher.running = false) :
    (paths.foldl add watcher).running = false := by
  induction paths generalizing watcher with
  | nil => exact stopped
  | cons path rest ih =>
      apply ih
      simp [add, stopped]

theorem runsOn_loopStep {place : Place} {action : Action}
    (taken : loopStep watcher thread path place action = some after) : watcher.RunsOn after := by
  cases place <;> cases action <;> cases taken
  case unstarted.begins => exact fun _ => rfl
  case watching.event => exact fun _ => rfl
  case watching.raises => exact fun _ => rfl
  case handling.handled =>
      simp only [handled]
      split
      · exact fun _ => rfl
      · exact runsOn_gracefulWatchExit ((watcher.marked path true).moved thread .finished) _ _
  case handling.raises => exact fun _ => rfl
  case sleeping.slept => exact fun _ => rfl
  case sleeping.deadlineExceeded =>
      exact runsOn_gracefulWatchExit (({ watcher with alive := false } : Watcher).moved thread
        .finished) _ _

end Watcher

/-- Neither the waiting calls nor the threads change whether the watcher runs. -/
theorem runsOn_step {watcher after : Watcher} {label : Label}
    (own : (∃ call, label = .resume call) ∨ ∃ thread action, label = .loop thread action)
    (taken : step watcher label = some after) : watcher.RunsOn after := by
  unfold step at taken
  split at taken
  · cases taken
  rcases own with ⟨call, rfl⟩ | ⟨thread, action, rfl⟩
  · obtain ⟨_, same⟩ := Option.ite_none_right_eq_some.mp taken
    cases same
    exact Watcher.runsOn_stopWatches _ call.rest
  · obtain ⟨loop, _, continued⟩ := Option.bind_eq_some_iff.mp taken
    exact Watcher.runsOn_loopStep continued

/-! ## One controller -/

/-- Whether a start whose `sync_pools` raised is still to be undone, as far as the labels
tell: the next answer without a name undoes it, and the next sync makes up for it. -/
def leftRunning : Bool → ServiceLabel → Bool
  | _, .syncFailed => true
  | _, .synced => false
  | _, .asked none => false
  | left, _ => left

/-- What the steps keep about the watcher and the leader last heard of. -/
structure Service.Sound (service : Service) (left : Bool) : Prop where
  notNoted : left = true → service.currentLeader ≠ some service.nodeName
  waits : service.monitor = .waiting → service.watcher.exited = none →
    (service.watcher.running = true ↔ service.isLeader = true ∨ left = true)
  syncs : ∀ leader, service.monitor = .syncing leader →
    leader = service.nodeName ∧ service.isLeader = false ∧
      (service.watcher.exited = none → service.watcher.running = true)
  stops : ∀ leader, service.monitor = .stopping leader →
    leader ≠ some service.nodeName ∧ left = false ∧
      (service.watcher.exited = none → service.watcher.running = false)

namespace Service

variable {service after : Service} {left : Bool}

theorem sound_create (nodeName : String) (paths : List String) :
    (create nodeName paths).Sound false := by
  have stopped : (create nodeName paths).watcher.running = false :=
    Watcher.running_foldl_add paths rfl
  constructor
  · simp
  · intro _ _
    rw [stopped]
    simp [isLeader, create]
  · simp [create]
  · simp [create]

/-- A name that is not the node's own is noted at once or after a stop. -/
theorem sound_heard {leader : Option String} (differs : leader ≠ some service.nodeName)
    (runs : service.watcher.exited = none → (service.watcher.running = true ↔ left = true)) :
    (service.heard leader).Sound left := by
  constructor
  · exact fun _ => differs
  · intro _ alive
    simpa [heard, isLeader, differs] using runs alive
  · simp [heard]
  · simp [heard]

/-- The node's own name is noted while the watcher runs. -/
theorem sound_heard_own (runs : service.watcher.running = true) :
    (service.heard (some service.nodeName)).Sound false := by
  constructor
  · simp
  · simp [heard, isLeader, runs]
  · simp [heard]
  · simp [heard]

theorem sound_onRevokeLeader {leader : Option String} (differs : leader ≠ some service.nodeName) :
    (service.onRevokeLeader leader).Sound false := by
  unfold onRevokeLeader
  split
  · constructor
    · simp
    · simp
    · simp
    · rintro _ ⟨⟩
      exact ⟨differs, rfl, Watcher.running_stop⟩
  · rename_i stopped
    apply sound_heard differs
    simp [stopped]

theorem sound_onBecomeLeader (sound : service.Sound left)
    (other : service.isLeader = false) :
    (service.onBecomeLeader service.nodeName).Sound left := by
  constructor
  · exact sound.notNoted
  · simp [onBecomeLeader]
  · rintro _ ⟨⟩
    exact ⟨rfl, other, fun _ => Watcher.running_start service.watcher⟩
  · simp [onBecomeLeader]

theorem running_onContinueLeader (service : Service) :
    service.onContinueLeader.watcher.running = true := by
  unfold onContinueLeader
  split
  · assumption
  · exact Watcher.running_start service.watcher

theorem nodeName_onContinueLeader (service : Service) :
    service.onContinueLeader.nodeName = service.nodeName := by
  unfold onContinueLeader
  split <;> rfl

/-- `monitor_leader` is called. -/
theorem sound_monitorLeader (sound : service.Sound left) (waits : service.monitor = .waiting)
    (alive : service.watcher.exited = none) (leader : Option String) :
    (service.monitorLeader leader).Sound (leftRunning left (.asked leader)) := by
  have runs := sound.waits waits alive
  cases leader with
  | none => exact sound_onRevokeLeader (by simp)
  | some leader =>
      simp only [monitorLeader, leftRunning]
      split_ifs with becomes revoked continues
      · obtain ⟨changed, rfl⟩ := becomes
        apply sound_onBecomeLeader sound
        simpa [isLeader] using Ne.symm changed
      · -- the node was the leader, so no failed start is left behind
        obtain ⟨changed, leads⟩ := revoked
        have none_left : left = false := by
          by_contra kept
          exact sound.notNoted (by simpa using kept) (by simpa [isLeader] using leads)
        rw [none_left]
        apply sound_onRevokeLeader
        rintro ⟨⟩
        exact becomes ⟨changed, rfl⟩
      · obtain ⟨same, leads⟩ := continues
        have own : some leader = some service.nodeName := by
          rw [same]
          simpa [isLeader] using leads
        have none_left : left = false := by
          by_contra kept
          exact sound.notNoted (by simpa using kept) (by simpa [isLeader] using leads)
        rw [none_left, own, ← nodeName_onContinueLeader]
        exact sound_heard_own service.running_onContinueLeader
      · -- another node leads, and led before or was not known to
        have other : service.isLeader = false := by
          by_contra leads
          have leads : service.isLeader = true := by simpa using leads
          by_cases same : some leader = service.currentLeader
          · exact continues ⟨same, leads⟩
          · exact revoked ⟨same, leads⟩
        apply sound_heard
        · rintro ⟨⟩
          apply becomes
          constructor
          · rintro same
            simp [isLeader, ← same] at other
          · rfl
        · simp [runs, other]

/-- The watcher takes a step of its own. -/
theorem sound_watch {label : Label} (sound : service.Sound left)
    (alive : service.watcher.exited = none)
    (own : (∃ call, label = .resume call) ∨ ∃ thread action, label = .loop thread action)
    (taken : service.watch label = some after) : after.Sound left := by
  obtain ⟨watcher, stepped, rfl⟩ := Option.map_eq_some_iff.mp taken
  have runsOn := runsOn_step own stepped
  constructor
  · exact sound.notNoted
  · intro waits stays
    rw [runsOn stays]
    exact sound.waits waits alive
  · intro leader syncs
    obtain ⟨same, other, runs⟩ := sound.syncs leader syncs
    exact ⟨same, other, fun stays => (runsOn stays).trans (runs alive)⟩
  · intro leader stops
    obtain ⟨differs, none_left, runs⟩ := sound.stops leader stops
    exact ⟨differs, none_left, fun stays => (runsOn stays).trans (runs alive)⟩

end Service

/-- One step of a controller. -/
theorem Service.Sound.step {service after : Service} {left : Bool} {label : ServiceLabel}
    (sound : service.Sound left) (taken : serviceStep service label = some after) :
    after.Sound (leftRunning left label) := by
  unfold serviceStep at taken
  split at taken
  · cases taken
  rename_i goesOn
  have alive : service.watcher.exited = none := by
    simpa using goesOn
  split at taken
  case h_1 leader waits =>
      cases taken
      exact Service.sound_monitorLeader sound waits alive leader
  case h_2 leader syncs =>
      cases taken
      obtain ⟨rfl, _, runs⟩ := sound.syncs leader syncs
      exact Service.sound_heard_own (runs alive)
  case h_3 leader syncs =>
      cases taken
      obtain ⟨_, other, runs⟩ := sound.syncs leader syncs
      constructor
      · intro _
        simpa [Service.isLeader] using other
      · simp [leftRunning, runs alive]
      · simp
      · simp
  case h_4 leader stops =>
      obtain ⟨_, same⟩ := Option.ite_none_right_eq_some.mp taken
      cases same
      obtain ⟨differs, rfl, stopped⟩ := sound.stops leader stops
      apply Service.sound_heard differs
      simp [stopped alive, leftRunning]
  case h_5 call => exact Service.sound_watch sound alive (.inl ⟨call, rfl⟩) taken
  case h_6 thread action => exact Service.sound_watch sound alive (.inr ⟨thread, action, rfl⟩) taken
  case h_7 => cases taken

/-- All steps of a run. -/
theorem Service.Sound.run {service after : Service} {left : Bool} {labels : List ServiceLabel}
    (sound : service.Sound left) (ran : Transition.run serviceStep labels service = some after) :
    after.Sound (labels.foldl leftRunning left) := by
  induction labels generalizing service left with
  | nil =>
      cases ran
      exact sound
  | cons label rest ih =>
      obtain ⟨middle, taken, remaining⟩ := Option.bind_eq_some_iff.mp ran
      exact ih (sound.step taken) remaining

/-- In every run of a controller, whatever the elector answers and the threads of the
watcher do: whenever `monitor_leader` is not underway, the watcher is running exactly if
the node is the leader last heard of, or a start whose `sync_pools` raised has not been
undone by an answer without a name. -/
theorem watcher_runs_iff {nodeName : String} {paths : List String} {labels : List ServiceLabel}
    {service : Service}
    (ran : Transition.run serviceStep labels (Service.create nodeName paths) = some service)
    (waits : service.monitor = .waiting) (alive : service.watcher.exited = none) :
    service.watcher.running = true ↔
      service.isLeader = true ∨ labels.foldl leftRunning false = true :=
  ((Service.sound_create nodeName paths).run ran).waits waits alive

/-- The node becomes the leader, the sync fails, and another node takes over. -/
theorem watcher_runs_iff_abandoned :
    ∃ service, Transition.run serviceStep
        [.asked (some "node-1"), .loop 0 .begins, .syncFailed, .asked (some "node-2")]
        (Service.create "node-1" ["/api/v1/pods"]) = some service ∧
      service.isLeader = false ∧ service.watcher.running = true := by
  rcases ran : Transition.run serviceStep
      [.asked (some "node-1"), .loop 0 .begins, .syncFailed, .asked (some "node-2")]
      (Service.create "node-1" ["/api/v1/pods"]) with _ | service
  · exact absurd ran (by decide +kernel)
  have ends : (Transition.run serviceStep
      [.asked (some "node-1"), .loop 0 .begins, .syncFailed, .asked (some "node-2")]
      (Service.create "node-1" ["/api/v1/pods"])).all (fun service =>
        service.monitor = .waiting ∧ service.watcher.exited = none ∧ service.isLeader = false) =
      true := by
    decide +kernel
  rw [ran, Option.all_some] at ends
  obtain ⟨waits, alive, other⟩ := of_decide_eq_true ends
  exact ⟨service, rfl, other, (watcher_runs_iff ran waits alive).mpr (.inr rfl)⟩

/-! ## The controllers of a cluster -/

theorem nodeName_monitorLeader (service : Service) (leader : Option String) :
    (service.monitorLeader leader).nodeName = service.nodeName := by
  cases leader with
  | none =>
      simp only [Service.monitorLeader, Service.onRevokeLeader]
      split <;> rfl
  | some leader =>
      simp only [Service.monitorLeader, Service.onRevokeLeader, Service.onContinueLeader]
      split_ifs <;> rfl

theorem nodeName_step {service after : Service} {label : ServiceLabel}
    (taken : serviceStep service label = some after) : after.nodeName = service.nodeName := by
  unfold serviceStep at taken
  split at taken
  · cases taken
  split at taken
  case h_1 leader _ =>
      cases taken
      exact nodeName_monitorLeader service leader
  case h_4 =>
      obtain ⟨_, same⟩ := Option.ite_none_right_eq_some.mp taken
      cases same
      rfl
  case h_5 | h_6 =>
      obtain ⟨_, _, same⟩ := Option.map_eq_some_iff.mp taken
      cases same
      rfl
  all_goals
      cases taken
      try rfl

theorem nodeName_of_run {service after : Service} {labels : List ServiceLabel}
    (ran : Transition.run serviceStep labels service = some after) :
    after.nodeName = service.nodeName := by
  induction labels generalizing service with
  | nil =>
      cases ran
      rfl
  | cons label rest ih =>
      obtain ⟨middle, taken, remaining⟩ := Option.bind_eq_some_iff.mp ran
      rw [ih remaining, nodeName_step taken]

/-- What `monitor_leader` has heard since it first asked: a name that the elector may
give, if no failed start is left behind. -/
structure Service.Heard (service : Service) (left : Bool) (may : Option String → Prop) :
    Prop where
  noted : service.monitor = .waiting → left = false → may service.currentLeader
  syncs : ∀ leader, service.monitor = .syncing leader → may (some leader)
  stops : ∀ leader, service.monitor = .stopping leader → may leader

/-- The elector gives only names of which `may` holds. -/
def ServiceLabel.Answers (may : Option String → Prop) : ServiceLabel → Prop
  | .asked leader => may leader
  | _ => True

namespace Service

variable {service after : Service} {left : Bool} {may : Option String → Prop}

theorem heard_heard {leader : Option String} (answered : may leader) :
    (service.heard leader).Heard left may := by
  constructor
  · exact fun _ _ => answered
  · simp [heard]
  · simp [heard]

theorem heard_onRevokeLeader {leader : Option String} (answered : may leader) :
    (service.onRevokeLeader leader).Heard left may := by
  unfold onRevokeLeader
  split
  · constructor
    · simp
    · simp
    · rintro _ ⟨⟩
      exact answered
  · exact heard_heard answered

/-- Once asked, the elector's answer is all that counts. -/
theorem heard_monitorLeader {leader : Option String} (answered : may leader) :
    (service.monitorLeader leader).Heard left may := by
  cases leader with
  | none => exact heard_onRevokeLeader answered
  | some leader =>
      simp only [monitorLeader]
      split_ifs
      · constructor
        · simp [onBecomeLeader]
        · rintro _ ⟨⟩
          exact answered
        · simp [onBecomeLeader]
      · exact heard_onRevokeLeader answered
      · exact heard_heard answered
      · exact heard_heard answered

theorem heard_watch {label : Label} (heard : service.Heard left may)
    (taken : service.watch label = some after) : after.Heard left may := by
  obtain ⟨watcher, _, rfl⟩ := Option.map_eq_some_iff.mp taken
  exact ⟨heard.noted, heard.syncs, heard.stops⟩

end Service

theorem Service.Heard.step {service after : Service} {left : Bool} {may : Option String → Prop}
    {label : ServiceLabel} (heard : service.Heard left may) (answers : label.Answers may)
    (taken : serviceStep service label = some after) :
    after.Heard (leftRunning left label) may := by
  unfold serviceStep at taken
  split at taken
  · cases taken
  split at taken
  case h_1 =>
      cases taken
      exact Service.heard_monitorLeader answers
  case h_2 leader syncs =>
      cases taken
      exact Service.heard_heard (heard.syncs leader syncs)
  case h_3 =>
      cases taken
      constructor <;> simp [leftRunning]
  case h_4 leader stops =>
      obtain ⟨_, same⟩ := Option.ite_none_right_eq_some.mp taken
      cases same
      exact Service.heard_heard (heard.stops leader stops)
  case h_5 => exact Service.heard_watch heard taken
  case h_6 => exact Service.heard_watch heard taken
  case h_7 => cases taken

theorem Service.Heard.run {service after : Service} {left : Bool} {may : Option String → Prop}
    {labels : List ServiceLabel} (heard : service.Heard left may)
    (answers : ∀ label ∈ labels, label.Answers may)
    (ran : Transition.run serviceStep labels service = some after) :
    after.Heard (labels.foldl leftRunning left) may := by
  induction labels generalizing service left with
  | nil =>
      cases ran
      exact heard
  | cons label rest ih =>
      obtain ⟨middle, taken, remaining⟩ := Option.bind_eq_some_iff.mp ran
      apply ih (heard.step (answers label List.mem_cons_self) taken)
      · exact fun other member => answers other (List.mem_cons_of_mem label member)
      · exact remaining

/-- A controller that has asked during a run has heard what the elector gives during the
run, whatever it had heard before. -/
theorem heard_of_asked (left : Bool) (may : Option String → Prop) {service after : Service}
    {labels : List ServiceLabel} {leader : Option String} (asked : .asked leader ∈ labels)
    (answers : ∀ label ∈ labels, label.Answers may)
    (ran : Transition.run serviceStep labels service = some after) :
    after.Heard (labels.foldl leftRunning left) may := by
  obtain ⟨earlier, later, rfl⟩ := List.append_of_mem asked
  clear asked
  induction earlier generalizing service left with
  | nil =>
      obtain ⟨middle, taken, remaining⟩ := Option.bind_eq_some_iff.mp ran
      have heard : middle.Heard (leftRunning left (.asked leader)) may := by
        unfold serviceStep at taken
        split at taken
        · cases taken
        split at taken
        all_goals simp_all only [Option.some.injEq, reduceCtorEq]
        subst middle
        exact Service.heard_monitorLeader (answers (.asked _) List.mem_cons_self)
      apply heard.run
      · exact fun other member => answers other (List.mem_cons_of_mem _ member)
      · exact remaining
  | cons label rest ih =>
      obtain ⟨middle, _, remaining⟩ := Option.bind_eq_some_iff.mp ran
      apply ih
      · exact fun other member => answers other (List.mem_cons_of_mem label member)
      · exact remaining

/-- The controllers of all nodes and the node that holds the lock of the election. -/
structure Controllers where
  holder : Option String
  services : String → Service

/-- The lock changes hands, or the controller of a node takes a step. -/
inductive ControllersLabel where
  | elected (holder : Option String)
  | at (nodeName : String) (label : ServiceLabel)
  deriving DecidableEq

/-- The elector of each node names the holder, or cannot be reached. -/
def ServiceLabel.mayHear (holder : Option String) : ServiceLabel → Bool
  | .asked leader => leader = none || leader = holder
  | _ => true

/-- One step of the cluster. -/
def controllersStep (controllers : Controllers) : ControllersLabel → Option Controllers
  | .elected holder => some { controllers with holder }
  | .at nodeName label =>
      if label.mayHear controllers.holder then
        (serviceStep (controllers.services nodeName) label).map fun service =>
          { controllers with services := Function.update controllers.services nodeName service }
      else
        none

/-- No controller has been started yet. -/
def Controllers.create (paths : List String) : Controllers where
  holder := none
  services nodeName := .create nodeName paths

/-- What one node does in a run. -/
def labelsAt (nodeName : String) (labels : List ControllersLabel) : List ServiceLabel :=
  labels.filterMap fun
    | .elected _ => none
    | .at other label => if other = nodeName then some label else none

theorem labelsAt_append (nodeName : String) (labels more : List ControllersLabel) :
    labelsAt nodeName (labels ++ more) = labelsAt nodeName labels ++ labelsAt nodeName more :=
  List.filterMap_append

theorem mem_labelsAt {nodeName : String} {labels : List ControllersLabel}
    {label : ServiceLabel} : label ∈ labelsAt nodeName labels ↔ .at nodeName label ∈ labels := by
  simp only [labelsAt, List.mem_filterMap]
  constructor
  · rintro ⟨holder | ⟨other, own⟩, member, same⟩
    · cases same
    · simp only [Option.ite_none_right_eq_some, Option.some.injEq] at same
      obtain ⟨rfl, rfl⟩ := same
      exact member
  · intro member
    exact ⟨_, member, by simp⟩

/-- Each node runs for itself. -/
theorem run_at {controllers after : Controllers} {labels : List ControllersLabel}
    (ran : Transition.run controllersStep labels controllers = some after) (nodeName : String) :
    Transition.run serviceStep (labelsAt nodeName labels) (controllers.services nodeName) =
      some (after.services nodeName) := by
  induction labels generalizing controllers with
  | nil =>
      cases ran
      rfl
  | cons label rest ih =>
      obtain ⟨middle, taken, remaining⟩ := Option.bind_eq_some_iff.mp ran
      have later := ih remaining
      cases label with
      | elected holder =>
          cases taken
          exact later
      | «at» other label =>
          obtain ⟨_, taken⟩ := Option.ite_none_right_eq_some.mp taken
          obtain ⟨service, stepped, rfl⟩ := Option.map_eq_some_iff.mp taken
          by_cases here : other = nodeName
          · subst other
            simpa [labelsAt, stepped] using later
          · simpa [labelsAt, here, Function.update_of_ne (Ne.symm here)] using later

/-- While the lock does not change hands, every answer is none or its holder. -/
theorem holder_kept {controllers after : Controllers} {labels : List ControllersLabel}
    (ran : Transition.run controllersStep labels controllers = some after)
    (kept : ∀ holder, .elected holder ∉ labels) :
    after.holder = controllers.holder ∧
      ∀ nodeName leader, .at nodeName (.asked leader) ∈ labels →
        leader = none ∨ leader = controllers.holder := by
  induction labels generalizing controllers with
  | nil =>
      cases ran
      simp
  | cons label rest ih =>
      obtain ⟨middle, taken, remaining⟩ := Option.bind_eq_some_iff.mp ran
      have keptOn (holder : Option String) : .elected holder ∉ rest :=
        fun member => kept holder (List.mem_cons_of_mem label member)
      cases label with
      | elected holder => exact absurd List.mem_cons_self (kept holder)
      | «at» nodeName label =>
          obtain ⟨hears, taken⟩ := Option.ite_none_right_eq_some.mp taken
          obtain ⟨service, _, rfl⟩ := Option.map_eq_some_iff.mp taken
          obtain ⟨same, answers⟩ := ih remaining keptOn
          constructor
          · exact same
          · intro other leader asked
            rcases List.mem_cons.mp asked with first | later
            · cases first
              simpa [ServiceLabel.mayHear] using hears
            · exact answers other leader later

/-- In every run of the cluster: once the lock has changed hands for the last time, a
controller that has asked the elector since, is not in `monitor_leader` and has not left a
failed start behind, runs its watcher only on the node that holds the lock, and does so
if the elector could always be reached. -/
theorem holder_alone_watches {paths : List String} {earlier later : List ControllersLabel}
    {middle controllers : Controllers} {nodeName : String} {leader : Option String}
    (begun : Transition.run controllersStep earlier (.create paths) = some middle)
    (ran : Transition.run controllersStep later middle = some controllers)
    (kept : ∀ holder, .elected holder ∉ later)
    (asked : .at nodeName (.asked leader) ∈ later)
    (waits : (controllers.services nodeName).monitor = .waiting)
    (alive : (controllers.services nodeName).watcher.exited = none)
    (noneLeft : (labelsAt nodeName (earlier ++ later)).foldl leftRunning false = false) :
    ((controllers.services nodeName).watcher.running = true →
      controllers.holder = some nodeName) ∧
    (controllers.holder = some nodeName → .at nodeName (.asked none) ∉ later →
      (controllers.services nodeName).watcher.running = true) := by
  obtain ⟨same, answers⟩ := holder_kept ran kept
  have atNode := run_at ran nodeName
  have whole : Transition.run serviceStep (labelsAt nodeName (earlier ++ later))
      (Service.create nodeName paths) = some (controllers.services nodeName) := by
    have together : Transition.run controllersStep (earlier ++ later) (.create paths) =
        some controllers := by
      rw [run_append, begun]
      exact ran
    exact run_at together nodeName
  have runs := watcher_runs_iff whole waits alive
  have hears (may : Option String → Prop)
      (mayHear : ∀ leader, .at nodeName (.asked leader) ∈ later → may leader) :
      may (controllers.services nodeName).currentLeader := by
    have given : ∀ label ∈ labelsAt nodeName later, label.Answers may := by
      intro label member
      cases label with
      | asked leader => exact mayHear leader (mem_labelsAt.mp member)
      | _ => trivial
    have heard := heard_of_asked ((labelsAt nodeName earlier).foldl leftRunning false) may
      (mem_labelsAt.mpr asked) given atNode
    apply heard.noted waits
    rwa [← List.foldl_append, ← labelsAt_append]
  have ownName : (controllers.services nodeName).nodeName = nodeName := nodeName_of_run whole
  constructor
  · intro running
    have leads := runs.mp running
    simp only [noneLeft, Bool.false_eq_true, or_false, Service.isLeader, decide_eq_true_eq]
      at leads
    have given := hears _ (answers nodeName)
    rw [leads, ownName] at given
    rw [same]
    exact (given.resolve_left (by simp)).symm
  · intro holds reached
    have given := hears (· = middle.holder) fun leader member =>
      (answers nodeName leader member).resolve_left fun isNone => reached (isNone ▸ member)
    apply runs.mpr
    left
    rw [Service.isLeader, given, ownName, ← same, holds]
    exact decide_eq_true rfl

/-- The first node leads, and the lock goes to the second one. -/
def HandedOver.earlier : List ControllersLabel :=
  [.elected (some "node-1"), .at "node-1" (.asked (some "node-1")), .at "node-1" .synced,
    .elected (some "node-2")]

/-- Both nodes ask again. -/
def HandedOver.later : List ControllersLabel :=
  [.at "node-2" (.asked (some "node-2")), .at "node-1" (.asked (some "node-2")),
    .at "node-2" .synced, .at "node-1" (.resume ⟨"/api/v1/pods", []⟩), .at "node-1" .stopped]

theorem holder_alone_watches_handed_over :
    ∃ controllers,
      Transition.run controllersStep (HandedOver.earlier ++ HandedOver.later)
        (.create ["/api/v1/pods"]) = some controllers ∧
      (controllers.services "node-1").watcher.running = false ∧
      (controllers.services "node-2").watcher.running = true := by
  rcases begun : Transition.run controllersStep HandedOver.earlier (.create ["/api/v1/pods"])
    with _ | middle
  · exact absurd (congrArg Option.isSome begun) (by decide +kernel)
  rcases ran : Transition.run controllersStep HandedOver.later middle with _ | controllers
  · have goesOn : ((Transition.run controllersStep HandedOver.earlier
        (.create ["/api/v1/pods"])).bind
          (Transition.run controllersStep HandedOver.later)).isSome = true := by
      decide +kernel
    rw [begun, Option.bind_some, ran] at goesOn
    cases goesOn
  have ends : ((Transition.run controllersStep HandedOver.earlier
      (.create ["/api/v1/pods"])).bind
        (Transition.run controllersStep HandedOver.later)).all (fun controllers =>
          controllers.holder = some "node-2" ∧
          ∀ nodeName ∈ ["node-1", "node-2"],
            (controllers.services nodeName).monitor = .waiting ∧
            (controllers.services nodeName).watcher.exited = none) = true := by
    decide +kernel
  rw [begun, Option.bind_some, ran, Option.all_some] at ends
  obtain ⟨holds, rests⟩ := of_decide_eq_true ends
  obtain ⟨waits, alive⟩ := rests "node-1" (by simp)
  obtain ⟨waits', alive'⟩ := rests "node-2" (by simp)
  have kept (holder : Option String) : .elected holder ∉ HandedOver.later := by
    simp [HandedOver.later]
  have asked (nodeName : String) (known : nodeName ∈ ["node-1", "node-2"]) :
      .at nodeName (.asked (some "node-2")) ∈ HandedOver.later := by
    revert nodeName
    decide
  have first := holder_alone_watches begun ran kept (asked "node-1" (by simp)) waits alive
    (by decide)
  have second := holder_alone_watches begun ran kept (asked "node-2" (by simp)) waits' alive'
    (by decide)
  refine ⟨controllers, ?_, ?_, ?_⟩
  · rw [run_append, begun]
    exact ran
  · by_contra running
    have holdsToo := first.1 (by simpa using running)
    simp [holds] at holdsToo
  · exact second.2 holds (by decide)

end KuryrKubernetes.Watching
