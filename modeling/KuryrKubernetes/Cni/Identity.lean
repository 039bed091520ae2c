import KuryrKubernetes.Cni.Steps

/-!
# VIFs of the right pod

Entries are found by the name of a pod, while an ADD is for a sandbox of one pod
object.  When a pod is made again under the same name before its old entry is
gone, the ADD finds the VIFs of the old pod.
-/

namespace KuryrKubernetes.Cni

open KuryrKubernetes.Data
open KuryrKubernetes.Transition

/-- The VIFs annotated on a pod object, one with the given uid that the watcher was
told of. -/
def AnnotatedOn (seen : List Pod) (uid : String) (vifs : Dict String Vif) : Prop :=
  ∃ pod ∈ seen, pod.uid = uid ∧ ∃ state, pod.podState = some state ∧ state.vifs = vifs

/-- The VIFs a request called the driver for. -/
def Request.calledFor (request : Request) : List Vif :=
  request.calls.map DriverCall.vif

/-- An ADD plugs the VIFs of its own pod: some of them on the way or when it fails,
exactly them when it comes to its locked section.  It is never at the check of
`delete`. -/
def PlugsOwn (seen : List Pod) (request : Request) : Prop :=
  match request.phase with
  | .checking => False
  | .finding => request.calls = []
  | .working _ remaining =>
      ∃ vifs, AnnotatedOn seen request.podUid vifs ∧
        request.calledFor ++ remaining.map Prod.snd = vifs.values
  | .locking | .waiting | .ended (.ok _) =>
      ∃ vifs, AnnotatedOn seen request.podUid vifs ∧ request.calledFor = vifs.values
  | .ended (.error _) =>
      request.calls = [] ∨
        ∃ vifs, AnnotatedOn seen request.podUid vifs ∧ request.calledFor <+: vifs.values

/-- Every ADD under a name plugs the VIFs of its own pod. -/
def AddsPlugOwn (slot : Slot) : Prop :=
  ∀ request ∈ slot.requests, request.command = .add → PlugsOwn slot.trace.seen request

/-- The pod whose VIFs `on_done` is about to register. -/
def Watch.donePod : Watch → Option Pod
  | .done pod _ => some pod
  | _ => none

/-- A step that meets no entry of another pod: neither does `on_done`, nor an ADD that
looks for its entry. -/
def MeetsOwnEntry (slot : Slot) : Action → Prop
  | .watcherWrite =>
      ∀ pod ∈ slot.watcher.donePod, ∀ entry ∈ slot.entry, entry.pod.uid = pod.uid
  | .request index .find =>
      ∀ request ∈ slot.requests[index]?, request.command = .add →
        ∀ entry ∈ slot.entry, entry.pod.uid = request.podUid
  | _ => True

instance (slot : Slot) (action : Action) : Decidable (MeetsOwnEntry slot action) :=
  match action with
  | .watcherWrite => inferInstanceAs (Decidable (∀ pod ∈ slot.watcher.donePod, _))
  | .request index .find => inferInstanceAs (Decidable (∀ request ∈ slot.requests[index]?, _))
  | .present _ | .deleted _ | .watcherLock | .start .. | .request _ .check
  | .request _ .timeout | .request _ .work | .request _ (.workFails _) | .request _ .lock
  | .request _ .write | .request _ .wait | .request _ .giveUp => .isTrue trivial

/-! ## Where the VIFs come from -/

/-- The entry, the watcher and the ADDs hold VIFs of the pods they are about. -/
structure KnowsPods (slot : Slot) : Prop where
  entry : ∀ entry, slot.entry = some entry →
    AnnotatedOn slot.trace.seen entry.pod.uid entry.vifs
  watcher : ∀ pod vifs, slot.watcher = .done pod vifs →
    AnnotatedOn slot.trace.seen pod.uid vifs
  requests : AddsPlugOwn slot

theorem AnnotatedOn.mono {seen more : List Pod} {uid : String} {vifs : Dict String Vif}
    (annotated : AnnotatedOn seen uid vifs) (included : ∀ pod ∈ seen, pod ∈ more) :
    AnnotatedOn more uid vifs := by
  obtain ⟨pod, listed, same, named⟩ := annotated
  exact ⟨pod, included pod listed, same, named⟩

theorem PlugsOwn.mono {seen more : List Pod} {request : Request}
    (own : PlugsOwn seen request) (included : ∀ pod ∈ seen, pod ∈ more) :
    PlugsOwn more request := by
  unfold PlugsOwn at *
  split at own
  · cases own
  · exact own
  · obtain ⟨vifs, annotated, same⟩ := own
    exact ⟨vifs, annotated.mono included, same⟩
  · obtain ⟨vifs, annotated, same⟩ := own
    exact ⟨vifs, annotated.mono included, same⟩
  · obtain ⟨vifs, annotated, same⟩ := own
    exact ⟨vifs, annotated.mono included, same⟩
  · obtain ⟨vifs, annotated, same⟩ := own
    exact ⟨vifs, annotated.mono included, same⟩
  · rcases own with nothing | ⟨vifs, annotated, same⟩
    · exact .inl nothing
    · exact .inr ⟨vifs, annotated.mono included, same⟩

/-- The state in which VIFs remain to plug, or none. -/
theorem plugsOwn_workLeft {seen : List Pod} {request : Request} {vifs : Dict String Vif}
    (pod : Pod) (remaining : List (String × Vif))
    (annotated : AnnotatedOn seen request.podUid vifs)
    (same : request.calledFor ++ remaining.map Prod.snd = vifs.values) :
    PlugsOwn seen (request.at (workLeft pod remaining)) := by
  cases remaining with
  | nil =>
      rw [List.map_nil, List.append_nil] at same
      exact ⟨vifs, annotated, same⟩
  | cons item rest => exact ⟨vifs, annotated, same⟩

/-- A phase change of an ADD keeps the law. -/
theorem PlugsOwn.quietly {slot : Slot} {request : Request} {kind : Move} {phase : Phase}
    (knows : KnowsPods slot) (own : PlugsOwn slot.trace.seen request)
    (allowed : Quietly slot.entry request kind phase)
    (meets : kind = .find → ∀ entry ∈ slot.entry, entry.pod.uid = request.podUid) :
    PlugsOwn slot.trace.seen (request.at phase) := by
  unfold PlugsOwn at own
  cases allowed with
  | ignored checking ignores =>
      rw [checking] at own
      cases own
  | passed checking heeds =>
      rw [checking] at own
      cases own
  | @found known finding listed =>
      rw [finding] at own
      have annotated := knows.entry known listed
      rw [meets rfl known listed] at annotated
      apply plugsOwn_workLeft _ _ annotated
      rw [Request.calledFor, own]
      rfl
  | timedOut finding absent =>
      rw [finding] at own
      exact .inl own
  | failed working ex =>
      rw [working] at own
      obtain ⟨vifs, annotated, same⟩ := own
      exact .inr ⟨vifs, annotated, _, same⟩
  | returned waiting listed =>
      rw [waiting] at own
      unfold addResult
      split
      · obtain ⟨vifs, annotated, same⟩ := own
        exact .inr ⟨vifs, annotated, same ▸ List.prefix_refl _⟩
      · exact own
  | gaveUp waiting ex =>
      rw [waiting] at own
      obtain ⟨vifs, annotated, same⟩ := own
      exact .inr ⟨vifs, annotated, same ▸ List.prefix_refl _⟩

/-- The call for a VIF keeps the law. -/
theorem PlugsOwn.worked {seen : List Pod} {request : Request} {pod : Pod} {ifname : String}
    {vif : Vif} {rest : List (String × Vif)} (own : PlugsOwn seen request)
    (working : request.phase = .working pod ((ifname, vif) :: rest)) :
    PlugsOwn seen (request.worked pod ifname vif rest) := by
  unfold PlugsOwn at own
  rw [working] at own
  obtain ⟨vifs, annotated, same⟩ := own
  have calls : (request.worked pod ifname vif rest).calledFor = request.calledFor ++ [vif] := by
    rw [Request.calledFor, Request.worked, List.map_append]
    rfl
  have left : (request.worked pod ifname vif rest).calledFor ++ rest.map Prod.snd =
      vifs.values := by
    rw [calls, List.append_assoc]
    exact same
  have placed : PlugsOwn seen ((request.worked pod ifname vif rest).at (workLeft pod rest)) :=
    plugsOwn_workLeft pod rest annotated left
  exact placed

/-- What an ADD plugged is annotated on its own pod. -/
theorem PlugsOwn.annotated {seen : List Pod} {request : Request} {vif : Vif}
    (own : PlugsOwn seen request) (plugged : vif ∈ request.calledFor) :
    ∃ vifs, AnnotatedOn seen request.podUid vifs ∧ vif ∈ vifs.values := by
  have called : request.calls ≠ [] := by
    intro nothing
    rw [Request.calledFor, nothing] at plugged
    cases plugged
  unfold PlugsOwn at own
  split at own
  · cases own
  · exact absurd own called
  · obtain ⟨vifs, annotated, same⟩ := own
    exact ⟨vifs, annotated, same ▸ List.mem_append_left _ plugged⟩
  · obtain ⟨vifs, annotated, same⟩ := own
    exact ⟨vifs, annotated, same ▸ plugged⟩
  · obtain ⟨vifs, annotated, same⟩ := own
    exact ⟨vifs, annotated, same ▸ plugged⟩
  · obtain ⟨vifs, annotated, same⟩ := own
    exact ⟨vifs, annotated, same ▸ plugged⟩
  · rcases own with nothing | ⟨vifs, annotated, same⟩
    · exact absurd nothing called
    · exact ⟨vifs, annotated, same.subset plugged⟩

/-! ## Steps -/

/-- What matters is where entry, watcher and ADDs come from. -/
theorem KnowsPods.mono {before after : Slot} (knows : KnowsPods before)
    (included : ∀ pod ∈ before.trace.seen, pod ∈ after.trace.seen)
    (entry : ∀ entry, after.entry = some entry →
      AnnotatedOn after.trace.seen entry.pod.uid entry.vifs)
    (watcher : after.watcher = before.watcher ∨ after.watcher = .idle)
    (requests : ∀ request ∈ after.requests, request.command = .add →
      request ∈ before.requests ∨ PlugsOwn after.trace.seen request) :
    KnowsPods after := by
  constructor
  · exact entry
  · intro pod vifs busy
    rcases watcher with same | idle
    · rw [same] at busy
      exact (knows.watcher pod vifs busy).mono included
    · rw [idle] at busy
      cases busy
  · intro request member adds
    rcases requests request member adds with earlier | own
    · exact (knows.requests request earlier adds).mono included
    · exact own

/-- A section that keeps the pod keeps the VIFs known. -/
theorem KnowsPods.section {slot : Slot} (knows : KnowsPods slot)
    {change : Option Entry → Option Entry} (keeps : KeepsPod change) {after : Entry}
    (written : change slot.entry = some after) :
    AnnotatedOn slot.trace.seen after.pod.uid after.vifs := by
  obtain ⟨entry, listed, pod, vifs⟩ := keeps _ _ written
  rw [pod, vifs]
  exact knows.entry entry listed

theorem knowsPods_step : PreservedBy slotStep MeetsOwnEntry KnowsPods := by
  intro slot action after meets knows taken
  have kept (request : Request) (member : request ∈ slot.requests)
      (_ : request.command = .add) :
      request ∈ slot.requests ∨ PlugsOwn slot.trace.seen request := .inl member
  cases stepped_of_slotStep taken with
  | unannotated unnamed => exact knows
  | @present pod state named =>
      have included : ∀ known ∈ slot.trace.seen, known ∈ pod :: slot.trace.seen :=
        fun _ listed => List.mem_cons_of_mem _ listed
      constructor
      · intro entry listed
        exact (knows.entry entry listed).mono included
      · rintro _ _ ⟨⟩
        exact ⟨pod, List.mem_cons_self, rfl, state, named, rfl⟩
      · intro request member adds
        exact (knows.requests request member adds).mono included
  | deleted pod =>
      constructor
      · exact knows.entry
      · intro other vifs busy
        simp only [Cni.deleted] at busy
        split at busy <;> cases busy
      · exact knows.requests
  | watcherLocked same =>
      refine knows.mono (fun _ listed => listed) ?_ (.inl rfl) kept
      intro entry listed
      exact knows.entry entry (same.symm.trans listed)
  | @doneWritten pod vifs registry busy value =>
      refine knows.mono (fun _ listed => listed) ?_ (.inr rfl) kept
      intro entry listed
      have own : ∀ known ∈ slot.entry, known.pod.uid = pod.uid :=
        meets pod (by rw [busy]; rfl)
      have annotated := knows.watcher pod vifs busy
      rcases onDone_eq_some (value.symm.trans listed) with
        ⟨_, rfl⟩ | ⟨known, found, samePod, _, _, sameVifs | newVifs⟩
      · exact annotated
      · rw [samePod, sameVifs]
        exact knows.entry known found
      · rw [samePod, newVifs, own known found]
        exact annotated
  | deletedWritten busy value =>
      refine knows.mono (fun _ listed => listed) ?_ (.inr rfl) kept
      intro entry listed
      exact knows.section onDeleted_keepsPod (value.symm.trans listed)
  | started command params podUid =>
      refine knows.mono (fun _ listed => listed) knows.entry (.inl rfl) ?_
      intro request member adds
      rcases List.mem_append.mp member with earlier | new
      · exact .inl earlier
      · rw [List.mem_singleton] at new
        subst request
        right
        cases command with
        | add => exact rfl
        | delete => cases adds
  | @quiet index kind request phase sent allowed =>
      refine knows.mono (fun _ listed => listed) knows.entry (.inl rfl) ?_
      intro changed member adds
      rcases mem_requests_advance member with earlier | rfl
      · exact .inl earlier
      · right
        apply (knows.requests request (List.mem_of_getElem? sent) adds).quietly knows allowed
        rintro rfl
        exact meets request sent adds
  | @worked index request pod ifname vif rest sent working =>
      have unseen : (slot.trace.called request.command request.params.containerid vif).seen =
          slot.trace.seen := by
        cases request.command <;> rfl
      refine knows.mono ?_ ?_ (.inl rfl) ?_
      · intro pod listed
        rw [← unseen] at listed
        exact listed
      · intro entry listed
        rw [unseen]
        exact knows.entry entry listed
      · intro changed member adds
        rcases mem_requests_advance member with earlier | rfl
        · exact .inl earlier
        · right
          rw [unseen]
          exact (knows.requests request (List.mem_of_getElem? sent) adds).worked working
  | locked same =>
      refine knows.mono (fun _ listed => listed) ?_ (.inl rfl) kept
      intro entry listed
      exact knows.entry entry (same.symm.trans listed)
  | @saved index request phase registry sent adds locking value left =>
      refine knows.mono (fun _ listed => listed) ?_ (.inl rfl) ?_
      · intro entry listed
        exact knows.section (saveContainerid_keepsPod _) (value.symm.trans listed)
      · intro changed member _
        rcases mem_requests_advance member with earlier | rfl
        · exact .inl earlier
        · right
          have own := knows.requests request (List.mem_of_getElem? sent) adds
          unfold PlugsOwn at own
          rw [locking] at own
          obtain ⟨vifs, annotated, same⟩ := own
          rcases left with rfl | rfl
          · exact ⟨vifs, annotated, same⟩
          · exact .inr ⟨vifs, annotated, same ▸ List.prefix_refl _⟩
  | @unplugged index request registry sent deletes locking value =>
      refine knows.mono (fun _ listed => listed) ?_ (.inl rfl) ?_
      · intro entry listed
        exact knows.section finishDelete_keepsPod (value.symm.trans listed)
      · intro changed member adds
        rcases mem_requests_advance member with earlier | rfl
        · exact .inl earlier
        · rw [Request.at, deletes] at adds
          cases adds

/-- In every run in which no ADD and no `on_done` meets the entry of another pod, every
ADD plugs the VIFs of its own pod. -/
theorem adds_plug_own {actions : List (String × Action)} {registry : Registry}
    (guarded : GuardedRun step (AtKey MeetsOwnEntry) initial actions registry)
    (podName : String) : AddsPlugOwn (registry podName) := by
  have knows : KnowsPods (registry podName) := by
    apply guarded.invariant_keyed knowsPods_step
    intro key
    constructor
    · rintro entry ⟨⟩
    · rintro pod vifs ⟨⟩
    · rintro request ⟨⟩
  exact knows.requests

/-! ## A pod that is made again -/

/-- A VIF with the given id. -/
def someVif (id : String) : Vif where
  id := id
  network := ⟨"network"⟩

/-- A pod object with one annotated VIF. -/
def annotatedPod (uid port : String) : Pod where
  name := "pod"
  namespaceName := "default"
  uid := uid
  vifAnnotation := some { defaultVif := someVif port }

/-- Parameters of a request for that name. -/
def somePod (containerid : String) : Params where
  namespaceName := "default"
  name := "pod"
  containerid := containerid

/-- That name. -/
def somePodName : String :=
  (somePod "").podName

/-- The watcher runs through an event. -/
def handled (event : Action) : List Action :=
  [event, .watcherLock, .watcherWrite]

/-- A pod is made again under its name while no DEL has come for the old one. -/
def madeAgain : List Action :=
  handled (.present (annotatedPod "first" "first-port")) ++
    handled (.deleted (annotatedPod "first" "first-port")) ++
    handled (.present (annotatedPod "second" "second-port")) ++
    [.start .add (somePod "container") "second", .request 0 .find, .request 0 .work]

/-- The ADD for the second pod plugs the VIF of the first. -/
theorem madeAgain_plugs :
    (run slotStep madeAgain {}).map (fun slot =>
        (slot.requests.map fun request =>
            (request.command, request.podUid, request.calledFor), slot.trace.seen)) =
      some ([(.add, "second", [someVif "first-port"])],
        [annotatedPod "second" "second-port", annotatedPod "first" "first-port"]) := by
  decide

/-- Not in every run do ADDs plug the VIFs of their own pod. -/
theorem adds_not_always_plug_own :
    ¬∀ (actions : List (String × Action)) (registry : Registry),
      run step actions initial = some registry →
        ∀ podName, AddsPlugOwn (registry podName) := by
  intro always
  obtain ⟨slot, reached, view⟩ := Option.map_eq_some_iff.mp madeAgain_plugs
  obtain ⟨requests, seen⟩ := Prod.mk.inj view
  have concerned : ∀ action ∈ madeAgain, action.concerns somePodName := by
    simp [madeAgain, handled, Action.concerns, somePodName, Params.podName, somePod,
      Pod.uniqueName, annotatedPod]
  have adds := always _ _ (run_keyed initial reached concerned) somePodName
  rw [Function.update_self] at adds
  have listed : (Command.add, "second", [someVif "first-port"]) ∈
      slot.requests.map fun request =>
        (request.command, request.podUid, request.calledFor) := by
    rw [requests]
    exact List.mem_singleton_self _
  obtain ⟨request, member, fields⟩ := List.mem_map.mp listed
  simp only [Prod.mk.injEq] at fields
  obtain ⟨command, uid, calledFor⟩ := fields
  have plugged : someVif "first-port" ∈ request.calledFor := by
    rw [calledFor]
    exact List.mem_singleton_self _
  obtain ⟨vifs, ⟨pod, known, same, state, named, rfl⟩, vif⟩ :=
    (adds request member command).annotated plugged
  rw [seen, List.mem_cons, List.mem_singleton] at known
  rw [uid] at same
  rcases known with rfl | rfl
  · cases named
    revert vif
    decide
  · revert same
    decide

/-- An ADD that comes before the annotation is known waits for it. -/
def addedEarly : List Action :=
  [.start .add (somePod "container") "uid"] ++
    handled (.present (annotatedPod "uid" "port")) ++ [.request 0 .find, .request 0 .work]

/-- Such an ADD plugs the VIF of its own pod. -/
theorem adds_plug_own_early :
    ∃ registry, run step (addedEarly.map (somePodName, ·)) initial = some registry ∧
      (registry somePodName).trace.plugs = [⟨"port", "container"⟩] ∧
      AddsPlugOwn (registry somePodName) := by
  have executed : (runIf slotStep MeetsOwnEntry addedEarly {}).map (·.trace.plugs) =
      some [⟨"port", "container"⟩] := by decide
  obtain ⟨slot, reached, plugs⟩ := Option.map_eq_some_iff.mp executed
  have concerned : ∀ action ∈ addedEarly, action.concerns somePodName := by
    simp [addedEarly, handled, Action.concerns, somePodName, Params.podName, somePod,
      Pod.uniqueName, annotatedPod]
  have guarded := (guardedRun_of_runIf reached).keyed concerned initial rfl
  refine ⟨_, guarded.run_eq_some, ?_, adds_plug_own guarded somePodName⟩
  rw [Function.update_self]
  exact plugs

end KuryrKubernetes.Cni
