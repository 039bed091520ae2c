import KuryrKubernetes.Handlers.Started

/-!
# Ports under stale events

An event may carry a copy of the pod from before the annotation was stored.  A
call for it requests ports once more, and `annotate` answers the conflict by
writing over the newer annotation.  As long as no copy misses a port of the pod,
every port stays within reach: in the annotation, or with the call that got it.
-/

namespace KuryrKubernetes.Handlers.Events

open KuryrKubernetes.Data
open KuryrKubernetes.Effect
open KuryrKubernetes.Transition

/-! ## The law of ports -/

/-- The running call got a port and is going to annotate it. -/
def Phase.requested (phase : Phase) (port : String) : Prop :=
  ∃ state, phase.pending = some (.fresh state) ∧ port ∈ portIds (some state)

/-- The law: an allocated port is in the annotation, unless the call that got it is
still running; and an annotation about to be written names all allocated ports. -/
structure KeepsPorts (state : State) : Prop where
  annotated : ∀ port ∈ state.allocated,
    port ∈ portIds state.pod.podState ∨ state.phase.requested port
  written : ∀ pending, state.phase.pending = some pending →
    ∀ port ∈ state.allocated, port ∈ portIds pending.state

/-- The running call requested ports. -/
def Phase.isFresh (phase : Phase) : Bool :=
  match phase.pending with
  | some (.fresh _) => true
  | _ => false

/-- A step under which no port gets out of reach. -/
def KeepsReach (state : State) : Action → Prop
  | .update pod =>
      ∀ port ∈ state.allocated,
        port ∈ portIds state.pod.podState → port ∈ portIds pod.podState
  | .present event answers =>
      comesToWrite answers event →
        (∀ port ∈ state.allocated, port ∈ portsInReach event) ∧
          (event.podState = none → ¬answers.drivers.any (·.fails event))
  | .patch (.lost _ applied) => state.phase.isFresh → applied
  | .get (.failed ex) => state.phase.isFresh → ex.isK8sClientException
  | _ => True

instance (state : State) (action : Action) : Decidable (KeepsReach state action) :=
  match action with
  | .update _ => inferInstanceAs (Decidable (∀ port ∈ state.allocated, _ → _))
  | .present .. => inferInstanceAs (Decidable (_ → (∀ port ∈ state.allocated, _) ∧ (_ → ¬_)))
  | .patch (.lost ..) => inferInstanceAs (Decidable (_ → _))
  | .get (.failed _) => inferInstanceAs (Decidable (_ → _))
  | .delete | .deleted _ | .patch .answered | .patch (.refused _) | .get .answered =>
      .isTrue trivial

/-! ## Parts of the handler -/

theorem allocated_handle {α : Type} (state : State) (program : HandlerM α) :
    (state.handle program).2.allocated =
      (state.allocated ++ (exec program {}).2.obtained.map (·.id)).filter
        (· ∉ (exec program {}).2.released.map (·.id)) :=
  rfl

/-- A program that requests nothing only gives ports away. -/
theorem allocated_of_unasked {α : Type} {state : State} {program : HandlerM α}
    (unasked : (exec program {}).2.obtained = []) {port : String}
    (allocated : port ∈ (state.handle program).2.allocated) :
    port ∈ state.allocated ∧ port ∉ (exec program {}).2.released.map (·.id) := by
  rw [allocated_handle, unasked, List.map_nil, List.append_nil, List.mem_filter,
    decide_eq_true_eq] at allocated
  exact allocated

/-- A state without a running call keeps the law when all ports are annotated. -/
theorem KeepsPorts.of_idle {state : State} (idle : state.phase = .idle)
    (annotated : ∀ port ∈ state.allocated, port ∈ portIds state.pod.podState) :
    KeepsPorts state := by
  constructor
  · intro port allocated
    exact .inl (annotated port allocated)
  · intro pending running
    rw [idle] at running
    cases running

/-- Without a running call all ports are annotated. -/
theorem KeepsPorts.annotated_of_idle {state : State} (keeps : KeepsPorts state)
    (idle : state.phase = .idle) {port : String} (allocated : port ∈ state.allocated) :
    port ∈ portIds state.pod.podState := by
  rcases keeps.annotated port allocated with annotated | ⟨_, running, _⟩
  · exact annotated
  · rw [idle] at running
    cases running

/-- The law survives what changes neither the pending write nor takes a port out of
the annotation. -/
theorem KeepsPorts.mono {before after : State} (keeps : KeepsPorts before)
    (pending : after.phase.pending = before.phase.pending)
    (fewer : ∀ port ∈ after.allocated, port ∈ before.allocated)
    (annotated : ∀ port ∈ before.allocated,
      port ∈ portIds before.pod.podState → port ∈ portIds after.pod.podState) :
    KeepsPorts after := by
  constructor
  · intro port allocated
    have allocated := fewer port allocated
    rcases keeps.annotated port allocated with stored | ⟨requested, fresh, named⟩
    · exact .inl (annotated port allocated stored)
    · exact .inr ⟨requested, pending.trans fresh, named⟩
  · intro written running port allocated
    exact keeps.written written (pending.symm.trans running) port (fewer port allocated)

/-! ## The end of a call -/

/-- A call ends well when the pod is annotated with all ports. -/
theorem KeepsPorts.finish {state : State} (answers : Answers) (pending : Pending)
    (outcome : Except PyException Unit)
    (annotated : ∀ port ∈ state.allocated, port ∈ portIds state.pod.podState) :
    KeepsPorts (state.finish answers pending outcome) := by
  apply KeepsPorts.of_idle rfl
  intro port allocated
  have unasked := onPresentFinish_keepsObtained answers pending outcome {}
  exact annotated port (allocated_of_unasked unasked allocated).1

/-- A call whose write fails ends well, as it releases the ports it requested. -/
theorem KeepsPorts.finish_error {state : State} (keeps : KeepsPorts state)
    (answers : Answers) {pending : Pending} {ex : PyException}
    (running : state.phase.pending = some pending)
    (client : state.phase.isFresh → ex.isK8sClientException) :
    KeepsPorts (state.finish answers pending (.error ex)) := by
  cases pending with
  | fresh requested =>
      have client := client (by rw [Phase.isFresh, running])
      apply KeepsPorts.of_idle rfl
      intro port allocated
      have unasked := onPresentFinish_keepsObtained answers (.fresh requested) (.error ex) {}
      obtain ⟨before, unreleased⟩ := allocated_of_unasked unasked allocated
      rw [onPresentFinish, if_pos client, exec_releaseVifs] at unreleased
      exact absurd (keeps.written _ running port before) unreleased
  | clear =>
      apply KeepsPorts.finish
      intro port allocated
      rcases keeps.annotated port allocated with annotated | ⟨_, fresh, _⟩
      · exact annotated
      · rw [running] at fresh
        cases fresh
  | activated activated raised =>
      apply KeepsPorts.finish
      intro port allocated
      rcases keeps.annotated port allocated with annotated | ⟨_, fresh, _⟩
      · exact annotated
      · rw [running] at fresh
        cases fresh

/-- A call whose write is done ends well. -/
theorem KeepsPorts.store {state : State} (keeps : KeepsPorts state) (answers : Answers)
    {pending : Pending} (event : Pod) (outcome : Except PyException Unit)
    (running : state.phase.pending = some pending) :
    KeepsPorts ((state.store pending event).finish answers pending outcome) := by
  apply KeepsPorts.finish
  exact keeps.written pending running

/-! ## Steps -/

theorem KeepsPorts.present {state : State} {event : Pod} {answers : Answers}
    (keeps : KeepsPorts state) (idle : state.phase = .idle)
    (reach : KeepsReach state (.present event answers)) :
    KeepsPorts (present state event answers) := by
  have started := onPresentStart_started answers event
  unfold Events.present State.handle
  generalize exec (onPresentStart answers event) {} = outcome at started ⊢
  obtain ⟨result, call⟩ := outcome
  simp only at started ⊢
  cases started with
  | ends unwritten unasked =>
      split
      · rename_i pending after written
        cases written
        exact absurd rfl (unwritten pending)
      · rename_i written
        cases written
        refine KeepsPorts.of_idle ?_ ?_
        · exact idle
        intro port allocated
        rw [unasked, List.map_nil, List.append_nil] at allocated
        exact keeps.annotated_of_idle idle (List.mem_filter.mp allocated).1
  | interrupted gets fails =>
      have unannotated := podState_of_mainVifFor gets
      exact absurd fails ((reach (comesToWrite_of_mainVifFor gets)).2 unannotated)
  | clears writes unasked released =>
      have reached := (reach writes).1
      have released : (state.allocated ++ call.obtained.map (·.id)).filter
          (· ∉ call.released.map (·.id)) = [] := by
        rw [released, unasked, List.map_nil, List.append_nil, List.filter_eq_nil_iff]
        intro port allocated
        simpa using reached port allocated
      constructor
      · intro port allocated
        rw [released] at allocated
        cases allocated
      · intro pending _ port allocated
        rw [released] at allocated
        cases allocated
  | activates writes named ifnames raised =>
      have reached := (reach writes).1
      have kept : (state.allocated ++ ([] : List Vif).map (·.id)).filter
          (· ∉ ([] : List Vif).map (·.id)) = state.allocated := by simp
      constructor
      · intro port allocated
        rw [kept] at allocated
        exact .inl (keeps.annotated_of_idle idle allocated)
      · intro pending running port allocated
        rw [kept] at allocated
        cases running
        rw [Pending.state, portIds_activatedState, ← named]
        exact mem_portIds_of_inReach (reached port allocated)
  | @requests requested _ gets obtained unreleased =>
      have reached := (reach (comesToWrite_of_mainVifFor gets)).1
      have none : state.allocated = [] := by
        apply List.eq_nil_iff_forall_not_mem.mpr
        intro port allocated
        have named := mem_portIds_of_inReach (reached port allocated)
        rw [podState_of_mainVifFor gets] at named
        cases named
      have allocations : (state.allocated ++ call.obtained.map (·.id)).filter
          (· ∉ call.released.map (·.id)) = portIds (some requested) := by
        rw [none, obtained, unreleased]
        simp
      constructor
      · intro port allocated
        rw [allocations] at allocated
        exact .inr ⟨requested, rfl, allocated⟩
      · intro pending running port allocated
        rw [allocations] at allocated
        cases running
        exact allocated

theorem KeepsPorts.patch {state after : State} {answers : Answers} {pending : Pending}
    {event : Pod} {version : Nat} {reply : PatchReply} (keeps : KeepsPorts state)
    (running : state.phase = .patching answers pending event version)
    (reach : KeepsReach state (.patch reply))
    (taken : patch state answers pending event version reply = some after) :
    KeepsPorts after := by
  have pendingState : state.phase.pending = some pending := by rw [running]; rfl
  cases reply with
  | answered =>
      simp only [Events.patch] at taken
      split at taken
      · cases taken
        exact keeps.finish_error answers pendingState fun _ => rfl
      · split at taken
        · cases taken
          exact keeps.store answers event (.ok ()) pendingState
        · cases taken
          exact keeps.mono (by rw [running]; rfl) (fun _ allocated => allocated)
            fun _ _ annotated => annotated
  | refused ex =>
      simp only [Events.patch] at taken
      split at taken
      · rename_i client
        cases taken
        exact keeps.finish_error answers pendingState fun _ => client
      · cases taken
  | lost ex applied =>
      simp only [Events.patch] at taken
      split at taken
      · cases taken
      · split at taken
        · rename_i unapplied
          cases taken
          apply keeps.finish_error answers pendingState
          intro fresh
          rw [reach fresh] at unapplied
          cases unapplied
        · split at taken
          · cases taken
            exact keeps.store answers event (.error ex) pendingState
          · cases taken

theorem KeepsPorts.get {state : State} {answers : Answers} {pending : Pending} {event : Pod}
    {reply : GetReply} (keeps : KeepsPorts state)
    (running : state.phase = .comparing answers pending event)
    (reach : KeepsReach state (.get reply)) :
    KeepsPorts (get state answers pending event reply) := by
  have pendingState : state.phase.pending = some pending := by rw [running]; rfl
  cases reply with
  | answered =>
      simp only [Events.get]
      split
      · exact keeps.finish_error answers pendingState fun _ => rfl
      · split
        · rename_i same
          apply KeepsPorts.finish
          intro port allocated
          exact mem_portIds_of_sameState same.1 (keeps.written pending pendingState port allocated)
        · exact keeps.mono (by rw [running]; rfl) (fun _ allocated => allocated)
            fun _ _ annotated => annotated
  | failed ex => exact keeps.finish_error answers pendingState reach

/-- One step. -/
theorem keepsPorts_step : PreservedBy step KeepsReach KeepsPorts := by
  intro state action after reach keeps taken
  cases action with
  | update pod =>
      simp only [step, Option.ite_none_right_eq_some] at taken
      obtain ⟨_, ⟨⟩⟩ := taken
      exact keeps.mono rfl (fun _ allocated => allocated) reach
  | delete =>
      simp only [step, Option.ite_none_right_eq_some] at taken
      obtain ⟨_, ⟨⟩⟩ := taken
      exact keeps.mono rfl (fun _ allocated => allocated) fun _ _ annotated => annotated
  | present event answers =>
      simp only [step] at taken
      split at taken
      · rename_i idle
        simp only [Option.ite_none_right_eq_some] at taken
        obtain ⟨_, ⟨⟩⟩ := taken
        exact keeps.present idle reach
      · cases taken
  | deleted answers =>
      simp only [step] at taken
      split at taken
      · simp only [Option.ite_none_left_eq_some] at taken
        obtain ⟨_, ⟨⟩⟩ := taken
        have unasked := onDeleted_keepsObtained answers state.pod {}
        exact keeps.mono rfl (fun _ allocated => (allocated_of_unasked unasked allocated).1)
          fun _ _ annotated => annotated
      · cases taken
  | patch reply =>
      simp only [step] at taken
      split at taken
      · rename_i running
        exact keeps.patch running reach taken
      · cases taken
  | get reply =>
      simp only [step] at taken
      split at taken
      · rename_i running
        cases taken
        exact keeps.get running reach
      · cases taken

/-- In every run in which no copy misses a port of the pod, and no call loses the
ports it got, all ports of the pod stay within reach. -/
theorem ports_within_reach {pod : Pod} {actions : List Action} {state : State}
    (guarded : GuardedRun step KeepsReach (initial pod) actions state) :
    KeepsPorts state := by
  apply guarded.invariant keepsPorts_step
  apply KeepsPorts.of_idle rfl
  intro port allocated
  cases allocated

/-- A pod that was just scheduled. -/
def scheduledPod : Pod where
  name := "pod"
  namespaceName := "default"
  uid := "uid"
  nodeName := some "node"
  phase := some "Pending"

/-- Answers under which a call gets one port. -/
def givesPort (port : String) : Answers where
  mainVif := .ok (some { id := port, network := ⟨"network"⟩ })

/-- The event of the new pod is handled twice, the second time from a copy that is
older than the annotation. -/
def staleEvent : List Action :=
  [.present scheduledPod (givesPort "old"), .patch .answered,
    .present scheduledPod (givesPort "new"), .patch .answered, .get .answered,
    .patch .answered]

/-- The second call wrote over the annotation of the first. -/
theorem staleEvent_overwrites :
    (run step staleEvent (initial scheduledPod)).map (fun state =>
        (state.allocated, portIds state.pod.podState, state.phase.pending)) =
      some (["old", "new"], ["new"], none) := by
  decide

/-- Not every run keeps the ports of the pod within reach. -/
theorem ports_not_always_within_reach :
    ¬∀ (pod : Pod) (actions : List Action) (state : State),
      run step actions (initial pod) = some state → KeepsPorts state := by
  intro always
  obtain ⟨state, reached, view⟩ := Option.map_eq_some_iff.mp staleEvent_overwrites
  simp only [Prod.mk.injEq] at view
  obtain ⟨allocated, stored, idle⟩ := view
  have keeps := always scheduledPod staleEvent state reached
  rcases keeps.annotated "old" (by simp [allocated]) with annotated | ⟨_, running, _⟩
  · rw [stored] at annotated
    revert annotated
    decide
  · rw [idle] at running
    cases running

/-- A write that meets a newer version of the pod is repeated, and keeps the law. -/
theorem ports_within_reach_retried :
    ∃ state, run step
        [.present scheduledPod (givesPort "port"),
          .update { scheduledPod with hostIp := some "192.0.2.1" }, .patch .answered,
          .get .answered, .patch .answered] (initial scheduledPod) = some state ∧
      (portIds state.pod.podState = ["port"] ∧ state.pod.hostIp = some "192.0.2.1") ∧
      KeepsPorts state := by
  have executed : ((runIf step KeepsReach
      [.present scheduledPod (givesPort "port"),
        .update { scheduledPod with hostIp := some "192.0.2.1" }, .patch .answered,
        .get .answered, .patch .answered] (initial scheduledPod)).map fun state =>
          (portIds state.pod.podState, state.pod.hostIp)) =
      some (["port"], some "192.0.2.1") := by decide
  obtain ⟨state, reached, view⟩ := Option.map_eq_some_iff.mp executed
  have guarded := guardedRun_of_runIf reached
  exact ⟨state, guarded.run_eq_some, Prod.mk.inj view, ports_within_reach guarded⟩

end KuryrKubernetes.Handlers.Events
