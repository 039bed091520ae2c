import KuryrKubernetes.Handlers.Events
import KuryrKubernetes.Handlers.PortLeak

/-!
# What a call comes to

The ports that a copy of a pod names, and the ways in which a call of `on_present`
for that copy comes to its write.
-/

namespace KuryrKubernetes.Handlers.Events

open KuryrKubernetes.Data
open KuryrKubernetes.Effect
open KuryrKubernetes.Transition

/-! ## Ports that a copy names -/

/-- The ports of a VIF annotation. -/
def portIds : Option PodState → List String
  | none => []
  | some state => state.vifs.values.map (·.id)

theorem vifs_activatedState (state : PodState) (ifnames : List String) :
    (activatedState state ifnames).vifs = state.vifs.mapValues (markActive ifnames) := by
  rw [PodState.vifs, PodState.vifs, Dict.mapValues_update, Dict.mapValues_set]
  rfl

theorem id_markActive (ifnames : List String) (ifname : String) (vif : Vif) :
    (markActive ifnames ifname vif).id = vif.id := by
  unfold markActive
  split <;> rfl

/-- Activation does not change the ports. -/
theorem portIds_activatedState (state : PodState) (ifnames : List String) :
    portIds (some (activatedState state ifnames)) = portIds (some state) := by
  rw [portIds, portIds, vifs_activatedState, Dict.values_mapValues, Dict.values,
    List.map_map, List.map_map]
  apply List.map_congr_left
  rintro ⟨ifname, vif⟩ _
  exact id_markActive ifnames ifname vif

theorem mem_portIds_iff {state : PodState} {port : String} :
    port ∈ portIds (some state) ↔
      ∃ ifname vif, state.vifs.get? ifname = some vif ∧ vif.id = port := by
  constructor
  · intro named
    obtain ⟨vif, listed, same⟩ := List.mem_map.mp named
    obtain ⟨ifname, found⟩ := Dict.mem_values_iff.mp listed
    exact ⟨ifname, vif, found, same⟩
  · rintro ⟨ifname, vif, found, same⟩
    exact List.mem_map.mpr ⟨vif, Dict.mem_values_iff.mpr ⟨ifname, found⟩, same⟩

/-- Annotations that are written alike name the same ports. -/
theorem mem_portIds_of_sameState {first second : Option PodState}
    (same : sameState first second) {port : String} (named : port ∈ portIds second) :
    port ∈ portIds first := by
  cases first with
  | none =>
      cases second with
      | none => exact named
      | some second => cases same
  | some first =>
      cases second with
      | none => cases same
      | some second =>
          simp only [sameState, sameItems, Bool.decide_and, Bool.and_eq_true,
            decide_eq_true_eq] at same
          obtain ⟨ifname, vif, found, id⟩ := mem_portIds_iff.mp named
          refine mem_portIds_iff.mpr ⟨ifname, vif, ?_, id⟩
          rw [PodState.vifs, Dict.get?_update, Dict.get?_eq_of_perm same.2, same.1,
            ← Dict.get?_update]
          exact found

/-- The ports of a copy that a call of `on_present` can release or write back. -/
def portsInReach (event : Pod) : List String :=
  if event.isHostNetwork ∨ !hasNode event then [] else portIds event.podState

theorem mem_portIds_of_inReach {event : Pod} {port : String}
    (reached : port ∈ portsInReach event) : port ∈ portIds event.podState := by
  unfold portsInReach at reached
  split at reached
  · cases reached
  · exact reached

/-! ## What a call comes to -/

/-- A call that comes to `_set_pod_state`, or got a port. -/
def comesToWrite (answers : Answers) (event : Pod) : Bool :=
  match event.podState with
  | none => (mainVifFor answers event).isSome
  | some state =>
      event.isCompleted ∨
        (!event.isHostNetwork ∧ event.isScheduled ∧
          (activateVifs answers state.vifs.items).1 ≠ [])

/-- The ways in which `on_present` comes to its write or ends before it. -/
inductive Started (answers : Answers) (event : Pod) :
    Except PyException (Option Pending) → Call → Prop where
  /-- Nothing was requested and nothing is written. -/
  | ends {result : Except PyException (Option Pending)} {call : Call}
      (unwritten : ∀ pending, result ≠ .ok (some pending)) (unasked : call.obtained = []) :
      Started answers event result call
  /-- A multi-VIF driver raised. -/
  | interrupted {ex : PyException} {call : Call}
      (gets : (mainVifFor answers event).isSome)
      (fails : answers.drivers.any (·.fails event)) :
      Started answers event (.error ex) call
  /-- The ports of a completed pod were released. -/
  | clears {call : Call} (writes : comesToWrite answers event)
      (unasked : call.obtained = [])
      (released : call.released.map (·.id) = portsInReach event) :
      Started answers event (.ok (some .clear)) call
  /-- Some VIFs were activated. -/
  | activates {state : PodState} (writes : comesToWrite answers event)
      (named : event.podState = some state) (ifnames : List String)
      (raised : Option PyException) :
      Started answers event (.ok (some (.activated (activatedState state ifnames) raised))) {}
  /-- Ports were requested. -/
  | requests {state : PodState} {call : Call} (gets : (mainVifFor answers event).isSome)
      (obtained : call.obtained.map (·.id) = portIds (some state))
      (kept : call.released = []) :
      Started answers event (.ok (some (.fresh state))) call

theorem podState_of_mainVifFor {answers : Answers} {event : Pod}
    (gets : (mainVifFor answers event).isSome) : event.podState = none := by
  cases named : event.podState with
  | none => rfl
  | some state => simp [mainVifFor, named] at gets

theorem comesToWrite_of_mainVifFor {answers : Answers} {event : Pod}
    (gets : (mainVifFor answers event).isSome) : comesToWrite answers event := by
  rw [comesToWrite, podState_of_mainVifFor gets]
  exact gets

theorem unchanged_of_keeps {α : Type} {program : HandlerM α}
    (keeps : (Frame.same (id : Call → Call)).Keeps program) {value : α} {before after : Call}
    (done : exec program before = (.ok value, after)) : after = before := by
  have same := keeps before
  rw [done] at same
  exact same

/-- What `on_deleted` releases when it does not raise. -/
theorem released_onDeleted {answers : Answers} {event : Pod}
    {value : Unit} {call : Call} (done : exec (onDeleted answers event) {} = (.ok value, call)) :
    call.released.map (·.id) = portsInReach event := by
  unfold onDeleted portsInReach at *
  split at done
  · rename_i outOfReach
    rw [if_pos outOfReach]
    cases done
    rfl
  · rename_i inReach
    rw [if_neg inReach]
    obtain ⟨_, first, project, done⟩ := exec_bind_eq_ok done
    obtain ⟨_, second, rules, done⟩ := exec_bind_eq_ok done
    obtain ⟨_, third, groups, done⟩ := exec_bind_eq_ok done
    rw [unchanged_of_keeps (unlessNotReady_keeps _ _ _) groups,
      unchanged_of_keeps (unlessNotReady_keeps _ _ _) rules,
      unchanged_of_keeps (answered_keeps _ _) project] at done
    cases named : event.podState with
    | none =>
        rw [named] at done
        rw [unchanged_of_keeps (answered_keeps _ _) done]
        rfl
    | some state =>
        rw [named] at done
        obtain ⟨_, fourth, releases, done⟩ := exec_bind_eq_ok done
        rw [exec_releaseVifs] at releases
        cases releases
        rw [unchanged_of_keeps (answered_keeps _ _) done]
        rfl

theorem requestPorts_ends {answers : Answers} (event : Pod)
    (nothing : raises answers.subnets = true ∨ ∀ vif, answers.mainVif ≠ .ok (some vif))
    (call : Call) (pending : Pending) :
    (exec (requestPorts answers event) call).1 ≠ .ok (some pending) := by
  intro started
  unfold requestPorts at started
  split at started
  · cases started
  · cases started
  · cases started
  · rename_i subnets found
    rcases nothing with raised | ungiven
    · rw [found] at raised
      cases raised
    · cases given : answers.mainVif with
      | error ex =>
          rw [given] at started
          cases started
      | ok vif =>
          cases vif with
          | none =>
              rw [given] at started
              cases started
          | some vif => exact ungiven vif given

/-- A call without main VIF that comes to a write clears or activates. -/
theorem onPresentStart_writes {answers : Answers} {event : Pod} {pending : Pending}
    {call : Call} (nothing : mainVifFor answers event = none)
    (started : exec (onPresentStart answers event) {} = (.ok (some pending), call)) :
    Started answers event (.ok (some pending)) call := by
  have unasked := onPresentStart_keepsObtained nothing {}
  rw [started] at unasked
  change call.obtained = [] at unasked
  unfold onPresentStart at started
  split at started
  · rename_i completed
    cases named : event.podState with
    | none =>
        rw [named] at started
        cases started
    | some state =>
        rw [named] at started
        obtain ⟨_, middle, done, started⟩ := exec_bind_eq_ok started
        cases started
        apply Started.clears _ unasked (released_onDeleted done)
        simp [comesToWrite, named, completed]
  · rename_i running
    split at started
    · cases started
    · rename_i scheduled
      obtain ⟨projectId, first, project, started⟩ := exec_bind_eq_ok started
      obtain ⟨securityGroups, second, groups, started⟩ := exec_bind_eq_ok started
      have projectGiven : raises answers.project = false := by
        cases answer : answers.project with
        | ok value => rfl
        | error ex =>
            rw [answer] at project
            cases project
      have groupsGiven : raises answers.securityGroups = false := by
        cases answer : answers.securityGroups with
        | ok value => rfl
        | error ex =>
            rw [answer] at groups
            cases groups
      rw [unchanged_of_keeps (answered_keeps _ _) groups,
        unchanged_of_keeps (answered_keeps _ _) project] at started
      cases named : event.podState with
      | none =>
          rw [named] at started
          have ended := requestPorts_ends event
            (ungiven_of_mainVifFor nothing running scheduled projectGiven groupsGiven named) {}
            pending
          rw [started] at ended
          exact absurd rfl ended
      | some state =>
          simp only [named] at started
          unfold activatePorts at started
          split at started
          · obtain ⟨_, middle, _, started⟩ := exec_bind_eq_ok started
            cases started
          · rename_i ifnames raised nonempty activated
            cases started
            apply Started.activates _ named
            rw [not_or] at scheduled
            have changes : (activateVifs answers state.vifs.items).1 ≠ [] := by
              rw [activated]
              intro none
              exact nonempty none
            simpa [comesToWrite, named, changes] using Or.inr scheduled

/-- Every call of `on_present` starts in one of these ways. -/
theorem onPresentStart_started (answers : Answers) (event : Pod) :
    Started answers event (exec (onPresentStart answers event) {}).1
      (exec (onPresentStart answers event) {}).2 := by
  cases gets : mainVifFor answers event with
  | some vif =>
      have some : (mainVifFor answers event).isSome := by rw [gets]; rfl
      rw [onPresentStart_of_mainVif gets]
      obtain ⟨vifs, ⟨quiet, gathered⟩ | ⟨fails, ex, raised⟩⟩ :=
        requestAdditionalVifs_gathers event answers.drivers (Call.obtain {} [vif])
      · rw [exec_bind_of_ok gathered]
        refine .requests some ?_ rfl
        rw [portIds, vifs_podStateOf]
        rfl
      · rw [exec_bind_of_error raised]
        exact .interrupted some fails
  | none =>
      have unasked := onPresentStart_keepsObtained gets {}
      generalize started : exec (onPresentStart answers event) {} = outcome at unasked ⊢
      obtain ⟨result, call⟩ := outcome
      change call.obtained = [] at unasked
      by_cases writes : ∃ pending, result = .ok (some pending)
      · obtain ⟨pending, rfl⟩ := writes
        exact onPresentStart_writes gets started
      · exact .ends (fun pending written => writes ⟨pending, written⟩) unasked

end KuryrKubernetes.Handlers.Events
