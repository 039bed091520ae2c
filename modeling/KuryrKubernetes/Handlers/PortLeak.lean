import KuryrKubernetes.Handlers.Ifnames
import KuryrKubernetes.Handlers.Vif

/-!
# Ports of a failed call

A call of `on_present` that requests ports has to give them back when it does not
store them in the annotation.  It does so when the write raises a client
exception, and in no other case of failure.
-/

namespace KuryrKubernetes.Handlers

open KuryrKubernetes.Data
open KuryrKubernetes.Effect

/-! ## Requests -/

/-- The call after it got more ports. -/
def Call.obtain (call : Call) (vifs : List Vif) : Call :=
  { call with obtained := call.obtained ++ vifs }

theorem Call.obtain_obtain (call : Call) (first second : List Vif) :
    (call.obtain first).obtain second = call.obtain (first ++ second) := by
  simp [Call.obtain]

theorem Call.obtain_nil (call : Call) : call.obtain [] = call := by
  simp [Call.obtain]

/-- An answer is an exception. -/
def raises {α : Type} (answer : Except PyException α) : Bool :=
  match answer with
  | .ok _ => false
  | .error _ => true

/-- A program gets ports and ends with them, or gets some ports and raises; `fails`
tells which. -/
def Gathers (program : HandlerM (List Vif)) (fails : Bool) : Prop :=
  ∀ call, ∃ vifs,
    (fails = false ∧ exec program call = (.ok vifs, call.obtain vifs)) ∨
      (fails = true ∧ ∃ ex, exec program call = (.error ex, call.obtain vifs))

theorem gathers_nil : Gathers (pure []) false := by
  intro call
  exact ⟨[], .inl ⟨rfl, by rw [Call.obtain_nil]; rfl⟩⟩

/-- Two programs one after the other gather what they gather together. -/
theorem Gathers.append {first second : HandlerM (List Vif)} {early late : Bool}
    (head : Gathers first early) (tail : Gathers second late) :
    Gathers (first >>= fun vifs => second >>= fun more => pure (vifs ++ more))
      (early || late) := by
  intro call
  obtain ⟨vifs, ⟨rfl, done⟩ | ⟨rfl, ex, raised⟩⟩ := head call
  · obtain ⟨more, ⟨rfl, ended⟩ | ⟨rfl, ex, raised⟩⟩ := tail (call.obtain vifs)
    · refine ⟨vifs ++ more, .inl ⟨rfl, ?_⟩⟩
      rw [exec_bind_of_ok done, exec_bind_of_ok ended, Call.obtain_obtain]
      rfl
    · refine ⟨vifs ++ more, .inr ⟨rfl, ex, ?_⟩⟩
      rw [exec_bind_of_ok done, exec_bind_of_error raised, Call.obtain_obtain]
  · exact ⟨vifs, .inr ⟨rfl, ex, exec_bind_of_error raised⟩⟩

theorem requestVif_gathers (answer : Except PyException (Option Vif)) :
    Gathers (requestVif answer >>= fun vif => pure vif.toList) (raises answer) := by
  intro call
  cases answer with
  | ok vif => exact ⟨vif.toList, .inl ⟨rfl, rfl⟩⟩
  | error ex => exact ⟨[], .inr ⟨rfl, ex, by rw [Call.obtain_nil]; rfl⟩⟩

theorem gatherVifs_gathers (turns : List (Except PyException (Option Vif))) :
    Gathers (gatherVifs turns) (turns.any raises) := by
  induction turns with
  | nil => exact gathers_nil
  | cons turn rest ih =>
      have steps := (requestVif_gathers turn).append ih
      simp only [bind_assoc, pure_bind] at steps
      exact steps

/-- A driver raises for a pod. -/
def MultiVifDriver.fails (driver : MultiVifDriver) (pod : Pod) : Bool :=
  match driver.turns pod with
  | .ok turns => turns.any raises
  | .error _ => true

theorem MultiVifDriver.gathers (driver : MultiVifDriver) (pod : Pod) :
    Gathers (driver.requestAdditionalVifs pod) (driver.fails pod) := by
  unfold MultiVifDriver.requestAdditionalVifs MultiVifDriver.fails
  cases driver.turns pod with
  | ok turns => exact gatherVifs_gathers turns
  | error ex =>
      intro call
      exact ⟨[], .inr ⟨rfl, ex, by rw [Call.obtain_nil]; rfl⟩⟩

theorem requestAdditionalVifs_gathers (pod : Pod) (drivers : List MultiVifDriver) :
    Gathers (requestAdditionalVifs pod drivers) (drivers.any (·.fails pod)) := by
  induction drivers with
  | nil => exact gathers_nil
  | cons driver rest ih => exact (driver.gathers pod).append ih

/-! ## Releases -/

theorem exec_releaseVifs (state : PodState) (call : Call) :
    exec (releaseVifs state) call =
      (.ok ⟨⟩, { call with released := call.released ++ state.vifs.values }) := by
  unfold releaseVifs
  induction state.vifs.values generalizing call with
  | nil => simp
  | cons vif rest ih =>
      rw [forM_cons_eq, releaseVif, exec_modify_bind]
      change exec (rest.forM releaseVif) _ = _
      rw [ih, List.append_assoc, List.singleton_append]

/-! ## Calls that get no port -/

/-- No port is requested. -/
abbrev obtainedFrame : Frame Call :=
  Frame.same Call.obtained

theorem answered_keeps {α : Type} (frame : Frame Call) (answer : Except PyException α) :
    frame.Keeps (answered answer) := by
  cases answer with
  | ok value => exact Frame.keeps_pure value
  | error ex => exact Frame.keeps_throw ex

theorem unlessNotReady_keeps {α : Type} (frame : Frame Call)
    (answer : Except PyException α) (default : α) :
    frame.Keeps (unlessNotReady answer default) := by
  unfold unlessNotReady
  split
  · exact Frame.keeps_pure _
  · exact answered_keeps frame answer

theorem releaseVifs_keepsObtained (state : PodState) :
    obtainedFrame.Keeps (releaseVifs state) :=
  Frame.Keeps.forM fun _ _ => Frame.keeps_modify fun _ => rfl

theorem onDeleted_keepsObtained (answers : Answers) (pod : Pod) :
    obtainedFrame.Keeps (onDeleted answers pod) := by
  apply Frame.Keeps.ite
  · exact Frame.keeps_pure _
  · refine Frame.Keeps.bind (answered_keeps _ _) fun _ => ?_
    refine Frame.Keeps.bind (unlessNotReady_keeps _ _ _) fun _ => ?_
    refine Frame.Keeps.bind (unlessNotReady_keeps _ _ _) fun _ => ?_
    cases pod.podState with
    | none => exact answered_keeps _ _
    | some state =>
        exact Frame.Keeps.bind (releaseVifs_keepsObtained state) fun _ => answered_keeps _ _

theorem reraise_keeps (frame : Frame Call) (raised : Option PyException) :
    frame.Keeps (reraise raised) := by
  cases raised with
  | none => exact Frame.keeps_pure _
  | some ex => exact Frame.keeps_throw ex

theorem activatePorts_keeps (frame : Frame Call) (answers : Answers) (state : PodState) :
    frame.Keeps (activatePorts answers state) := by
  unfold activatePorts
  split
  · exact Frame.Keeps.bind (reraise_keeps frame _) fun _ => Frame.keeps_pure _
  · exact Frame.keeps_pure _

theorem updatePolicies_keeps (frame : Frame Call) (answers : Answers) :
    frame.Keeps (updatePolicies answers) := by
  apply Frame.Keeps.ite
  · exact Frame.Keeps.bind (answered_keeps _ _) fun _ => answered_keeps _ _
  · exact Frame.keeps_pure _

theorem onPresentFinish_keepsObtained (answers : Answers) (pending : Pending)
    (outcome : Except PyException Unit) :
    obtainedFrame.Keeps (onPresentFinish answers pending outcome) := by
  unfold onPresentFinish
  split
  · exact Frame.keeps_pure _
  · exact Frame.keeps_throw _
  · exact Frame.keeps_pure _
  · exact Frame.Keeps.ite (releaseVifs_keepsObtained _) (Frame.keeps_throw _)
  · exact Frame.Keeps.bind (updatePolicies_keeps _ _) fun _ => reraise_keeps _ _
  · refine Frame.Keeps.bind (releaseVifs_keepsObtained _) fun _ => ?_
    exact Frame.Keeps.bind (updatePolicies_keeps _ _) fun _ => reraise_keeps _ _
  · exact Frame.keeps_throw _

/-! ## Calls that get a port -/

/-- The main VIF that a call of `on_present` gets, if it comes to request one. -/
def mainVifFor (answers : Answers) (pod : Pod) : Option Vif :=
  if pod.isCompleted ∨ pod.isHostNetwork ∨ !pod.isScheduled ∨ raises answers.project ∨
      raises answers.securityGroups ∨ pod.podState.isSome ∨ raises answers.subnets then
    none
  else
    match answers.mainVif with
    | .ok vif => vif
    | .error _ => none

theorem requestPorts_of_mainVif {answers : Answers} {vif : Vif} (pod : Pod)
    (found : raises answers.subnets = false) (given : answers.mainVif = .ok (some vif))
    (call : Call) :
    exec (requestPorts answers pod) call =
      exec (requestAdditionalVifs pod answers.drivers >>= fun vifs =>
        pure (some (.fresh (podStateOf answers.ifnamePrefix vif vifs)))) (call.obtain [vif]) := by
  cases subnets : answers.subnets with
  | error ex =>
      rw [subnets] at found
      cases found
  | ok value =>
      simp only [requestPorts, subnets, given]
      rfl

theorem requestPorts_keepsObtained {answers : Answers} (pod : Pod)
    (nothing : raises answers.subnets = true ∨ ∀ vif, answers.mainVif ≠ .ok (some vif)) :
    obtainedFrame.Keeps (requestPorts answers pod) := by
  unfold requestPorts
  split
  · exact Frame.keeps_pure _
  · exact Frame.keeps_pure _
  · exact Frame.keeps_throw _
  · rename_i subnets found
    rcases nothing with raised | ungiven
    · rw [found] at raised
      cases raised
    · intro call
      cases given : answers.mainVif with
      | error ex => rfl
      | ok vif =>
          cases vif with
          | none => exact List.append_nil _
          | some vif => exact absurd given (ungiven vif)

/-- A call that gets a main VIF goes on with the additional ones. -/
theorem onPresentStart_of_mainVif {answers : Answers} {pod : Pod} {vif : Vif}
    (gets : mainVifFor answers pod = some vif) (call : Call) :
    exec (onPresentStart answers pod) call =
      exec (requestAdditionalVifs pod answers.drivers >>= fun vifs =>
        pure (some (.fresh (podStateOf answers.ifnamePrefix vif vifs)))) (call.obtain [vif]) := by
  unfold mainVifFor at gets
  split at gets
  · cases gets
  · rename_i reaches
    simp only [not_or] at reaches
    obtain ⟨running, ownNetwork, scheduled, project, groups, unannotated, subnets⟩ := reaches
    have given : answers.mainVif = .ok (some vif) := by
      cases answer : answers.mainVif with
      | error ex => simp [answer] at gets
      | ok value => simpa [answer] using gets
    have none : pod.podState = none := by simpa using unannotated
    unfold onPresentStart
    rw [if_neg running, if_neg (by simp [ownNetwork, scheduled])]
    cases projectId : answers.project with
    | error ex => simp [projectId, raises] at project
    | ok value =>
        cases securityGroups : answers.securityGroups with
        | error ex => simp [securityGroups, raises] at groups
        | ok value =>
            simp only [none]
            exact requestPorts_of_mainVif pod (by simpa using subnets) given call

/-- A call that comes to its request without getting a main VIF. -/
theorem ungiven_of_mainVifFor {answers : Answers} {pod : Pod}
    (nothing : mainVifFor answers pod = none) (running : ¬pod.isCompleted = true)
    (scheduled : ¬(pod.isHostNetwork = true ∨ (!pod.isScheduled) = true))
    (project : raises answers.project = false)
    (groups : raises answers.securityGroups = false) (unannotated : pod.podState = none) :
    raises answers.subnets = true ∨ ∀ vif, answers.mainVif ≠ .ok (some vif) := by
  rw [not_or] at scheduled
  by_cases found : raises answers.subnets = true
  · exact .inl found
  · right
    intro vif given
    simp [mainVifFor, running, scheduled, project, groups, unannotated, given] at nothing
    exact found nothing

/-- A call that gets no main VIF gets no port at all. -/
theorem onPresentStart_keepsObtained {answers : Answers} {pod : Pod}
    (nothing : mainVifFor answers pod = none) :
    obtainedFrame.Keeps (onPresentStart answers pod) := by
  unfold onPresentStart
  split
  · cases pod.podState with
    | none => exact Frame.keeps_pure _
    | some state =>
        exact Frame.Keeps.bind (onDeleted_keepsObtained answers pod) fun _ =>
          Frame.keeps_pure _
  · rename_i running
    split
    · exact Frame.keeps_pure _
    · rename_i scheduled
      cases projectId : answers.project with
      | error ex => exact Frame.keeps_throw ex
      | ok value =>
          cases securityGroups : answers.securityGroups with
          | error ex => exact Frame.keeps_throw ex
          | ok value =>
              cases annotated : pod.podState with
              | some state => exact activatePorts_keeps _ answers state
              | none =>
                  exact requestPorts_keepsObtained pod (ungiven_of_mainVifFor nothing running
                    scheduled (by rw [projectId]; rfl) (by rw [securityGroups]; rfl) annotated)

/-! ## Leaks -/

/-- The write was not done, and ended in an exception that is no client exception. -/
def Stored.lost (write : Stored) : Bool :=
  match write.outcome with
  | .ok _ => false
  | .error ex => !write.applied && !ex.isK8sClientException

/-- The calls that keep a port back: one got its main VIF, and then a multi-VIF
driver raised, or the write was lost. -/
def Leaks (answers : Answers) (write : Stored) (pod : Pod) : Prop :=
  (mainVifFor answers pod).isSome ∧
    (answers.drivers.any (·.fails pod) ∨ write.lost)

instance (answers : Answers) (write : Stored) (pod : Pod) :
    Decidable (Leaks answers write pod) :=
  inferInstanceAs (Decidable (_ ∧ _))

/-- Unless the annotation was stored, all ports of the call were released. -/
def GivesBack (call : Call) : Prop :=
  call.stored = false → ∀ vif ∈ call.obtained, vif ∈ call.released

theorem givesBack_of_nothing {answers : Answers} {pod : Pod} (write : Stored)
    (nothing : mainVifFor answers pod = none) :
    GivesBack (exec (onPresent answers write pod) {}).2 := by
  have kept : obtainedFrame.Keeps (onPresent answers write pod) := by
    refine Frame.Keeps.bind (onPresentStart_keepsObtained nothing) fun pending => ?_
    cases pending with
    | none => exact Frame.keeps_pure _
    | some pending =>
        exact Frame.Keeps.bind (Frame.keeps_modify fun _ => rfl) fun _ =>
          onPresentFinish_keepsObtained answers pending write.outcome
  intro _ vif obtained
  have same : (exec (onPresent answers write pod) {}).2.obtained = [] := kept {}
  rw [same] at obtained
  cases obtained

/-- A call that got its ports and whose write comes to `write`. -/
theorem onPresent_fresh {answers : Answers} {pod : Pod} {vif : Vif} {vifs : List Vif}
    (write : Stored) (gets : mainVifFor answers pod = some vif)
    (gathered : exec (requestAdditionalVifs pod answers.drivers) (Call.obtain {} [vif]) =
      (.ok vifs, (Call.obtain {} [vif]).obtain vifs)) :
    exec (onPresent answers write pod) {} =
      exec (onPresentFinish answers (.fresh (podStateOf answers.ifnamePrefix vif vifs))
        write.outcome)
        { (Call.obtain {} [vif]).obtain vifs with stored := write.applied } := by
  have started : exec (onPresentStart answers pod) {} =
      (.ok (some (.fresh (podStateOf answers.ifnamePrefix vif vifs))),
        (Call.obtain {} [vif]).obtain vifs) := by
    rw [onPresentStart_of_mainVif gets, exec_bind_of_ok gathered]
    rfl
  rw [onPresent, exec_bind_of_ok started]
  rfl

theorem onPresent_interrupted {answers : Answers} {pod : Pod} {vif : Vif} {vifs : List Vif}
    {ex : PyException} (write : Stored) (gets : mainVifFor answers pod = some vif)
    (raised : exec (requestAdditionalVifs pod answers.drivers) (Call.obtain {} [vif]) =
      (.error ex, (Call.obtain {} [vif]).obtain vifs)) :
    exec (onPresent answers write pod) {} =
      (.error ex, (Call.obtain {} [vif]).obtain vifs) := by
  rw [onPresent]
  apply exec_bind_of_error
  rw [onPresentStart_of_mainVif gets]
  exact exec_bind_of_error raised

/-- After the write a call gives its ports back unless the write was lost. -/
theorem givesBack_finish_iff (answers : Answers) (write : Stored) (vif : Vif)
    (vifs : List Vif) :
    GivesBack (exec (onPresentFinish answers
        (.fresh (podStateOf answers.ifnamePrefix vif vifs)) write.outcome)
        { (Call.obtain {} [vif]).obtain vifs with stored := write.applied }).2 ↔
      write.lost = false := by
  obtain ⟨outcome, applied, appliedOfOk⟩ := write
  cases outcome with
  | ok value =>
      constructor
      · intro _
        rfl
      · rintro _ unstored
        exact absurd (unstored.symm.trans (appliedOfOk rfl)) (by decide)
  | error ex =>
      simp only [onPresentFinish, Stored.lost]
      cases client : ex.isK8sClientException with
      | true =>
          simp only [ite_true, Bool.not_true, Bool.and_false, iff_true]
          rintro _ obtained member
          rw [exec_releaseVifs, vifs_podStateOf] at *
          exact member
      | false =>
          simp only [Bool.false_eq_true, ite_false, Bool.not_false, Bool.and_true]
          constructor
          · intro givesBack
            cases applied with
            | true => rfl
            | false => cases givesBack rfl vif List.mem_cons_self
          · rintro stored unstored
            have stored : applied = true := by simpa using stored
            exact absurd (unstored.symm.trans stored) (by decide)

/-- A call of `on_present` that leaves without having stored the annotation has
released all its ports, exactly when it is no leaking call. -/
theorem onPresent_gives_back_iff (answers : Answers) (write : Stored) (pod : Pod) :
    GivesBack (exec (onPresent answers write pod) {}).2 ↔ ¬Leaks answers write pod := by
  cases gets : mainVifFor answers pod with
  | none =>
      have harmless : ¬Leaks answers write pod := by simp [Leaks, gets]
      exact iff_of_true (givesBack_of_nothing write gets) harmless
  | some vif =>
      obtain ⟨vifs, ⟨quiet, gathered⟩ | ⟨fails, ex, raised⟩⟩ :=
        requestAdditionalVifs_gathers pod answers.drivers (Call.obtain {} [vif])
      · rw [onPresent_fresh write gets gathered, givesBack_finish_iff]
        simp [Leaks, gets, quiet]
      · have leaks : Leaks answers write pod := ⟨by rw [gets]; rfl, .inl fails⟩
        rw [onPresent_interrupted write gets raised]
        apply iff_of_false
        · intro givesBack
          cases givesBack rfl vif List.mem_cons_self
        · exact not_not_intro leaks

/-- A network attachment definition that does not exist keeps the main VIF
back. -/
theorem onPresent_not_always_gives_back :
    ¬∀ (answers : Answers) (write : Stored) (pod : Pod),
      GivesBack (exec (onPresent answers write pod) {}).2 := by
  intro givesBack
  let network : NetworkElement := { name := some "net" }
  let npwg : NpwgAnswers :=
    { loads := fun _ => some [network]
      getNad := fun _ _ => .error .k8sClientException
      requestVif := fun _ => .ok none }
  let answers : Answers :=
    { mainVif := .ok (some { id := "port", network := ⟨"net-id"⟩ })
      drivers := [.npwg npwg] }
  let pod : Pod :=
    { name := "pod", namespaceName := "default", uid := "uid"
      networksAnnotation := some "[\x7b\"name\": \"net\"\x7d]"
      nodeName := some "node", phase := some "Pending" }
  have leaks := givesBack answers ⟨.ok (), true, fun _ => rfl⟩ pod
  revert leaks
  unfold GivesBack
  decide

end KuryrKubernetes.Handlers
