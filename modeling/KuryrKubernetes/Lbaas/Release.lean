import KuryrKubernetes.Objects
import KuryrKubernetes.Transition.Descent

/-!
# The release of a load balancer

`release_loadbalancer` asks Octavia to delete the load balancer again and again; after a
refusal it waits until the load balancer is provisioned, and where that is in `ERROR`, the wait
releases the load balancer itself.  The three functions call each other, each with a timeout
of its own.  Here timers yield a given number of times, and what Octavia and Neutron answer is
given: the answers in a wait by its number, the others by the number of nested releases.
-/

namespace KuryrKubernetes.Lbaas.Release

open KuryrKubernetes.Transition

/-! ## Answers -/

/-- `provisioning_status`. -/
inductive ProvisioningStatus where
  | active
  | error
  | other (name : String)
  deriving DecidableEq

/-- What calls raise or return, and how often timers yield.  Each refused deletion has a wait
of its own, so that deletions and waits have the same numbers.  `listenersSg` is
`_find_listeners_sg`, and `gone` what `_wait_for_deletion` is answered. -/
structure Octavia where
  deletion : Nat → Option PyException
  status : Nat → Nat → Except PyException ProvisioningStatus
  waitYields : Nat → Nat
  releaseYields : Nat → Nat
  listenersSg : Nat → Except PyException (Option String)
  gone : Nat → Nat → Option PyException
  deletionYields : Nat → Nat
  sgDeletion : Nat → Option PyException

/-- How a function ends. -/
inductive Outcome where
  | returned
  | raised (ex : PyException)
  deriving DecidableEq

/-- `ConflictException` and `BadRequestException`. -/
def refuses (ex : PyException) : Bool :=
  ex = .neutronConflict ∨ ex = .neutronBadRequest

variable (octavia : Octavia)

/-! ## The functions -/

/-- `_wait_for_provisioning` from a turn on, where `released` is the outcome of
`release_loadbalancer`, if that ends. -/
def waitForProvisioning (status : Nat → Except PyException ProvisioningStatus)
    (released : Option Outcome) : Nat → Nat → Option Outcome
  | 0, _ => some (.raised .resourceNotReady)
  | yields + 1, turn =>
      match status turn with
      | .error ex => some (.raised ex)
      | .ok .active => some .returned
      | .ok .error =>
          match released with
          | none => none
          | some .returned => some (.raised .resourceNotReady)
          | some (.raised ex) => some (.raised ex)
      | .ok (.other _) => waitForProvisioning status released yields (turn + 1)

/-- The outcome of a turn that raised: `NotFoundException` ends `_release`, also where the
wait has raised it. -/
def caught (ex : PyException) : Outcome :=
  if ex = .neutronNotFound then .returned else .raised ex

/-- `_release` from a deletion on; `release` is what a nested `release_loadbalancer` gives
that goes on with the deletion of a number. -/
def release (nested : Nat → Option Outcome) : Nat → Nat → Option Outcome
  | 0, _ => some (.raised .resourceNotReady)
  | yields + 1, wait =>
      match octavia.deletion wait with
      | none => some .returned
      | some ex =>
          if refuses ex then
            match waitForProvisioning (octavia.status wait) (nested (wait + 1))
              (octavia.waitYields wait) 0 with
            | none => none
            | some .returned => release nested yields (wait + 1)
            | some (.raised raised) => some (caught raised)
          else
            some (caught ex)

/-- `_wait_for_deletion` from a turn on. -/
def waitForDeletion (gone : Nat → Option PyException) : Nat → Nat → Outcome
  | 0, _ => .returned
  | yields + 1, turn =>
      match gone turn with
      | none => waitForDeletion gone yields (turn + 1)
      | some ex => caught ex

/-- The security group of the listeners, once the load balancer is released. -/
def releaseListenersSg (level : Nat) : Outcome :=
  match octavia.listenersSg level with
  | .error ex => .raised ex
  | .ok none => .returned
  | .ok (some _) =>
      match waitForDeletion (octavia.gone level) (octavia.deletionYields level) 0 with
      | .raised ex => .raised ex
      | .returned =>
          match octavia.sgDeletion level with
          | none => .returned
          | some ex => if ex.isSdkException then .returned else .raised ex

/-- A call of `release_loadbalancer`: how many calls it is nested in, and the number of the
first deletion that it asks for. -/
structure ReleaseCall where
  level : Nat
  wait : Nat
  deriving DecidableEq

/-- `release_loadbalancer`, where calls are nested at most `depth` deep. -/
def releaseLoadbalancer : Nat → ReleaseCall → Option Outcome
  | 0, _ => none
  | depth + 1, call =>
      match release octavia (fun wait => releaseLoadbalancer depth ⟨call.level + 1, wait⟩)
        (octavia.releaseYields call.level) call.wait with
      | none => none
      | some .returned => some (releaseListenersSg octavia call.level)
      | some (.raised ex) => some (.raised ex)

/-- There is a bound on the depth with which the release ends. -/
def Terminates : Prop :=
  ∃ depth, (releaseLoadbalancer octavia depth ⟨0, 0⟩).isSome

/-! ## Endless releases -/

/-- From a turn on, a status is reported before the timer expires, and until then other ones
than `ACTIVE` and `ERROR`. -/
def Reports (status : Nat → Except PyException ProvisioningStatus) (yields turn : Nat)
    (reported : ProvisioningStatus) : Prop :=
  ∃ reports, turn ≤ reports ∧ reports < turn + yields ∧ status reports = .ok reported ∧
    ∀ earlier, turn ≤ earlier → earlier < reports → ∃ name, status earlier = .ok (.other name)

/-- The deletion is refused, and the wait after it comes to a status. -/
def Comes (wait : Nat) (reported : ProvisioningStatus) : Prop :=
  (∃ ex, octavia.deletion wait = some ex ∧ refuses ex) ∧
    Reports (octavia.status wait) (octavia.waitYields wait) 0 reported

/-- A release comes to `ERROR` before its timer expires, and the load balancer was `ACTIVE`
again after each deletion before; the nested release goes on with the next deletion. -/
def Nests (call later : ReleaseCall) : Prop :=
  later.level = call.level + 1 ∧
    ∃ last, later.wait = last + 1 ∧ call.wait ≤ last ∧
      last < call.wait + octavia.releaseYields call.level ∧
      (∀ wait, call.wait ≤ wait → wait < last → Comes octavia wait .active) ∧
      Comes octavia last .error

/-- Release after release comes to `ERROR`. -/
def Endless : Prop :=
  ∃ calls : Nat → ReleaseCall, calls 0 = ⟨0, 0⟩ ∧
    ∀ level, Nests octavia (calls level) (calls (level + 1))

/-! ## Waits -/

section Waits

variable {status : Nat → Except PyException ProvisioningStatus} {released : Option Outcome}

theorem reports_now {yields turn : Nat} {reported : ProvisioningStatus}
    (now : status turn = .ok reported) : Reports status (yields + 1) turn reported :=
  ⟨turn, le_refl _, by omega, now, fun earlier from_ before => absurd before (Nat.not_lt.mpr from_)⟩

theorem reports_later {yields turn : Nat} {reported : ProvisioningStatus} {name : String}
    (now : status turn = .ok (.other name)) (later : Reports status yields (turn + 1) reported) :
    Reports status (yields + 1) turn reported := by
  rcases later with ⟨reports, after, bound, found, others⟩
  refine ⟨reports, by omega, by omega, found, ?_⟩
  intro earlier from_ before
  rcases Nat.eq_or_lt_of_le from_ with rfl | past
  · exact ⟨name, now⟩
  · exact others earlier past before

/-- The first turn has reported the status, or one that is waited through. -/
theorem Reports.cases {yields turn : Nat} {reported : ProvisioningStatus}
    (reports : Reports status (yields + 1) turn reported) :
    status turn = .ok reported ∨
      (∃ name, status turn = .ok (.other name)) ∧ Reports status yields (turn + 1) reported := by
  rcases reports with ⟨reports, from_, bound, found, others⟩
  rcases Nat.eq_or_lt_of_le from_ with rfl | past
  · exact .inl found
  · right
    refine ⟨others turn (le_refl _) past, reports, past, by omega, found, ?_⟩
    intro earlier after before
    exact others earlier (by omega) before

theorem not_reports_zero {turn : Nat} {reported : ProvisioningStatus} :
    ¬Reports status 0 turn reported := by
  rintro ⟨reports, from_, bound, _⟩
  omega

/-- A wait that comes to `ACTIVE` returns. -/
theorem waitForProvisioning_of_active {yields turn : Nat}
    (reports : Reports status yields turn .active) :
    waitForProvisioning status released yields turn = some .returned := by
  induction yields generalizing turn with
  | zero => exact absurd reports not_reports_zero
  | succ yields ih =>
      unfold waitForProvisioning
      rcases reports.cases with now | ⟨⟨name, now⟩, later⟩
      · rw [now]
      · rw [now]
        exact ih later

/-- A wait that comes to `ERROR` ends where the nested release ends, and raises then. -/
theorem waitForProvisioning_of_error (released : Option Outcome) {yields turn : Nat}
    (reports : Reports status yields turn .error) :
    released = none ∧ waitForProvisioning status released yields turn = none ∨
      released.isSome ∧
        ∃ ex, waitForProvisioning status released yields turn = some (.raised ex) := by
  induction yields generalizing turn with
  | zero => exact absurd reports not_reports_zero
  | succ yields ih =>
      unfold waitForProvisioning
      rcases reports.cases with now | ⟨⟨name, now⟩, later⟩
      · rw [now]
        rcases released with _ | _ | ex
        · exact .inl ⟨rfl, rfl⟩
        · exact .inr ⟨rfl, _, rfl⟩
        · exact .inr ⟨rfl, _, rfl⟩
      · rw [now]
        exact ih later

theorem reports_of_returned {yields turn : Nat}
    (returned : waitForProvisioning status released yields turn = some .returned) :
    Reports status yields turn .active := by
  induction yields generalizing turn with
  | zero => cases returned
  | succ yields ih =>
      unfold waitForProvisioning at returned
      rcases now : status turn with ex | _ | _ | name
      · rw [now] at returned
        cases returned
      · exact reports_now now
      · rw [now] at returned
        rcases released with _ | _ | ex <;> cases returned
      · rw [now] at returned
        exact reports_later now (ih returned)

theorem reports_of_none {yields turn : Nat}
    (endless : waitForProvisioning status released yields turn = none) :
    Reports status yields turn .error := by
  induction yields generalizing turn with
  | zero => cases endless
  | succ yields ih =>
      unfold waitForProvisioning at endless
      rcases now : status turn with ex | _ | _ | name
      · rw [now] at endless
        cases endless
      · rw [now] at endless
        cases endless
      · exact reports_now now
      · rw [now] at endless
        exact reports_later now (ih endless)

end Waits

/-! ## One release -/

variable {octavia}

/-- A release that comes to `ERROR` ends where the nested one ends. -/
theorem release_isSome_iff {nested : Nat → Option Outcome} {yields wait last : Nat}
    (from_ : wait ≤ last) (bound : last < wait + yields)
    (active : ∀ between, wait ≤ between → between < last → Comes octavia between .active)
    (error : Comes octavia last .error) :
    (release octavia nested yields wait).isSome ↔ (nested (last + 1)).isSome := by
  induction yields generalizing wait with
  | zero => omega
  | succ yields ih =>
      rw [release]
      rcases Nat.eq_or_lt_of_le from_ with rfl | past
      · rcases error with ⟨⟨ex, refused, refuses_⟩, reports⟩
        rw [refused]
        dsimp only
        rw [if_pos refuses_]
        rcases waitForProvisioning_of_error (nested (wait + 1)) reports with
          ⟨none_, waits⟩ | ⟨some_, raised, waits⟩
        · rw [waits, none_]
        · rw [waits, some_]
          simp
      · rcases active wait (le_refl _) past with ⟨⟨ex, refused, refuses_⟩, reports⟩
        rw [refused]
        dsimp only
        rw [if_pos refuses_, waitForProvisioning_of_active reports]
        apply ih past (by omega)
        intro between after before
        exact active between (by omega) before

/-- A release that does not end has come to `ERROR`. -/
theorem exists_of_release_eq_none {nested : Nat → Option Outcome} {yields wait : Nat}
    (endless : release octavia nested yields wait = none) :
    ∃ last, wait ≤ last ∧ last < wait + yields ∧
      (∀ between, wait ≤ between → between < last → Comes octavia between .active) ∧
        Comes octavia last .error := by
  induction yields generalizing wait with
  | zero => cases endless
  | succ yields ih =>
      rw [release] at endless
      rcases refused : octavia.deletion wait with _ | ex
      · rw [refused] at endless
        cases endless
      · rw [refused] at endless
        dsimp only at endless
        split at endless
        · rename_i refuses_
          rcases waits : waitForProvisioning (octavia.status wait) (nested (wait + 1))
            (octavia.waitYields wait) 0 with _ | _ | raised
          · refine ⟨wait, le_refl _, by omega, ?_, ⟨ex, refused, refuses_⟩, reports_of_none waits⟩
            intro between from_ before
            omega
          · rw [waits] at endless
            rcases ih endless with ⟨last, from_, bound, active, error⟩
            refine ⟨last, by omega, by omega, ?_, error⟩
            intro between after before
            rcases Nat.eq_or_lt_of_le after with rfl | past
            · exact ⟨⟨ex, refused, refuses_⟩, reports_of_returned waits⟩
            · exact active between past before
          · rw [waits] at endless
            cases endless
        · cases endless

/-! ## Termination -/

theorem releaseLoadbalancer_isSome_iff (depth : Nat) (call : ReleaseCall) :
    (releaseLoadbalancer octavia (depth + 1) call).isSome ↔
      (release octavia (fun wait => releaseLoadbalancer octavia depth ⟨call.level + 1, wait⟩)
        (octavia.releaseYields call.level) call.wait).isSome := by
  rw [releaseLoadbalancer]
  rcases release octavia (fun wait => releaseLoadbalancer octavia depth ⟨call.level + 1, wait⟩)
    (octavia.releaseYields call.level) call.wait with _ | _ | ex
  · rfl
  · simp
  · simp

/-- Nested releases follow one another as `Nests` says. -/
theorem descends_releaseLoadbalancer : Descends (releaseLoadbalancer octavia) (Nests octavia) := by
  constructor
  · intro call
    rfl
  · intro call stops
    refine ⟨1, ?_⟩
    rw [releaseLoadbalancer_isSome_iff]
    by_contra endless
    rcases exists_of_release_eq_none (Option.not_isSome_iff_eq_none.mp endless) with
      ⟨last, from_, bound, active, error⟩
    exact stops ⟨call.level + 1, last + 1⟩ ⟨rfl, last, rfl, from_, bound, active, error⟩
  · rintro call ⟨level, wait⟩ ⟨nested, last, goesOn, from_, bound, active, error⟩ depth
    cases nested
    cases goesOn
    rw [releaseLoadbalancer_isSome_iff]
    exact release_isSome_iff from_ bound active error

/-- A release ends, at a bounded depth, exactly where Octavia does not refuse one deletion after
the other and bring every nested release to `ERROR`. -/
theorem terminates_iff (octavia : Octavia) : Terminates octavia ↔ ¬Endless octavia :=
  descends_releaseLoadbalancer.returns_iff ⟨0, 0⟩

/-- A load balancer that stays in `ERROR` and cannot be deleted. -/
def stuck : Octavia where
  deletion _ := some .neutronConflict
  status _ _ := .ok .error
  waitYields _ := 1
  releaseYields _ := 1
  listenersSg _ := .ok none
  gone _ _ := none
  deletionYields _ := 0
  sgDeletion _ := none

theorem not_terminates_stuck : ¬Terminates stuck := by
  have follows : ∀ level, Nests stuck ⟨level, level⟩ ⟨level + 1, level + 1⟩ := by
    intro level
    refine ⟨rfl, level, rfl, le_refl _, Nat.lt_succ_self _, ?_, ⟨_, rfl, rfl⟩, reports_now rfl⟩
    intro wait from_ before
    exact absurd before (Nat.not_lt.mpr from_)
  rintro ⟨depth, ends⟩
  exact descends_releaseLoadbalancer.none_of_chain follows depth 0 ends

end KuryrKubernetes.Lbaas.Release
