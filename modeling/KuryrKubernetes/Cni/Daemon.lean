import KuryrKubernetes.Objects
import KuryrKubernetes.Transition.Run

/-!
# Failures of the CNI daemon

`DaemonServer` answers ADD and DEL requests and counts those that failed; past
`cni_failures_count` it reports the daemon as unhealthy.  A run is a list of requests, each with
what becomes of it; next to the server it carries how many requests failed since one succeeded.
-/

namespace KuryrKubernetes.Cni

open KuryrKubernetes.Transition

/-! ## The server -/

/-- The values that the processes of the server share. -/
structure DaemonServer where
  failureCount : Nat := 0
  healthy : Bool := true
  deriving DecidableEq

/-- The status codes of the answers. -/
inductive HttpStatus where
  | accepted
  | noContent
  | badRequest
  | gatewayTimeout
  | internalServerError
  deriving DecidableEq

/-- The caller takes the answer for a failure. -/
def HttpStatus.isError : HttpStatus → Bool
  | .accepted | .noContent => false
  | .badRequest | .gatewayTimeout | .internalServerError => true

/-- What becomes of a request: its parameters can be read or not, and what the plugin raises. -/
structure Served where
  preparable : Bool := true
  outcome : Except PyException Unit := .ok ()

/-- A request for one of the two URLs. -/
inductive DaemonRequest where
  | addNetwork (served : Served)
  | delNetwork (served : Served)

namespace DaemonServer

variable (cniFailuresCount : Int)

/-- `_check_failure`. -/
def checkFailure (server : DaemonServer) : DaemonServer :=
  if (server.failureCount : Int) < cniFailuresCount then
    { server with failureCount := server.failureCount + 1 }
  else
    { server with healthy := false }

/-- `add`. -/
def add (server : DaemonServer) (served : Served) : HttpStatus × DaemonServer :=
  if served.preparable then
    match served.outcome with
    | .ok _ => (.accepted, server)
    | .error .resourceNotReady => (.gatewayTimeout, server.checkFailure cniFailuresCount)
    | .error _ => (.internalServerError, server.checkFailure cniFailuresCount)
  else
    (.badRequest, server.checkFailure cniFailuresCount)

/-- `delete`.  Unreadable parameters are not counted, and a pod that is gone is no failure. -/
def delete (server : DaemonServer) (served : Served) : HttpStatus × DaemonServer :=
  if served.preparable then
    match served.outcome with
    | .ok _ => (.noContent, server)
    | .error .resourceNotReady => (.noContent, server)
    | .error _ => (.internalServerError, server.checkFailure cniFailuresCount)
  else
    (.badRequest, server)

def handle (server : DaemonServer) : DaemonRequest → HttpStatus × DaemonServer
  | .addNetwork served => server.add cniFailuresCount served
  | .delNetwork served => server.delete cniFailuresCount served

/-- A request succeeds and leaves the server as it is, or fails and is counted or not. -/
def Accounted (server : DaemonServer) (answer : HttpStatus × DaemonServer) : Prop :=
  (answer.1.isError = false ∧ answer.2 = server) ∨
    (answer.1.isError = true ∧
      (answer.2 = server ∨ answer.2 = server.checkFailure cniFailuresCount))

theorem handle_accounted (server : DaemonServer) (request : DaemonRequest) :
    server.Accounted cniFailuresCount (server.handle cniFailuresCount request) := by
  cases request with
  | addNetwork served =>
      change server.Accounted cniFailuresCount (server.add cniFailuresCount served)
      unfold add
      split
      · split
        · exact .inl ⟨rfl, rfl⟩
        · exact .inr ⟨rfl, .inr rfl⟩
        · exact .inr ⟨rfl, .inr rfl⟩
      · exact .inr ⟨rfl, .inr rfl⟩
  | delNetwork served =>
      change server.Accounted cniFailuresCount (server.delete cniFailuresCount served)
      unfold delete
      split
      · split
        · exact .inl ⟨rfl, rfl⟩
        · exact .inl ⟨rfl, rfl⟩
        · exact .inr ⟨rfl, .inr rfl⟩
      · exact .inr ⟨rfl, .inl rfl⟩

end DaemonServer

/-! ## Runs -/

/-- The server, and how many requests failed since one succeeded. -/
structure Observed where
  server : DaemonServer := {}
  failedInARow : Nat := 0
  deriving DecidableEq

/-- A request is answered. -/
def Observed.next (cniFailuresCount : Int) (seen : Observed) (request : DaemonRequest) :
    Observed where
  server := (seen.server.handle cniFailuresCount request).2
  failedInARow :=
    if (seen.server.handle cniFailuresCount request).1.isError then seen.failedInARow + 1 else 0

def daemonStep (cniFailuresCount : Int) : Step Observed DaemonRequest :=
  fun seen request => some (seen.next cniFailuresCount request)

/-- A request succeeds only while no failure is counted, or once the daemon is unhealthy. -/
def SucceedsUncounted (cniFailuresCount : Int) (seen : Observed) (request : DaemonRequest) :
    Prop :=
  (seen.server.handle cniFailuresCount request).1.isError = false →
    seen.server.failureCount = 0 ∨ seen.server.healthy = false

/-- The failures that are counted came in a row. -/
def Observed.Consecutive (seen : Observed) : Prop :=
  seen.server.healthy = true → seen.server.failureCount ≤ seen.failedInARow

section

variable {cniFailuresCount : Int} {seen : Observed} {request : DaemonRequest}

theorem Observed.Consecutive.next (consecutive : seen.Consecutive)
    (uncounted : SucceedsUncounted cniFailuresCount seen request) :
    (seen.next cniFailuresCount request).Consecutive := by
  intro healthy
  unfold Observed.next at healthy ⊢
  rcases DaemonServer.handle_accounted cniFailuresCount seen.server request with
    ⟨succeeds, same⟩ | ⟨fails, same | counted⟩
  · rw [same] at healthy ⊢
    rcases uncounted succeeds with zero | unhealthy
    · rw [zero]
      exact Nat.zero_le _
    · rw [unhealthy] at healthy
      cases healthy
  · rw [same] at healthy ⊢
    have bounded := consecutive healthy
    rw [if_pos fails]
    exact Nat.le_succ_of_le bounded
  · rw [counted] at healthy ⊢
    rw [if_pos fails]
    unfold DaemonServer.checkFailure at healthy ⊢
    split at healthy
    · rename_i below
      have bounded := consecutive healthy
      rw [if_pos below]
      exact Nat.succ_le_succ bounded
    · cases healthy

theorem consecutive_preserved :
    PreservedBy (daemonStep cniFailuresCount) (SucceedsUncounted cniFailuresCount)
      Observed.Consecutive := by
  rintro seen request _ uncounted consecutive ⟨⟩
  exact consecutive.next uncounted

/-- A request that makes the daemon unhealthy is a failure, and as many as may be counted
failures are counted already. -/
theorem Observed.failed_of_unhealthy (healthy : seen.server.healthy = true)
    (unhealthy : (seen.next cniFailuresCount request).server.healthy = false) :
    (seen.next cniFailuresCount request).failedInARow = seen.failedInARow + 1 ∧
      cniFailuresCount ≤ seen.server.failureCount := by
  unfold Observed.next at unhealthy ⊢
  rcases DaemonServer.handle_accounted cniFailuresCount seen.server request with
    ⟨_, same⟩ | ⟨fails, same | counted⟩
  · rw [same, healthy] at unhealthy
    cases unhealthy
  · rw [same, healthy] at unhealthy
    cases unhealthy
  · rw [counted] at unhealthy
    unfold DaemonServer.checkFailure at unhealthy
    split at unhealthy
    · rw [healthy] at unhealthy
      cases unhealthy
    · rename_i full
      constructor
      · exact if_pos fails
      · exact Int.not_lt.mp full

/-- Where requests succeed only while no failure is counted, the request that makes the daemon
unhealthy is the last of more than `cni_failures_count` failures in a row. -/
theorem unhealthy_after_failures_in_a_row {requests : List DaemonRequest}
    (run : GuardedRun (daemonStep cniFailuresCount) (SucceedsUncounted cniFailuresCount) {}
      requests seen)
    (healthy : seen.server.healthy = true)
    (unhealthy : (seen.next cniFailuresCount request).server.healthy = false) :
    cniFailuresCount < (seen.next cniFailuresCount request).failedInARow := by
  have consecutive : seen.Consecutive :=
    run.invariant consecutive_preserved fun _ => Nat.le_refl 0
  have bounded := consecutive healthy
  rcases seen.failed_of_unhealthy healthy unhealthy with ⟨grows, full⟩
  rw [grows]
  omega

end

/-! ## Failures with successes in between -/

/-- An ADD request whose VIF was not annotated in time. -/
def timedOut : DaemonRequest :=
  .addNetwork { outcome := .error .resourceNotReady }

/-- A DEL request that is served. -/
def detached : DaemonRequest :=
  .delNetwork {}

/-- Four failures in a row make the daemon unhealthy. -/
theorem unhealthy_after_four_failures : ∃ seen,
    GuardedRun (daemonStep 3) (SucceedsUncounted 3) {}
      [detached, timedOut, timedOut, timedOut] seen ∧
    (seen.next 3 timedOut).server.healthy = false ∧
    (3 : Int) < (seen.next 3 timedOut).failedInARow := by
  have run : GuardedRun (daemonStep 3) (SucceedsUncounted 3) {}
      [detached, timedOut, timedOut, timedOut] ⟨⟨3, true⟩, 3⟩ := by
    apply GuardedRun.cons (fun _ => .inl rfl) rfl
    apply GuardedRun.cons (fun succeeds => by cases succeeds) rfl
    apply GuardedRun.cons (fun succeeds => by cases succeeds) rfl
    apply GuardedRun.cons (fun succeeds => by cases succeeds) rfl
    exact GuardedRun.nil _
  exact ⟨_, run, rfl, unhealthy_after_failures_in_a_row run rfl rfl⟩

/-- A success does not start the count anew: with a success after each failure the fourth one
still makes the daemon unhealthy. -/
theorem unhealthy_after_single_failures : ∃ seen,
    run (daemonStep 3) [timedOut, detached, timedOut, detached, timedOut, detached] {} =
      some seen ∧
    seen.server.healthy = true ∧ (seen.next 3 timedOut).server.healthy = false ∧
    (seen.next 3 timedOut).failedInARow = 1 :=
  ⟨⟨⟨3, true⟩, 0⟩, rfl, rfl, rfl, rfl⟩

end KuryrKubernetes.Cni
