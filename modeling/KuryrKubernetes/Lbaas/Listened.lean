import KuryrKubernetes.Lbaas.Kept

/-!
# Listeners that are asked for

`ensure_listener` passes over a listener when a call ends with an error of the SDK.  Where
Octavia tells the status of load balancers and takes what is asked for as good, only other
exceptions come out of the tries, so that a listener is returned whenever the driver returns.
-/

namespace KuryrKubernetes.Lbaas.Octavia

open KuryrKubernetes.Data
open KuryrKubernetes.Effect

variable {Address : Type}

/-- Octavia tells the status of load balancers, and finds no request bad.  Any other call may
fail. -/
structure Environment.Attentive (environment : Environment Address) : Prop where
  status : ∀ number ex, (environment.endings number .status).exception? = some ex →
    ¬isSdkException ex
  accepts : ∀ number asks, (environment.endings number asks).exception? ≠ some .neutronBadRequest

/-- The program keeps an assertion, and what it raises is among these. -/
def Raises {α : Type} (holds : Store Address → Prop) (raised : PyException → Prop)
    (program : OctaviaM Address α) : Prop :=
  Leads holds program (fun _ => holds) fun ex store => holds store ∧ raised ex

namespace Raises

variable {α β : Type} {holds : Store Address → Prop} {raised : PyException → Prop}

theorem of_pure (value : α) : Raises holds raised (pure value) :=
  leads_pure fun _ given => given

theorem of_throw {ex : PyException} (given : raised ex) :
    Raises holds raised (throw ex : OctaviaM Address α) :=
  leads_throw fun _ there => ⟨there, given⟩

theorem bind {program : OctaviaM Address α} {next : α → OctaviaM Address β}
    (head : Raises holds raised program) (tail : ∀ value, Raises holds raised (next value)) :
    Raises holds raised (program >>= next) :=
  Leads.bind head tail

theorem get_bind {next : Store Address → OctaviaM Address α}
    (tail : ∀ store, Raises holds raised (next store)) : Raises holds raised (get >>= next) := by
  intro store given
  rw [exec_get_bind]
  exact tail store store given

/-- The handler deals with what the body raises. -/
theorem tryCatch {caught : PyException → Prop} {program : OctaviaM Address α}
    {handler : PyException → OctaviaM Address α} (head : Raises holds caught program)
    (tail : ∀ ex, caught ex → Raises holds raised (handler ex)) :
    Raises holds raised (tryCatch program handler) := by
  apply Leads.tryCatch head
  exact fun ex store given => tail ex given.2 store given.1

end Raises

section

variable {environment : Environment Address} (gentle : environment.Gentle)
  {neighbours : Neighbours Address} {holds : Store Address → Prop} (persistent : Persistent holds)
include gentle persistent

/-- A call raises what it ends with, or what its operation raises. -/
theorem call_raises {α : Type} {asks : Asks} {operation : OctaviaM Address α}
    {post : α → Store Address → Prop} {raised : PyException → Prop}
    (leads : Leads holds operation post fun ex store => holds store ∧ raised ex)
    (keeps : ∀ value store, post value store → holds store)
    (ends : ∀ number ex, (environment.endings number asks).exception? = some ex → raised ex) :
    Leads holds (call environment asks operation) post
      fun ex store => holds store ∧ raised ex := by
  intro before given
  have moved : holds ((environment.moves before.calls before).called before.calls) := by
    apply persistent.grows _ _ given
    · exact (gentle.sound before.calls before (persistent.sound before given)).of_subset
        (fun _ => id) (fun _ => id) (Nat.le_refl _)
    · obtain ⟨balancers, listeners, pools, members⟩ := gentle.within before.calls before
      exact ⟨balancers, listeners, pools, members⟩
  rw [call, exec_get_bind, exec_set_bind]
  apply Effect.leads_serve_of leads _ _ _ moved
  · intro ex store refused there
    exact ⟨there, ends before.calls ex (by rw [refused]; rfl)⟩
  · intro value ex _ after cut _ reached
    exact ⟨keeps value after reached, ends before.calls ex (by rw [cut]; rfl)⟩

section

variable (attentive : environment.Attentive) {loadbalancer : Loadbalancer Address}
  (there : ∀ store, holds store → ∃ lb ∈ store.balancers, lb.id = loadbalancer.id)
include attentive there

theorem getLoadBalancer_raises :
    Leads holds (Client.getLoadBalancer environment loadbalancer.id)
      (fun status store => holds store ∧ status ≠ .error)
      fun ex store => holds store ∧ ¬isSdkException ex := by
  apply call_raises gentle persistent
  · intro before given
    rw [exec_get_bind]
    cases found : before.balancers.find? (·.id = loadbalancer.id) with
    | none =>
        obtain ⟨lb, listed, same⟩ := there before given
        have missing := List.find?_eq_none.mp found lb listed
        simp [same] at missing
    | some lb =>
        have calm := (persistent.sound before given).calm lb (List.mem_of_find?_eq_some found)
        exact leads_pure (fun _ given => ⟨given, calm⟩) before given
  · exact fun _ _ both => both.1
  · exact attentive.status

theorem awaitActive_raises (turns : Nat) :
    Raises holds (¬isSdkException ·) (awaitActive environment neighbours loadbalancer turns) := by
  induction turns with
  | zero => exact Raises.of_throw (by decide)
  | succ turns ih =>
      apply (getLoadBalancer_raises gentle persistent attentive there).bind
      intro status
      cases status with
      | active => exact leads_pure fun _ both => both.1
      | error => exact fun _ both => absurd rfl both.2
      | other name => exact ih.weaken fun _ both => both.1

/-- The errors of the SDK stay in the tries. -/
theorem tryProvisioned_raises {α : Type} {create find : OctaviaM Address (Option α)}
    (creates : Raises holds (· ≠ .neutronBadRequest) create)
    (finds : Raises holds (· ≠ .neutronBadRequest) find) (turns : Nat) :
    Raises holds (¬isSdkException ·)
      (tryProvisioned environment neighbours loadbalancer create find turns) := by
  induction turns with
  | zero => exact Raises.of_throw (by decide)
  | succ turns ih =>
      apply Raises.bind
      · exact Raises.get_bind fun _ =>
          awaitActive_raises gentle persistent attentive there _
      · intro _
        have ensures : Raises holds (· ≠ .neutronBadRequest) (ensure create find) := by
          apply creates.tryCatch
          intro ex accepted
          split
          · exact finds
          · exact Raises.of_throw accepted
        apply Raises.bind
        · apply ensures.tryCatch
          intro ex accepted
          rw [if_neg accepted]
          split
          · exact Raises.of_pure none
          · rename_i other
            exact Raises.of_throw other
        · intro result
          cases result with
          | none => exact ih
          | some value => exact Raises.of_pure value

theorem ensureProvisioned_raises {α : Type} {create find : OctaviaM Address (Option α)}
    (creates : Raises holds (· ≠ .neutronBadRequest) create)
    (finds : Raises holds (· ≠ .neutronBadRequest) find) :
    Raises holds (¬isSdkException ·)
      (ensureProvisioned environment neighbours loadbalancer create find) :=
  Raises.get_bind fun _ =>
    tryProvisioned_raises gentle persistent attentive there creates finds _

/-- If the driver returns, it returns a listener. -/
theorem ensureListener_isSome (sgModeCreate : Bool) (protocol : String) (port : Nat) :
    Leads holds
      (ensureListener environment neighbours sgModeCreate loadbalancer protocol port)
      (fun answer _ => answer.isSome) fun _ _ => True := by
  have accepts {asks : Asks} (number : Nat) (ex : PyException)
      (ends : (environment.endings number asks).exception? = some ex) :
      ex ≠ .neutronBadRequest := by
    rintro rfl
    exact attentive.accepts number asks ends
  have creates (listener : Listener) :
      Raises holds (· ≠ .neutronBadRequest) (createListener environment listener) := by
    apply Raises.bind
    · apply call_raises gentle persistent _ (fun _ _ given => given) accepts
      intro store given
      rw [exec_get_bind, exec_set_bind]
      apply leads_pure (fun _ given => given)
      apply persistent.grows store _ given
      · exact (persistent.sound store given).addListener rfl
      · exact ⟨.of_subset fun _ => id, List.subset_append_left _ _, fun _ => id, fun _ => id⟩
    · exact fun _ => Raises.of_pure _
  have finds (listener : Listener) :
      Raises holds (· ≠ .neutronBadRequest) (findListener environment listener) := by
    apply Raises.bind
    · apply call_raises gentle persistent _ (fun _ _ given => given) accepts
      intro store given
      rw [exec_get_bind]
      exact leads_pure (fun _ given => given) store given
    · exact fun _ => Raises.of_pure _
  have listens (listener : Listener) : Raises holds (¬isSdkException ·)
      (ensureProvisioned environment neighbours loadbalancer (createListener environment listener)
        (findListener environment listener)) :=
    ensureProvisioned_raises gentle persistent attentive there (creates listener) (finds listener)
  have tried : Leads holds
      (tryCatch
        (do
          let result ← ensureProvisioned environment neighbours loadbalancer
            (createListener environment (requestedListener loadbalancer protocol port 0))
            (findListener environment (requestedListener loadbalancer protocol port 0))
          return some result)
        fun ex => if isSdkException ex then pure none else throw ex)
      (fun result _ => result.isSome) fun _ _ => True := by
    apply Leads.tryCatch
    · apply Leads.bind (listens _)
      exact fun _ => leads_pure fun _ _ => rfl
    · rintro ex store ⟨given, other⟩
      rw [if_neg other]
      exact leads_throw (fun _ _ => trivial) store given
  apply tried.bind
  intro result
  cases result with
  | none => exact fun _ missing => by cases missing
  | some listener =>
      cases sgModeCreate with
      | false => exact leads_pure fun _ _ => rfl
      | true =>
          apply Leads.settle_bind (fun _ _ _ _ => trivial)
          exact fun _ _ => leads_pure fun _ _ => rfl

end

end

end KuryrKubernetes.Lbaas.Octavia
