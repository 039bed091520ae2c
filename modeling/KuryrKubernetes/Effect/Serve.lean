import KuryrKubernetes.Effect.Leads

/-!
# Calls that may fail

A call of a service is served, or refused without effect, or cut: it raises after it took
effect.  How calls end is part of the state.
-/

namespace KuryrKubernetes.Effect

universe u

/-- How a call ends.  A call that is cut raises after it took effect. -/
inductive Ending (ε : Type u) where
  | served
  | refused (exception : ε)
  | cut (exception : ε)
  deriving DecidableEq

variable {ε σ α κ : Type u}

/-- The exception that a call ends with. -/
def Ending.exception? : Ending ε → Option ε
  | served => none
  | refused exception | cut exception => some exception

/-- The same ending, with another exception. -/
def Ending.map {ε' : Type u} (change : ε → ε') : Ending ε → Ending ε'
  | served => served
  | refused exception => refused (change exception)
  | cut exception => cut (change exception)

/-- What is there after a call: the effect, unless the call was refused. -/
def Ending.change {γ : Type u} (ending : Ending ε) (before after : γ) : γ :=
  match ending with
  | served | cut _ => after
  | refused _ => before

/-- What holds before a call and after its effect holds however it ends. -/
theorem Ending.change_cases {γ : Type u} (holds : γ → Prop) (ending : Ending ε)
    {before after : γ} (unchanged : holds before) (changed : holds after) :
    holds (ending.change before after) := by
  cases ending with
  | served | cut _ => exact changed
  | refused _ => exact unchanged

/-- An operation of a service, where the call ends as given for the state. -/
def serve (endings : σ → κ → Ending ε) (call : κ) (operation : Program ε σ α) :
    Program ε σ α := do
  let state ← get
  match endings state call with
  | .served => operation
  | .refused exception => throw exception
  | .cut exception => do
      let _ ← operation
      throw exception

variable {endings : σ → κ → Ending ε} {call : κ} {operation : Program ε σ α} {state : σ}

theorem exec_serve_of_served (served : endings state call = .served) :
    exec (serve endings call operation) state = exec operation state := by
  unfold serve
  rw [exec_get_bind, served]

theorem exec_serve_of_refused {exception : ε}
    (refused : endings state call = .refused exception) :
    exec (serve endings call operation) state = (.error exception, state) := by
  unfold serve
  rw [exec_get_bind, refused]
  rfl

theorem exec_serve_of_cut_of_ok {exception : ε} {value : α} {after : σ}
    (cut : endings state call = .cut exception)
    (ran : exec operation state = (.ok value, after)) :
    exec (serve endings call operation) state = (.error exception, after) := by
  unfold serve
  rw [exec_get_bind, cut]
  exact exec_bind_of_ok ran

/-- A call that is cut leaves what the operation leaves, and raises. -/
theorem exec_serve_of_cut {exception : ε} (cut : endings state call = .cut exception) :
    ∃ raised, exec (serve endings call operation) state =
      (.error raised, (exec operation state).2) := by
  unfold serve
  rw [exec_get_bind, cut]
  rcases ran : exec operation state with ⟨outcome, after⟩
  cases outcome with
  | ok value => exact ⟨exception, exec_bind_of_ok ran⟩
  | error raised => exact ⟨raised, exec_bind_of_error ran⟩

/-- A call keeps what its operation keeps, however it ends. -/
theorem Frame.Keeps.serve {frame : Frame σ} (kept : frame.Keeps operation) :
    frame.Keeps (serve endings call operation) := by
  apply keeps_get.bind
  intro state
  cases endings state call with
  | served => exact kept
  | refused exception => exact keeps_throw exception
  | cut exception => exact kept.bind fun _ => keeps_throw exception

/-- A call returns what the operation returns, and raises what it ends with or what the
operation raises. -/
theorem leads_serve_of {pre : σ → Prop} {post : α → σ → Prop} {escape : ε → σ → Prop}
    (leads : Leads pre operation post escape)
    (refused : ∀ exception state, endings state call = .refused exception → pre state →
      escape exception state)
    (cut : ∀ value exception before after, endings before call = .cut exception → pre before →
      post value after → escape exception after) :
    Leads pre (serve endings call operation) post escape := by
  intro before given
  rcases leads before given with ⟨returns, raises⟩
  unfold serve
  rw [exec_get_bind]
  rcases ending : endings before call with _ | exception | exception
  · exact ⟨returns, raises⟩
  · constructor
    · intro value after ran
      cases ran
    · intro raised after ran
      cases ran
      exact refused exception before ending given
  · rcases ran : exec operation before with ⟨outcome, middle⟩
    cases outcome with
    | ok value =>
        have reached := returns value middle ran
        constructor
        · intro result after ended
          rw [exec_bind_of_ok ran] at ended
          cases ended
        · intro raised after ended
          rw [exec_bind_of_ok ran] at ended
          cases ended
          exact cut value exception before middle ending given reached
    | error raised =>
        constructor
        · intro result after ended
          rw [exec_bind_of_error ran] at ended
          cases ended
        · intro final after ended
          rw [exec_bind_of_error ran] at ended
          cases ended
          exact raises raised middle ran

/-- A call returns what the operation returns, and leaves the state as the operation does or
as it was. -/
theorem leads_serve {pre : σ → Prop} {post : α → σ → Prop} {escape : ε → σ → Prop}
    (leads : Leads pre operation post escape)
    (refused : ∀ exception state, pre state → escape exception state)
    (cut : ∀ value exception state, post value state → escape exception state) :
    Leads pre (serve endings call operation) post escape := by
  apply leads_serve_of leads
  · intro exception state _ given
    exact refused exception state given
  · intro value exception before after _ _ reached
    exact cut value exception after reached

end KuryrKubernetes.Effect
