import KuryrKubernetes.Effect.Program

/-!
# Where programs return

A program gives a value under a condition: from whatever state, it returns that value
where the condition holds and raises where it does not.  The rules follow the
constructors of programs, so that the condition of a whole program is the conjunction
of those of its parts.
-/

namespace KuryrKubernetes.Effect

universe u

variable {ε σ α β ι : Type u}

/-- `program` returns `value` exactly where `condition` holds, and raises elsewhere. -/
def Gives (program : Program ε σ α) (condition : Prop) (value : α) : Prop :=
  ∀ state,
    (condition → ∃ after, exec program state = (.ok value, after)) ∧
      (¬condition → ∃ exception after, exec program state = (.error exception, after))

variable {condition later : Prop} {value : α} {result : β}

theorem gives_pure (value : α) : Gives (pure value : Program ε σ α) True value := by
  intro state
  constructor
  · intro _
    exact ⟨state, rfl⟩
  · intro impossible
    exact absurd trivial impossible

theorem gives_throw (exception : ε) (value : α) :
    Gives (throw exception : Program ε σ α) False value := by
  intro state
  constructor
  · rintro ⟨⟩
  · intro _
    exact ⟨exception, state, rfl⟩

theorem gives_modify (change : σ → σ) :
    Gives (modify change : Program ε σ PUnit) True ⟨⟩ := by
  intro state
  constructor
  · intro _
    exact ⟨change state, rfl⟩
  · intro impossible
    exact absurd trivial impossible

theorem Gives.congr {program : Program ε σ α} (gives : Gives program condition value)
    (same : condition ↔ later) : Gives program later value :=
  propext same ▸ gives

/-- A sequence returns where both parts do. -/
theorem Gives.bind {first : Program ε σ α} {next : α → Program ε σ β}
    (head : Gives first condition value) (tail : Gives (next value) later result) :
    Gives (first >>= next) (condition ∧ later) result := by
  intro state
  obtain ⟨returns, raises⟩ := head state
  by_cases holds : condition
  · obtain ⟨middle, ran⟩ := returns holds
    rw [exec_bind_of_ok ran]
    obtain ⟨returnsToo, raisesToo⟩ := tail middle
    constructor
    · intro both
      exact returnsToo both.2
    · intro notBoth
      exact raisesToo fun holdsToo => notBoth ⟨holds, holdsToo⟩
  · obtain ⟨exception, middle, ran⟩ := raises holds
    rw [exec_bind_of_error ran]
    constructor
    · intro both
      exact absurd both.1 holds
    · intro _
      exact ⟨exception, middle, rfl⟩

/-- A loop returns where every turn does. -/
theorem Gives.forM {body : ι → Program ε σ PUnit} {turn : ι → Prop} {items : List ι}
    (each : ∀ item ∈ items, Gives (body item) (turn item) ⟨⟩) :
    Gives (items.forM body) (∀ item ∈ items, turn item) ⟨⟩ := by
  induction items with
  | nil =>
      apply (gives_pure PUnit.unit).congr
      simp
  | cons item rest ih =>
      rw [forM_cons_eq]
      have remaining := ih fun other member => each other (List.mem_cons_of_mem item member)
      apply ((each item List.mem_cons_self).bind remaining).congr
      rw [List.forall_mem_cons]

theorem Gives.ite {test : Prop} [Decidable test] {yes no : Program ε σ α}
    (left : test → Gives yes condition value) (right : ¬test → Gives no condition value) :
    Gives (if test then yes else no) condition value := by
  split
  · rename_i holds
    exact left holds
  · rename_i fails
    exact right fails

/-- The outcome of a computation without state. -/
def settle (outcome : Except ε α) : Program ε σ α :=
  match outcome with
  | .ok value => pure value
  | .error exception => throw exception

@[simp]
theorem settle_ok (value : α) : (settle (.ok value) : Program ε σ α) = pure value :=
  rfl

@[simp]
theorem settle_error (exception : ε) :
    (settle (.error exception) : Program ε σ α) = throw exception :=
  rfl

/-- Without state there is nothing to change. -/
theorem Frame.keeps_settle {frame : Frame σ} (outcome : Except ε α) :
    frame.Keeps (settle outcome : Program ε σ α) := by
  cases outcome with
  | ok value => exact keeps_pure value
  | error exception => exact keeps_throw exception

/-- What follows a computation without state returns where both do. -/
theorem Gives.settle_bind {outcome : Except ε α} {next : α → Program ε σ β}
    (tail : ∀ value, outcome = .ok value → Gives (next value) later result) :
    Gives (settle outcome >>= next) ((∃ value, outcome = .ok value) ∧ later) result := by
  cases outcome with
  | ok value =>
      apply ((gives_pure value).bind (tail value rfl)).congr
      simp
  | error exception =>
      intro state
      rw [settle_error, exec_throw_bind]
      constructor
      · rintro ⟨⟨value, impossible⟩, _⟩
        cases impossible
      · intro _
        exact ⟨exception, state, rfl⟩

/-- What follows a computation without state keeps a frame for each of its values. -/
theorem Frame.Keeps.settle_bind {frame : Frame σ} {outcome : Except ε α}
    {next : α → Program ε σ β}
    (tail : ∀ value, outcome = .ok value → frame.Keeps (next value)) :
    frame.Keeps (settle outcome >>= next) := by
  intro state
  cases outcome with
  | ok value =>
      rw [settle_ok, exec_pure_bind]
      exact tail value rfl state
  | error exception =>
      rw [settle_error, exec_throw_bind]
      exact frame.refl state

/-- A program that gives a value under a condition ends with a result exactly there. -/
theorem Gives.exists_ok_iff {program : Program ε σ α} (gives : Gives program condition value)
    (state : σ) : (∃ found after, exec program state = (.ok found, after)) ↔ condition := by
  obtain ⟨returns, raises⟩ := gives state
  constructor
  · rintro ⟨found, after, ran⟩
    by_contra fails
    obtain ⟨exception, middle, raised⟩ := raises fails
    rw [raised] at ran
    cases ran
  · intro holds
    obtain ⟨after, ran⟩ := returns holds
    exact ⟨value, after, ran⟩

/-- A loop that returns has returned from each of its turns. -/
theorem turn_returns_of_forM {body : ι → Program ε σ PUnit} {items : List ι} {before after : σ}
    {done : PUnit} (ran : exec (items.forM body) before = (.ok done, after)) :
    ∀ item ∈ items, ∃ start result ended, exec (body item) start = (.ok result, ended) := by
  induction items generalizing before with
  | nil =>
      intro item listed
      cases listed
  | cons first rest ih =>
      rw [forM_cons_eq] at ran
      rcases exec_bind_eq_ok ran with ⟨result, middle, started, remaining⟩
      intro item listed
      rcases List.mem_cons.mp listed with rfl | later
      · exact ⟨before, result, middle, started⟩
      · exact ih remaining item later

end KuryrKubernetes.Effect
