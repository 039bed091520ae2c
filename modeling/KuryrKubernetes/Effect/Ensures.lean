import KuryrKubernetes.Effect.Program

/-!
# Results of stateful programs

A program ensures a property of its results within a frame: wherever it starts and
however it ends, it respects the frame, and a result that it ends with has the
property.  The rules follow the constructors of programs.

A program with an accumulator marks its changes if its result is the accumulator it
started from, in the state it started from, unless the result is marked.
-/

namespace KuryrKubernetes.Effect

universe u

variable {ε σ α β : Type u}

namespace Frame

/-- `program` keeps the frame, and its results have the property `post`. -/
def Ensures (frame : Frame σ) (program : Program ε σ α) (post : α → Prop) : Prop :=
  ∀ state, frame.rel state (exec program state).2 ∧
    ∀ value, (exec program state).1 = .ok value → post value

variable {frame : Frame σ} {post : α → Prop}

theorem Ensures.keeps {program : Program ε σ α} (ensured : frame.Ensures program post) :
    frame.Keeps program :=
  fun state => (ensured state).1

/-- A program that keeps a frame ensures what holds of every result. -/
theorem Keeps.ensures {program : Program ε σ α} (kept : frame.Keeps program)
    (holds : ∀ value, post value) : frame.Ensures program post :=
  fun state => ⟨kept state, fun value _ => holds value⟩

theorem ensures_pure {value : α} (holds : post value) :
    frame.Ensures (pure value : Program ε σ α) post := by
  intro state
  constructor
  · exact frame.refl state
  · intro result ended
    cases ended
    exact holds

theorem ensures_throw (exception : ε) :
    frame.Ensures (throw exception : Program ε σ α) post := by
  intro state
  constructor
  · exact frame.refl state
  · intro result ended
    cases ended

theorem Ensures.bind {mid : β → Prop} {first : Program ε σ β} {next : β → Program ε σ α}
    (head : frame.Ensures first mid) (tail : ∀ value, mid value → frame.Ensures (next value) post) :
    frame.Ensures (first >>= next) post := by
  intro state
  have start := head state
  rw [exec_bind]
  rcases ran : exec first state with ⟨outcome, middle⟩
  rw [ran] at start
  cases outcome with
  | error exception =>
      constructor
      · exact start.1
      · intro result ended
        cases ended
  | ok value =>
      have rest := tail value (start.2 value rfl) middle
      exact ⟨frame.trans start.1 rest.1, rest.2⟩

/-- A first part that keeps the frame leaves it to the rest to ensure something. -/
theorem Keeps.before {first : Program ε σ β} {next : β → Program ε σ α}
    (head : frame.Keeps first) (tail : ∀ value, frame.Ensures (next value) post) :
    frame.Ensures (first >>= next) post := by
  have unknown : frame.Ensures first fun _ => True := head.ensures fun _ => trivial
  exact unknown.bind fun value _ => tail value

theorem Ensures.mono {weaker : α → Prop} {program : Program ε σ α}
    (ensured : frame.Ensures program post) (implies : ∀ value, post value → weaker value) :
    frame.Ensures program weaker :=
  fun state => ⟨(ensured state).1, fun value ended => implies value ((ensured state).2 value ended)⟩

/-! ## Marked changes -/

/-- `program` keeps the frame, and with a result that is not marked it has changed
nothing. -/
def Marks (frame : Frame σ) (marked : α → Prop) (start : α) (program : Program ε σ α) : Prop :=
  ∀ state, frame.rel state (exec program state).2 ∧
    ∀ result, (exec program state).1 = .ok result →
      marked result ∨ result = start ∧ (exec program state).2 = state

variable {marked : α → Prop} {start : α}

theorem marks_pure : frame.Marks marked start (pure start : Program ε σ α) := by
  intro state
  constructor
  · exact frame.refl state
  · intro result ended
    cases ended
    exact .inr ⟨rfl, rfl⟩

theorem marks_throw (exception : ε) :
    frame.Marks marked start (throw exception : Program ε σ α) := by
  intro state
  constructor
  · exact frame.refl state
  · intro result ended
    cases ended

/-- A program whose results are all marked. -/
theorem Ensures.marks {program : Program ε σ α} (ensured : frame.Ensures program marked) :
    frame.Marks marked start program :=
  fun state => ⟨(ensured state).1, fun result ended => .inl ((ensured state).2 result ended)⟩

/-- A marked accumulator stays marked. -/
theorem Marks.ensures {program : Program ε σ α} (marks : frame.Marks marked start program)
    (begun : marked start) : frame.Ensures program marked := by
  intro state
  constructor
  · exact (marks state).1
  · intro result ended
    rcases (marks state).2 result ended with now | ⟨rfl, _⟩
    · exact now
    · exact begun

theorem Marks.bind {first : Program ε σ α} {next : α → Program ε σ α}
    (head : frame.Marks marked start first)
    (tail : ∀ value, frame.Marks marked value (next value)) :
    frame.Marks marked start (first >>= next) := by
  intro state
  obtain ⟨moved, ended⟩ := head state
  rw [exec_bind]
  rcases ran : exec first state with ⟨outcome, middle⟩
  rw [ran] at moved ended
  cases outcome with
  | error exception =>
      constructor
      · exact moved
      · intro result impossible
        cases impossible
  | ok value =>
      obtain ⟨movedOn, endedOn⟩ := tail value middle
      constructor
      · exact frame.trans moved movedOn
      · intro result finished
        rcases endedOn result finished with now | ⟨rfl, still⟩
        · exact .inl now
        · rcases ended result rfl with before | ⟨same, unmoved⟩
          · exact .inl before
          · exact .inr ⟨same, still.trans unmoved⟩

theorem Marks.ite {condition : Prop} [Decidable condition] {yes no : Program ε σ α}
    (left : frame.Marks marked start yes) (right : frame.Marks marked start no) :
    frame.Marks marked start (if condition then yes else no) := by
  split
  · exact left
  · exact right

end Frame

end KuryrKubernetes.Effect
