import Mathlib.Order.Basic

/-!
# Stateful programs with exceptions

A program changes a state and ends with a result or an exception; what it did to
the state before it raised stays done.  `exec` runs a program and unfolds along
its constructors.  A frame is a reflexive and transitive relation between the
state before and the state after; programs that respect a frame are closed under
sequencing, loops and exception handlers, whatever their outcome.
-/

namespace KuryrKubernetes.Effect

universe u

variable {ε σ α β : Type u}

/-- Programs over a state `σ` that may raise an `ε`. -/
abbrev Program (ε σ α : Type u) :=
  ExceptT ε (StateM σ) α

/-- The outcome of a program and the state it leaves. -/
def exec (program : Program ε σ α) (state : σ) : Except ε α × σ :=
  StateT.run (ExceptT.run program) state

/-! ## Execution equations

The parentheses around `rfl` keep these equations rewrite rules: as definitional
equations the kernel would unfold both sides of every rewritten program. -/

@[simp]
theorem exec_pure (value : α) (state : σ) :
    exec (pure value : Program ε σ α) state = (.ok value, state) :=
  (rfl)

@[simp]
theorem exec_throw (exception : ε) (state : σ) :
    exec (throw exception : Program ε σ α) state = (.error exception, state) :=
  (rfl)

@[simp]
theorem exec_get (state : σ) : exec (get : Program ε σ σ) state = (.ok state, state) :=
  (rfl)

@[simp]
theorem exec_set (next state : σ) :
    exec (set next : Program ε σ PUnit) state = (.ok ⟨⟩, next) :=
  (rfl)

@[simp]
theorem exec_modify (change : σ → σ) (state : σ) :
    exec (modify change : Program ε σ PUnit) state = (.ok ⟨⟩, change state) :=
  (rfl)

/-- Sequencing passes a result on and stops at an exception. -/
theorem exec_bind (first : Program ε σ α) (next : α → Program ε σ β) (state : σ) :
    exec (first >>= next) state =
      match exec first state with
      | (.ok value, middle) => exec (next value) middle
      | (.error exception, middle) => (.error exception, middle) := by
  change (ExceptT.bindCont next (exec first state).1 : StateM σ (Except ε β))
    (exec first state).2 = _
  rcases exec first state with ⟨outcome, middle⟩
  cases outcome <;> rfl

theorem exec_bind_of_ok {first : Program ε σ α} {next : α → Program ε σ β}
    {state middle : σ} {value : α} (ran : exec first state = (.ok value, middle)) :
    exec (first >>= next) state = exec (next value) middle := by
  rw [exec_bind, ran]

theorem exec_bind_of_error {first : Program ε σ α} {next : α → Program ε σ β}
    {state middle : σ} {exception : ε} (ran : exec first state = (.error exception, middle)) :
    exec (first >>= next) state = (.error exception, middle) := by
  rw [exec_bind, ran]

/-- A sequence that ends with a result passed through a result of its first part. -/
theorem exec_bind_eq_ok {first : Program ε σ α} {next : α → Program ε σ β}
    {state final : σ} {result : β}
    (ran : exec (first >>= next) state = (.ok result, final)) :
    ∃ value middle, exec first state = (.ok value, middle) ∧
      exec (next value) middle = (.ok result, final) := by
  rw [exec_bind] at ran
  rcases head : exec first state with ⟨outcome, middle⟩
  rw [head] at ran
  cases outcome with
  | error exception => cases ran
  | ok value => exact ⟨value, middle, rfl, ran⟩

@[simp]
theorem exec_pure_bind (value : α) (next : α → Program ε σ β) (state : σ) :
    exec (pure value >>= next) state = exec (next value) state :=
  (rfl)

@[simp]
theorem exec_get_bind (next : σ → Program ε σ β) (state : σ) :
    exec (get >>= next) state = exec (next state) state :=
  (rfl)

@[simp]
theorem exec_set_bind (changed : σ) (next : PUnit → Program ε σ β) (state : σ) :
    exec (set changed >>= next) state = exec (next ⟨⟩) changed :=
  (rfl)

@[simp]
theorem exec_modify_bind (change : σ → σ) (next : PUnit → Program ε σ β) (state : σ) :
    exec (modify change >>= next) state = exec (next ⟨⟩) (change state) :=
  (rfl)

@[simp]
theorem exec_throw_bind (exception : ε) (next : α → Program ε σ β) (state : σ) :
    exec (throw exception >>= next) state = (.error exception, state) :=
  (rfl)

@[simp]
theorem exec_map_modify (change : σ → σ) (value : PUnit → β) (state : σ) :
    exec (value <$> modify change : Program ε σ β) state = (.ok (value ⟨⟩), change state) :=
  (rfl)

/-- A handler runs in the state the exception was raised in. -/
theorem exec_tryCatch (body : Program ε σ α) (handler : ε → Program ε σ α) (state : σ) :
    exec (tryCatch body handler) state =
      match exec body state with
      | (.ok value, middle) => (.ok value, middle)
      | (.error exception, middle) => exec (handler exception) middle := by
  change (match (exec body state).1 with
    | .ok value => pure (.ok value)
    | .error exception => handler exception : StateM σ (Except ε α)) (exec body state).2 = _
  rcases exec body state with ⟨outcome, middle⟩
  cases outcome <;> rfl

/-! ## Frames -/

/-- A reflexive and transitive relation between the states before and after. -/
structure Frame (σ : Type u) where
  rel : σ → σ → Prop
  refl : ∀ state, rel state state
  trans : ∀ {first second third}, rel first second → rel second third → rel first third

namespace Frame

/-- A view of the state stays the same. -/
def same {γ : Type u} (view : σ → γ) : Frame σ where
  rel before after := view after = view before
  refl _ := rfl
  trans first second := second.trans first

/-- A measure of the state does not grow. -/
def antitone {γ : Type*} [Preorder γ] (measure : σ → γ) : Frame σ where
  rel before after := measure after ≤ measure before
  refl _ := le_refl _
  trans first second := second.trans first

/-- A property of the state is not lost. -/
def stable (property : σ → Prop) : Frame σ where
  rel before after := property before → property after
  refl _ := id
  trans first second := second ∘ first

/-- Two frames at once. -/
def both (left right : Frame σ) : Frame σ where
  rel before after := left.rel before after ∧ right.rel before after
  refl state := ⟨left.refl state, right.refl state⟩
  trans first second := ⟨left.trans first.1 second.1, right.trans first.2 second.2⟩

/-- `program` leads from every state to a related one, whatever its outcome. -/
def Keeps (frame : Frame σ) (program : Program ε σ α) : Prop :=
  ∀ state, frame.rel state (exec program state).2

variable {frame : Frame σ}

theorem keeps_pure (value : α) : frame.Keeps (pure value : Program ε σ α) :=
  fun state => frame.refl state

theorem keeps_throw (exception : ε) : frame.Keeps (throw exception : Program ε σ α) :=
  fun state => frame.refl state

theorem keeps_get : frame.Keeps (get : Program ε σ σ) :=
  fun state => frame.refl state

theorem keeps_modify {change : σ → σ} (related : ∀ state, frame.rel state (change state)) :
    frame.Keeps (modify change : Program ε σ PUnit) :=
  related

theorem Keeps.bind {first : Program ε σ α} {next : α → Program ε σ β}
    (head : frame.Keeps first) (tail : ∀ value, frame.Keeps (next value)) :
    frame.Keeps (first >>= next) := by
  intro state
  have start := head state
  rw [exec_bind]
  rcases ran : exec first state with ⟨outcome, middle⟩
  rw [ran] at start
  cases outcome with
  | error exception => exact start
  | ok value => exact frame.trans start (tail value middle)

theorem Keeps.tryCatch {body : Program ε σ α} {handler : ε → Program ε σ α}
    (head : frame.Keeps body) (tail : ∀ exception, frame.Keeps (handler exception)) :
    frame.Keeps (tryCatch body handler) := by
  intro state
  have start := head state
  rw [exec_tryCatch]
  rcases ran : exec body state with ⟨outcome, middle⟩
  rw [ran] at start
  cases outcome with
  | error exception => exact frame.trans start (tail exception middle)
  | ok value => exact start

theorem Keeps.ite {condition : Prop} [Decidable condition]
    {yes no : Program ε σ α} (left : frame.Keeps yes) (right : frame.Keeps no) :
    frame.Keeps (if condition then yes else no) := by
  split
  · exact left
  · exact right

/-- A program that keeps a frame keeps every coarser one. -/
theorem Keeps.mono {fine coarse : Frame σ} {program : Program ε σ α}
    (kept : fine.Keeps program)
    (implies : ∀ before after, fine.rel before after → coarse.rel before after) :
    coarse.Keeps program :=
  fun state => implies _ _ (kept state)

/-- A property that the first part brings about, whatever its outcome, is there after the whole. -/
theorem stable_bind {property : σ → Prop} {first : Program ε σ α} {next : α → Program ε σ β}
    {state : σ} (start : property (exec first state).2)
    (tail : ∀ value, (stable property).Keeps (next value)) :
    property (exec (first >>= next) state).2 := by
  rw [exec_bind]
  rcases ran : exec first state with ⟨outcome, middle⟩
  rw [ran] at start
  cases outcome with
  | error exception => exact start
  | ok value => exact tail value middle start

theorem Keeps.both {left right : Frame σ} {program : Program ε σ α}
    (first : left.Keeps program) (second : right.Keeps program) :
    (left.both right).Keeps program :=
  fun state => ⟨first state, second state⟩

end Frame

/-! ## Loops -/

variable {ι : Type u}

@[simp]
theorem exec_forM_nil (body : ι → Program ε σ PUnit) (state : σ) :
    exec (([] : List ι).forM body) state = (.ok ⟨⟩, state) :=
  rfl

theorem forM_cons_eq (body : ι → Program ε σ PUnit) (item : ι) (rest : List ι) :
    (item :: rest).forM body = body item >>= fun _ => rest.forM body :=
  rfl

/-- Nested loops run over one flat list. -/
theorem forM_flatMap_map_eq {κ : Type u} (outer : List ι) (inner : ι → List κ)
    (body : ι → κ → Program ε σ PUnit) :
    (outer.forM fun item => (inner item).forM (body item)) =
      (outer.flatMap fun item => (inner item).map fun part => (item, part)).forM
        fun pair => body pair.1 pair.2 := by
  induction outer with
  | nil => rfl
  | cons item rest ih =>
      rw [forM_cons_eq, ih, List.flatMap_cons]
      induction inner item with
      | nil => rfl
      | cons part more step =>
          rw [List.map_cons, List.cons_append, forM_cons_eq, forM_cons_eq, ← step,
            bind_assoc]

theorem Frame.Keeps.forM {frame : Frame σ} {body : ι → Program ε σ PUnit} {items : List ι}
    (each : ∀ item ∈ items, frame.Keeps (body item)) : frame.Keeps (items.forM body) := by
  induction items with
  | nil => exact keeps_pure _
  | cons item rest ih =>
      rw [forM_cons_eq]
      refine Keeps.bind (each item List.mem_cons_self) fun _ => ih ?_
      exact fun other member => each other (List.mem_cons_of_mem item member)

/-- Loop rule with an invariant about the items still to come: every turn takes
the invariant from its item on to the rest, and what holds at each point of the
loop may be left there by an exception. -/
theorem exec_forM_invariant {body : ι → Program ε σ PUnit}
    (invariant : List ι → σ → Prop) {items : List ι} {state : σ}
    (initial : invariant items state)
    (turn : ∀ item rest before, invariant (item :: rest) before →
      invariant rest (exec (body item) before).2) :
    ∃ rest, invariant rest (exec (items.forM body) state).2 := by
  induction items generalizing state with
  | nil => exact ⟨[], initial⟩
  | cons item rest ih =>
      have next := turn item rest state initial
      rw [forM_cons_eq, exec_bind]
      rcases ran : exec (body item) state with ⟨outcome, middle⟩
      rw [ran] at next
      cases outcome with
      | error exception => exact ⟨rest, next⟩
      | ok value => exact ih next

end KuryrKubernetes.Effect
