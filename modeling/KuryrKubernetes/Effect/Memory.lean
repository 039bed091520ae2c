import KuryrKubernetes.Effect.Program
import Mathlib.Data.List.Basic

/-!
# Programs over a memory of objects

A memory lists its objects, and a reference is a position in it.  New objects come after all
others: what there was stays a prefix of the memory, as long as only new objects are assigned to.
-/

namespace KuryrKubernetes.Effect

variable {ε β γ : Type} {base memory : List β} {reference : Nat} {object : β}

/-- A new object: its reference. -/
def newObject (object : β) : Program ε (List β) Nat := do
  let memory ← get
  set (memory ++ [object])
  return memory.length

/-- The object of a reference becomes another one. -/
def assignObject (reference : Nat) (object : β) : Program ε (List β) PUnit :=
  modify (·.set reference object)

/-- A part of the object of a reference; `missing` is raised where it has none. -/
def readObject (missing : ε) (part : β → Option γ) (reference : Nat) : Program ε (List β) γ := do
  match (← get)[reference]?.bind part with
  | some value => return value
  | none => throw missing

@[simp]
theorem exec_newObject (object : β) (memory : List β) :
    exec (newObject object : Program ε (List β) Nat) memory =
      (.ok memory.length, memory ++ [object]) :=
  (rfl)

@[simp]
theorem exec_assignObject (reference : Nat) (object : β) (memory : List β) :
    exec (assignObject reference object : Program ε (List β) PUnit) memory =
      (.ok ⟨⟩, memory.set reference object) :=
  (rfl)

theorem exec_readObject (missing : ε) {part : β → Option γ} {value : γ}
    (there : memory[reference]? = some object) (has : part object = some value) :
    exec (readObject missing part reference) memory = (.ok value, memory) := by
  unfold readObject
  rw [exec_get_bind, there, Option.bind_some, has]
  rfl

theorem lt_length_of_there (there : memory[reference]? = some object) :
    reference < memory.length :=
  (List.getElem?_eq_some_iff.mp there).1

/-- The objects that there were are still there. -/
theorem there_of_old (old : base <+: memory) (there : base[reference]? = some object) :
    memory[reference]? = some object := by
  obtain ⟨rest, rfl⟩ := old
  rw [List.getElem?_append_left (lt_length_of_there there), there]

theorem prefix_append (old : base <+: memory) (objects : List β) : base <+: memory ++ objects :=
  old.trans (List.prefix_append memory objects)

/-- New objects can be assigned to. -/
theorem prefix_set (old : base <+: memory) (later : base.length ≤ reference) (object : β) :
    base <+: memory.set reference object := by
  obtain ⟨rest, rfl⟩ := old
  rw [List.set_append_right _ _ later]
  exact List.prefix_append _ _

theorem there_set_of_ne {other : Nat} (different : other ≠ reference) (object : β) :
    (memory.set reference object)[other]? = memory[other]? :=
  List.getElem?_set_ne (Ne.symm different)

end KuryrKubernetes.Effect
