import Mathlib.Data.Set.Lattice
import KuryrKubernetes.Effect.Returns

/-!
# What programs add to a list

Programs whose state is a list that they add to.  The items are compared by a reading of
them; where the program returns, the readings of the list are those it had and those that
the program adds.  The rules follow the constructors of programs.
-/

namespace KuryrKubernetes.Effect

universe u v

variable {ε α β δ ι : Type u} {γ : Type v} {read : β → γ}

/-- The readings of the items of a list. -/
def readings (read : β → γ) (items : List β) : Set γ :=
  {reading | ∃ item ∈ items, read item = reading}

@[simp]
theorem readings_nil : readings read [] = ∅ := by
  ext reading
  simp [readings]

@[simp]
theorem readings_append (items others : List β) :
    readings read (items ++ others) = readings read items ∪ readings read others := by
  ext reading
  simp only [readings, List.mem_append, Set.mem_union, Set.mem_ofPred_eq, or_and_right, exists_or]

@[simp]
theorem readings_cons (item : β) (rest : List β) :
    readings read (item :: rest) = {read item} ∪ readings read rest := by
  ext reading
  simp [readings, eq_comm]

/-- Changes that cannot be read. -/
theorem readings_map {change : β → β} (same : ∀ item, read (change item) = read item)
    (items : List β) : readings read (items.map change) = readings read items := by
  ext reading
  simp [readings, same]

theorem mem_readings {item : β} {items : List β} (member : item ∈ items) :
    read item ∈ readings read items :=
  ⟨item, member, rfl⟩

/-- Wherever `program` returns, it has added the readings `added`. -/
def Adds (read : β → γ) (program : Program ε (List β) α) (added : Set γ) : Prop :=
  ∀ before value after, exec program before = (.ok value, after) →
    readings read after = readings read before ∪ added

variable {added more : Set γ}

theorem Adds.congr {program : Program ε (List β) α} (adds : Adds read program added)
    (same : added = more) : Adds read program more :=
  same ▸ adds

theorem adds_pure (value : α) : Adds read (pure value : Program ε (List β) α) ∅ := by
  intro before result after ran
  cases ran
  rw [Set.union_empty]

/-- Nothing returns from an exception. -/
theorem adds_throw (exception : ε) (added : Set γ) :
    Adds read (throw exception : Program ε (List β) α) added := by
  intro before result after ran
  cases ran

theorem adds_modify {change : List β → List β}
    (changes : ∀ items, readings read (change items) = readings read items ∪ added) :
    Adds read (modify change : Program ε (List β) PUnit) added := by
  intro before result after ran
  cases ran
  exact changes before

theorem adds_append (items : List β) :
    Adds read (modify (· ++ items) : Program ε (List β) PUnit) (readings read items) :=
  adds_modify fun before => readings_append before items

/-- A sequence adds what its parts add; the second one goes on from a value of the first. -/
theorem Adds.bind {first : Program ε (List β) α} {next : α → Program ε (List β) δ}
    (head : Adds read first added)
    (tail : ∀ value, (∃ before after, exec first before = (.ok value, after)) →
      Adds read (next value) more) :
    Adds read (first >>= next) (added ∪ more) := by
  intro before result after ran
  rcases exec_bind_eq_ok ran with ⟨value, middle, started, ended⟩
  rw [tail value ⟨before, middle, started⟩ middle result after ended,
    head before value middle started, Set.union_assoc]

/-- A sequence whose first part only works out a value. -/
theorem Adds.settle_bind {outcome : Except ε α} {next : α → Program ε (List β) δ}
    (tail : ∀ value, outcome = .ok value → Adds read (next value) added) :
    Adds read (settle outcome >>= next) added := by
  cases outcome with
  | ok value => exact tail value rfl
  | error exception =>
      intro before result after ran
      rw [settle_error, exec_throw_bind] at ran
      cases ran

theorem Adds.ite {test : Prop} [Decidable test] {yes no : Program ε (List β) α}
    (left : test → Adds read yes added) (right : ¬test → Adds read no added) :
    Adds read (if test then yes else no) added := by
  split
  · rename_i holds
    exact left holds
  · rename_i fails
    exact right fails

/-- A loop adds what its turns add. -/
theorem Adds.forM {body : ι → Program ε (List β) PUnit} {turn : ι → Set γ} {items : List ι}
    (each : ∀ item ∈ items, Adds read (body item) (turn item)) :
    Adds read (items.forM body) {reading | ∃ item ∈ items, reading ∈ turn item} := by
  induction items with
  | nil =>
      apply (adds_pure PUnit.unit).congr
      ext reading
      simp
  | cons item rest ih =>
      rw [forM_cons_eq]
      have remaining := ih fun other member => each other (List.mem_cons_of_mem item member)
      apply ((each item List.mem_cons_self).bind fun _ _ => remaining).congr
      ext reading
      simp only [List.mem_cons, exists_eq_or_imp, Set.mem_union, Set.mem_ofPred_eq]

end KuryrKubernetes.Effect
