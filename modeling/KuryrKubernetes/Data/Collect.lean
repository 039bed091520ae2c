import KuryrKubernetes.Data.Dict
import Mathlib.Data.List.Induction

/-!
# Dictionary comprehensions

The dictionary of the entries that the items of a list give.  Of several entries with one
key the last one stays.
-/

namespace KuryrKubernetes.Data

namespace Dict

variable {α κ ν : Type} [DecidableEq κ]

/-- `{key: value for item in items}`, where an item may give no entry. -/
def collect (entry : α → Option (κ × ν)) (items : List α) : Dict κ ν :=
  items.foldl
    (fun dict item =>
      match entry item with
      | some (key, value) => dict.set key value
      | none => dict)
    ∅

variable {entry : α → Option (κ × ν)}

@[simp]
theorem collect_nil : collect entry [] = ∅ :=
  rfl

theorem collect_concat (items : List α) (item : α) :
    collect entry (items ++ [item]) =
      match entry item with
      | some (key, value) => (collect entry items).set key value
      | none => collect entry items := by
  rw [collect, List.foldl_append]
  rfl

theorem collect_congr {other : α → Option (κ × ν)} {items : List α}
    (same : ∀ item ∈ items, entry item = other item) :
    collect entry items = collect other items := by
  induction items using List.reverseRecOn with
  | nil => rfl
  | append_singleton items item ih =>
      have earlier := ih fun known member => same known (List.mem_append_left _ member)
      rw [collect_concat, collect_concat, earlier,
        same item (List.mem_append_right _ List.mem_cons_self)]

/-- Later items win. -/
theorem get?_collect_append (first second : List α) (key : κ) :
    (collect entry (first ++ second)).get? key =
      ((collect entry second).get? key).or ((collect entry first).get? key) := by
  induction second using List.reverseRecOn with
  | nil => simp
  | append_singleton items item ih =>
      rw [← List.append_assoc, collect_concat, collect_concat]
      cases given : entry item with
      | none => exact ih
      | some pair =>
          rcases pair with ⟨found, value⟩
          simp only
          rw [get?_set, get?_set]
          split
          · rfl
          · exact ih

/-- What is in the dictionary comes from an item. -/
theorem exists_of_get?_collect {items : List α} {key : κ} {value : ν}
    (found : (collect entry items).get? key = some value) :
    ∃ item ∈ items, entry item = some (key, value) := by
  induction items using List.reverseRecOn with
  | nil => cases found
  | append_singleton items item ih =>
      rw [collect_concat] at found
      have passOn (earlier : (collect entry items).get? key = some value) :
          ∃ known ∈ items ++ [item], entry known = some (key, value) := by
        obtain ⟨known, member, gives⟩ := ih earlier
        exact ⟨known, List.mem_append_left _ member, gives⟩
      cases given : entry item with
      | none =>
          rw [given] at found
          exact passOn found
      | some pair =>
          rcases pair with ⟨other, last⟩
          rw [given] at found
          simp only at found
          rw [get?_set] at found
          split at found
          · rename_i same
            cases found
            subst same
            exact ⟨item, List.mem_append_right _ List.mem_cons_self, given⟩
          · exact passOn found

/-- An item's key is in the dictionary. -/
theorem isSome_get?_collect {items : List α} {item : α} (member : item ∈ items) {key : κ}
    {value : ν} (gives : entry item = some (key, value)) :
    ((collect entry items).get? key).isSome := by
  obtain ⟨first, second, rfl⟩ := List.append_of_mem member
  have last : (collect entry [item]).get? key = some value := by
    have single : collect entry [item] = _ := collect_concat [] item
    rw [single, gives]
    simp
  rw [← List.singleton_append, ← List.append_assoc, get?_collect_append, get?_collect_append,
    last]
  cases (collect entry second).get? key <;> simp

/-- The value of an item that all items with its key agree on. -/
theorem get?_collect_of_agree {items : List α} {item : α} (member : item ∈ items) {key : κ}
    {value : ν} (gives : entry item = some (key, value))
    (agree : ∀ other ∈ items, ∀ last, entry other = some (key, last) → last = value) :
    (collect entry items).get? key = some value := by
  obtain ⟨last, found⟩ := Option.isSome_iff_exists.mp (isSome_get?_collect member gives)
  obtain ⟨other, listed, gave⟩ := exists_of_get?_collect found
  rw [found, agree other listed last gave]

theorem get?_collect_eq_none {items : List α} {key : κ}
    (nothing : ∀ item ∈ items, ∀ value, entry item ≠ some (key, value)) :
    (collect entry items).get? key = none := by
  cases found : (collect entry items).get? key with
  | none => rfl
  | some value =>
      obtain ⟨item, member, gives⟩ := exists_of_get?_collect found
      exact absurd gives (nothing item member value)

/-- The entry of one more item. -/
theorem get?_collect_concat (items : List α) (item : α) {key : κ} :
    (∀ value, entry item = some (key, value) →
      (collect entry (items ++ [item])).get? key = some value) ∧
      ((∀ value, entry item ≠ some (key, value)) →
        (collect entry (items ++ [item])).get? key = (collect entry items).get? key) := by
  rw [collect_concat]
  constructor
  · intro value gives
    rw [gives]
    exact get?_set_self _ key value
  · intro other
    cases given : entry item with
    | none => rfl
    | some pair =>
        rcases pair with ⟨found, last⟩
        apply get?_set_of_ne
        rintro rfl
        exact other last given

/-- Two comprehensions whose entries at two keys correspond. -/
theorem get?_collect_of_corresponds {κ' ν' : Type} [DecidableEq κ']
    {other : α → Option (κ' × ν')} {view : ν' → ν} {items : List α} {key : κ} {key' : κ'}
    (corresponds : ∀ item ∈ items, ∀ value, entry item = some (key, value) ↔
      ∃ value', other item = some (key', value') ∧ view value' = value) :
    (collect entry items).get? key = ((collect other items).get? key').map view := by
  induction items using List.reverseRecOn with
  | nil => rfl
  | append_singleton items item ih =>
      have earlier := ih fun known member => corresponds known (List.mem_append_left _ member)
      have last := corresponds item (List.mem_append_right _ List.mem_cons_self)
      cases found : (collect other [item]).get? key' with
      | none =>
          have absent : ∀ value', other item ≠ some (key', value') := by
            intro value' gives
            have there := isSome_get?_collect (List.mem_singleton_self item) gives
            rw [found] at there
            cases there
          have missing : ∀ value, entry item ≠ some (key, value) := by
            intro value gives
            rcases (last value).mp gives with ⟨value', gave, _⟩
            exact absent value' gave
          rw [(get?_collect_concat items item).2 missing,
            (get?_collect_concat items item).2 absent]
          exact earlier
      | some value' =>
          rcases exists_of_get?_collect found with ⟨known, member, gives⟩
          rw [List.mem_singleton.mp member] at gives
          rw [(get?_collect_concat items item).1 _ ((last _).mpr ⟨value', gives, rfl⟩),
            (get?_collect_concat items item).1 _ gives]
          rfl

/-- Items that give no entry do not matter. -/
theorem collect_filter {keep : α → Bool} {items : List α}
    (nothing : ∀ item ∈ items, keep item = false → entry item = none) :
    collect entry (items.filter keep) = collect entry items := by
  induction items using List.reverseRecOn with
  | nil => rfl
  | append_singleton items item ih =>
      have earlier := ih fun known member => nothing known (List.mem_append_left _ member)
      rw [List.filter_append, collect_concat]
      cases kept : keep item with
      | true =>
          rw [List.filter_cons_of_pos kept, List.filter_nil, collect_concat, earlier]
      | false =>
          rw [List.filter_cons_of_neg (by simp [kept]), List.filter_nil, List.append_nil, earlier,
            nothing item (List.mem_append_right _ List.mem_cons_self) kept]

end Dict

end KuryrKubernetes.Data
