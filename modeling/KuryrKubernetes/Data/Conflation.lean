import Mathlib.Data.List.Basic

/-!
# Conflating a sequence of items

A consumer takes items in the order of their arrival and may drop an item it holds
when it takes a later one.  `Conflates` relates what arrived to what was handled:
everything before the items still ahead was dealt with in order, and the last item
dealt with is handled or in the consumer's hand.  So an item is dropped only in
favour of a later one, and the latest item is never dropped.
-/

namespace KuryrKubernetes.Data

universe u

variable {α : Type u}

/-- The `arrived` items are `passed` ones, then the `held` one, then those `ahead`;
the `handled` items are passed ones in the same order, the last passed one among
them unless a later one is held. -/
def Conflates (arrived handled : List α) (held : Option α) (ahead : List α) : Prop :=
  ∃ passed, arrived = passed ++ held.toList ++ ahead ∧ handled.Sublist passed ∧
    (held = none → passed.getLast? = handled.getLast?)

namespace Conflates

variable {arrived handled ahead : List α} {held : Option α} {item : α}

theorem nil : Conflates ([] : List α) [] none [] :=
  ⟨[], rfl, List.Sublist.refl [], fun _ => rfl⟩

/-- An item arrives behind all others. -/
theorem arrive (conflated : Conflates arrived handled held ahead) (item : α) :
    Conflates (arrived ++ [item]) handled held (ahead ++ [item]) := by
  obtain ⟨passed, split, order, last⟩ := conflated
  exact ⟨passed, by rw [split, List.append_assoc], order, last⟩

/-- The idle consumer takes the first item. -/
theorem take (conflated : Conflates arrived handled none (item :: ahead)) :
    Conflates arrived handled (some item) ahead := by
  obtain ⟨passed, split, order, _⟩ := conflated
  exact ⟨passed, by simpa using split, order, fun idle => by cases idle⟩

/-- The consumer drops the item it holds for the next one. -/
theorem supersede {old : α} (conflated : Conflates arrived handled (some old) (item :: ahead)) :
    Conflates arrived handled (some item) ahead := by
  obtain ⟨passed, split, order, _⟩ := conflated
  exact ⟨passed ++ [old], by simpa using split,
    order.trans (List.sublist_append_left passed [old]), fun idle => by cases idle⟩

/-- The consumer handles the item it holds. -/
theorem handle (conflated : Conflates arrived handled (some item) ahead) :
    Conflates arrived (handled ++ [item]) none ahead := by
  obtain ⟨passed, split, order, _⟩ := conflated
  exact ⟨passed ++ [item], by simpa using split, order.append_right [item], fun _ => by simp⟩

/-- Items are handled in the order of their arrival. -/
theorem sublist (conflated : Conflates arrived handled held ahead) :
    handled.Sublist arrived := by
  obtain ⟨passed, split, order, _⟩ := conflated
  rw [split, List.append_assoc]
  exact order.trans (List.sublist_append_left passed _)

/-- The latest item is handled, held or ahead. -/
theorem latest (conflated : Conflates arrived handled held ahead)
    (last : arrived.getLast? = some item) :
    item ∈ handled ∨ held = some item ∨ item ∈ ahead := by
  obtain ⟨passed, split, _, settled⟩ := conflated
  rw [split] at last
  rcases List.eq_nil_or_concat' ahead with rfl | ⟨front, final, rfl⟩
  · cases held with
    | some holding =>
        right
        left
        simpa using last
    | none =>
        left
        rw [Option.toList_none, List.append_nil, List.append_nil, settled rfl] at last
        exact List.mem_of_getLast? last
  · right
    right
    rw [← List.append_assoc, List.getLast?_concat] at last
    cases last
    exact List.mem_append_right front List.mem_cons_self

/-- An item that came is handled, held, ahead, or gave way to a later item that is
handled or held. -/
theorem covered {later : α → α → Prop} (conflated : Conflates arrived handled held ahead)
    (ordered : arrived.Pairwise later) (came : item ∈ arrived) :
    item ∈ handled ∨ held = some item ∨ item ∈ ahead ∨
      ∃ newer ∈ arrived, later item newer ∧ (newer ∈ handled ∨ held = some newer) := by
  obtain ⟨passed, split, _, settled⟩ := conflated
  have placed := came
  rw [split, List.append_assoc, List.mem_append, List.mem_append, Option.mem_toList] at placed
  rcases placed with past | now | future
  · cases held with
    | some newer =>
        right
        right
        right
        have before : later item newer := by
          rw [split, List.append_assoc] at ordered
          exact (List.pairwise_append.mp ordered).2.2 item past newer (by simp)
        exact ⟨newer, by simp [split], before, .inr rfl⟩
    | none =>
        rcases List.eq_nil_or_concat' passed with rfl | ⟨front, newer, rfl⟩
        · cases past
        · have final : newer ∈ handled := by
            apply List.mem_of_getLast?
            rw [← settled rfl, List.getLast?_concat]
          rcases List.mem_append.mp past with earlier | same
          · right
            right
            right
            have before : later item newer := by
              rw [split, List.append_assoc, List.append_assoc] at ordered
              exact (List.pairwise_append.mp ordered).2.2 item earlier newer (by simp)
            exact ⟨newer, by simp [split], before, .inl final⟩
          · left
            rw [List.mem_singleton.mp same]
            exact final
  · exact .inr (.inl now)
  · exact .inr (.inr (.inl future))

end Conflates

end KuryrKubernetes.Data
