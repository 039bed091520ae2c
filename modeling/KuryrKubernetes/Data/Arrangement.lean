import Mathlib.Data.List.Perm.Subperm
import Mathlib.Data.List.Permutation

/-!
# Pairs in the order of a list

What a pass over a list does for an item may depend on the items before it.  Then it matters
which pairs of items stand in the list in their order.  Over all orders of the same items, a
relation meets such a pair in some order if it has two of the items at all, and in every
order if it has two of them both ways, provided that it relates whatever lends to whatever
borrows.
-/

namespace KuryrKubernetes.Data

variable {α β : Type}

/-! ## Pairs in lists that are put together -/

theorem pair_sublist_append_iff {first second : α} {items others : List α} :
    [first, second].Sublist (items ++ others) ↔
      [first, second].Sublist items ∨ (first ∈ items ∧ second ∈ others) ∨
        [first, second].Sublist others := by
  rw [List.sublist_append_iff]
  constructor
  · rintro ⟨left, right, parts, inItems, inOthers⟩
    rcases left with _ | ⟨head, _ | ⟨next, rest⟩⟩
    · rw [List.nil_append] at parts
      exact .inr (.inr (parts ▸ inOthers))
    · rcases List.cons.inj parts with ⟨rfl, rfl⟩
      exact .inr (.inl ⟨List.singleton_sublist.mp inItems, List.singleton_sublist.mp inOthers⟩)
    · rcases List.cons.inj parts with ⟨rfl, tail⟩
      rcases List.cons.inj tail with ⟨rfl, none⟩
      rcases List.append_eq_nil_iff.mp none.symm with ⟨rfl, rfl⟩
      exact .inl inItems
  · rintro (inItems | ⟨inItems, inOthers⟩ | inOthers)
    · exact ⟨[first, second], [], rfl, inItems, List.nil_sublist others⟩
    · exact ⟨[first], [second], rfl, List.singleton_sublist.mpr inItems,
        List.singleton_sublist.mpr inOthers⟩
    · exact ⟨[], [first, second], rfl, List.nil_sublist items, inOthers⟩

/-- A pair stands in one of the parts, or in two parts in their order. -/
theorem pair_sublist_flatMap_iff {own : α → List β} {items : List α} {first second : β} :
    [first, second].Sublist (items.flatMap own) ↔
      (∃ item ∈ items, [first, second].Sublist (own item)) ∨
        ∃ earlier later, [earlier, later].Sublist items ∧ first ∈ own earlier ∧
          second ∈ own later := by
  induction items with
  | nil => simp
  | cons item rest ih =>
      rw [List.flatMap_cons, pair_sublist_append_iff, ih, List.mem_flatMap,
        List.exists_mem_cons_iff]
      constructor
      · rintro (own_ | ⟨inFirst, later, listed, inLater⟩ | inside | ⟨earlier, later, pair, both⟩)
        · exact .inl (.inl own_)
        · exact .inr ⟨item, later, (List.singleton_sublist.mpr listed).cons_cons item, inFirst,
            inLater⟩
        · exact .inl (.inr inside)
        · exact .inr ⟨earlier, later, pair.cons item, both⟩
      · rintro ((own_ | inside) | ⟨earlier, later, pair, inEarlier, inLater⟩)
        · exact .inl own_
        · exact .inr (.inr (.inl inside))
        · rcases List.sublist_cons_iff.mp pair with inRest | ⟨tail, same, listed⟩
          · exact .inr (.inr (.inr ⟨earlier, later, inRest, inEarlier, inLater⟩))
          · rcases List.cons.inj same with ⟨rfl, rfl⟩
            exact .inr (.inl ⟨inEarlier, later, List.singleton_sublist.mp listed, inLater⟩)

theorem pair_subperm_iff {first second : α} {items : List α} :
    [first, second].Subperm items ↔
      [first, second].Sublist items ∨ [second, first].Sublist items := by
  constructor
  · rintro ⟨pair, same, inItems⟩
    rcases List.perm_pair.mp same with rfl | rfl
    · exact .inl inItems
    · exact .inr inItems
  · rintro (inItems | inItems)
    · exact inItems.subperm
    · exact ⟨[second, first], List.Perm.swap first second [], inItems⟩

/-- Items that each have a related one have a list of these. -/
theorem exists_forall₂ {related : α → β → Prop} {items : List α}
    (each : ∀ item ∈ items, ∃ other, related item other) :
    ∃ others, List.Forall₂ related items others := by
  induction items with
  | nil => exact ⟨[], .nil⟩
  | cons item rest ih =>
      rcases each item List.mem_cons_self with ⟨other, holds⟩
      rcases ih fun later listed => each later (List.mem_cons_of_mem item listed) with
        ⟨others, pairs⟩
      exact ⟨other :: others, .cons holds pairs⟩

/-! ## Orders of the same items -/

variable (related : α → α → Prop)

/-- The relation has two items of the list in the order of the list. -/
def Meets (items : List α) : Prop :=
  ∃ first second, [first, second].Sublist items ∧ related first second

/-- The relation has two items of the list, whatever their order. -/
def MayMeet (items : List α) : Prop :=
  ∃ first second, [first, second].Subperm items ∧ related first second

/-- The relation has two items of the list both ways. -/
def MustMeet (items : List α) : Prop :=
  ∃ first second, [first, second].Subperm items ∧ related first second ∧ related second first

variable {related}

theorem Meets.mayMeet {items other : List α} (meets : Meets related other)
    (same : items.Perm other) : MayMeet related items := by
  rcases meets with ⟨first, second, pair, holds⟩
  exact ⟨first, second, pair.subperm.trans same.symm.subperm, holds⟩

theorem MayMeet.exists_meets {items : List α} (may : MayMeet related items) :
    ∃ other, items.Perm other ∧ Meets related other := by
  rcases may with ⟨first, second, pair, holds⟩
  rcases List.subperm_iff.mp pair with ⟨other, same, inOther⟩
  exact ⟨other, same.symm, first, second, inOther, holds⟩

theorem MustMeet.meets {items other : List α} (must : MustMeet related items)
    (same : items.Perm other) : Meets related other := by
  rcases must with ⟨first, second, pair, holds, back⟩
  rcases pair_subperm_iff.mp (pair.trans same.subperm) with forwards | backwards
  · exact ⟨first, second, forwards, holds⟩
  · exact ⟨second, first, backwards, back⟩

/-- Items that lend nothing come first, and those that only lend come last. -/
theorem exists_not_meets {items : List α}
    (rectangular : ∀ {first second third fourth}, related first second →
      related third fourth → related first fourth)
    (loose : ¬MustMeet related items) : ∃ other, items.Perm other ∧ ¬Meets related other := by
  classical
  let lends (item : α) : Bool := ∃ other, related item other
  let borrows (item : α) : Bool := ∃ other, related other item
  let lenders := items.filter lends
  let other := items.filter (!lends ·) ++
    (lenders.filter borrows ++ lenders.filter (!borrows ·))
  have same : items.Perm other := by
    have halves := List.filter_append_perm lends items
    have quarters := List.filter_append_perm borrows lenders
    exact halves.symm.trans (List.perm_append_comm.trans (quarters.symm.append_left _))
  refine ⟨other, same, ?_⟩
  rintro ⟨first, second, pair, holds⟩
  have lent : lends first = true := decide_eq_true ⟨second, holds⟩
  have borrowed : borrows second = true := decide_eq_true ⟨first, holds⟩
  have inLenders : [first, second].Sublist
      (lenders.filter borrows ++ lenders.filter (!borrows ·)) := by
    rcases pair_sublist_append_iff.mp pair with inside | ⟨inside, _⟩ | inside
    · have kept := List.mem_filter.mp (inside.subset List.mem_cons_self)
      simp [lent] at kept
    · have kept := List.mem_filter.mp inside
      simp [lent] at kept
    · exact inside
  have inMixed : [first, second].Sublist (lenders.filter borrows) := by
    have last : second ∉ lenders.filter (!borrows ·) := by
      intro inside
      have kept := List.mem_filter.mp inside
      simp [borrowed] at kept
    rcases pair_sublist_append_iff.mp inLenders with inside | ⟨_, inside⟩ | inside
    · exact inside
    · exact absurd inside last
    · exact absurd (inside.subset (List.mem_cons_of_mem _ List.mem_cons_self)) last
  -- Both lend and borrow, so they are related both ways.
  rcases List.mem_filter.mp (inMixed.subset List.mem_cons_self) with ⟨_, firstBorrows⟩
  rcases List.mem_filter.mp (inMixed.subset (List.mem_cons_of_mem _ List.mem_cons_self)) with
    ⟨secondLends, _⟩
  rcases of_decide_eq_true firstBorrows with ⟨lender, toFirst⟩
  rcases of_decide_eq_true (List.mem_filter.mp secondLends).2 with ⟨borrower, fromSecond⟩
  apply loose
  have inItems : [first, second].Sublist items :=
    inMixed.trans (List.filter_sublist.trans List.filter_sublist)
  exact ⟨first, second, inItems.subperm, holds, rectangular fromSecond toFirst⟩

end KuryrKubernetes.Data
