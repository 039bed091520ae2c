import KuryrKubernetes.Pool.Requests

/-!
# Which port a request gets

A pool has one dictionary with its lists of ports and another one with the dates of their
updates.  When the list of the requested groups is empty, the search for the list that was
updated the longest ago goes through the dates, so that a list without a date is found only if
the pool has no dates at all.
-/

namespace KuryrKubernetes.Pool

open KuryrKubernetes.Data

/-! ## The list to serve a request from -/

/-- A list was updated no later than another one; one without a date is older than all
others. -/
def NoLater (poolUpdates : Dict SgKey Int) (first second : SgKey) : Prop :=
  ∀ date ∈ poolUpdates.get? first, ∃ later ∈ poolUpdates.get? second, date ≤ later

/-- A request should be served from this list: the one of the requested groups if it has a port,
else the one among those with a port that was updated the longest ago. -/
structure Preferred (poolPorts : PoolPorts) (poolUpdates : Dict SgKey Int)
    (requested source : SgKey) : Prop where
  filled : poolPorts.getD source [] ≠ []
  own : poolPorts.getD requested [] ≠ [] → source = requested
  oldest : poolPorts.getD requested [] = [] → ∀ other, poolPorts.getD other [] ≠ [] →
    NoLater poolUpdates source other

/-- The dates tell apart the lists that a request may be served from: the requested list has a
port, or there are no dates, or every list with a port has one. -/
def Dates (poolPorts : PoolPorts) (poolUpdates : Dict SgKey Int) (requested : SgKey) : Prop :=
  poolPorts.getD requested [] = [] → poolUpdates.items ≠ [] →
    ∀ other, poolPorts.getD other [] ≠ [] → other ∈ poolUpdates

variable {poolPorts : PoolPorts} {poolUpdates : Dict SgKey Int} {group : SgKey}

theorem popPort_eq_none_iff : popPort poolPorts group = none ↔ poolPorts.getD group [] = [] := by
  cases found : poolPorts.get? group with
  | none => simp [popPort, Dict.getD, found]
  | some ports =>
      rw [Dict.getD_of_get?_eq_some [] found, ← List.getLast?_eq_none_iff]
      cases last : ports.getLast? with
      | none => simp [popPort, found, last]
      | some port => simp [popPort, found, last]

/-- The search goes on with what it has found so far, or finds a list with a port and with the
oldest date of all that come. -/
theorem oldestGroup_spec (poolPorts : PoolPorts) {items : List (SgKey × Int)}
    (dated : ∀ item ∈ items, 0 ≤ item.2) (minDate : Int) (minGroup : SgKey) :
    (oldestGroup poolPorts items minDate minGroup = (minDate, minGroup) ∧
        ∀ item ∈ items, poolPorts.getD item.1 [] ≠ [] → minDate ≠ -1 ∧ minDate ≤ item.2) ∨
      ∃ item ∈ items, poolPorts.getD item.1 [] ≠ [] ∧
        oldestGroup poolPorts items minDate minGroup = (item.2, item.1) ∧
        (minDate = -1 ∨ item.2 < minDate) ∧
        ∀ other ∈ items, poolPorts.getD other.1 [] ≠ [] → item.2 ≤ other.2 := by
  induction items generalizing minDate minGroup with
  | nil =>
      left
      exact ⟨rfl, by rintro item ⟨⟩⟩
  | cons first rest ih =>
      rcases first with ⟨group, date⟩
      have present : 0 ≤ date := dated (group, date) List.mem_cons_self
      have later : ∀ item ∈ rest, 0 ≤ item.2 :=
        fun item listed => dated item (List.mem_cons_of_mem _ listed)
      unfold oldestGroup
      by_cases found : poolPorts.getD group [] ≠ [] ∧ (minDate = -1 ∨ date < minDate)
      · rw [if_pos found]
        right
        rcases ih later date group with ⟨same, bound⟩ | ⟨item, listed, filled, same, below, least⟩
        · refine ⟨(group, date), List.mem_cons_self, found.1, same, found.2, ?_⟩
          intro other listed filled
          rcases List.mem_cons.mp listed with rfl | inRest
          · exact le_refl date
          · exact (bound other inRest filled).2
        · have older : item.2 < date := by omega
          refine ⟨item, List.mem_cons_of_mem _ listed, filled, same, by omega, ?_⟩
          intro other member filledToo
          rcases List.mem_cons.mp member with rfl | inRest
          · exact older.le
          · exact least other inRest filledToo
      · rw [if_neg found]
        rcases ih later minDate minGroup with
          ⟨same, bound⟩ | ⟨item, listed, filled, same, below, least⟩
        · left
          refine ⟨same, ?_⟩
          intro other listed filled
          rcases List.mem_cons.mp listed with rfl | inRest
          · have kept := mt (fun newer => And.intro filled newer) found
            omega
          · exact bound other inRest filled
        · right
          refine ⟨item, List.mem_cons_of_mem _ listed, filled, same, below, ?_⟩
          intro other member filledToo
          rcases List.mem_cons.mp member with rfl | inRest
          · have kept := mt (fun newer => And.intro filledToo newer) found
            omega
          · exact least other inRest filledToo

/-- With dates the search finds the list with a port and the oldest date, if a dated list has a
port. -/
theorem reusedGroup_of_dates (poolPorts : PoolPorts)
    (dated : ∀ item ∈ poolUpdates.items, 0 ≤ item.2) (dates : poolUpdates.items ≠ []) :
    (reusedGroup poolPorts poolUpdates = none ∧
        ∀ item ∈ poolUpdates.items, poolPorts.getD item.1 [] = []) ∨
      ∃ item ∈ poolUpdates.items, poolPorts.getD item.1 [] ≠ [] ∧
        reusedGroup poolPorts poolUpdates = some item.1 ∧
        ∀ other ∈ poolUpdates.items, poolPorts.getD other.1 [] ≠ [] → item.2 ≤ other.2 := by
  unfold reusedGroup
  rw [if_neg dates]
  dsimp only
  rcases oldestGroup_spec poolPorts dated (-1) none with
    ⟨same, bound⟩ | ⟨item, listed, filled, same, _, least⟩
  · left
    rw [same]
    refine ⟨rfl, ?_⟩
    intro item listed
    by_contra filled
    exact (bound item listed filled).1 rfl
  · right
    refine ⟨item, listed, filled, ?_, least⟩
    have present := dated item listed
    rw [same, if_neg (by omega)]

/-- Without dates the first list with a port is taken. -/
theorem reusedGroup_of_no_dates (poolPorts : PoolPorts) (undated : poolUpdates.items = []) :
    (reusedGroup poolPorts poolUpdates = none ∧ ∀ other, poolPorts.getD other [] = []) ∨
      ∃ source, poolPorts.getD source [] ≠ [] ∧
        reusedGroup poolPorts poolUpdates = some source := by
  unfold reusedGroup
  rw [if_pos undated]
  cases found : poolPorts.items.find? fun item => item.2 ≠ [] with
  | none =>
      left
      refine ⟨rfl, ?_⟩
      intro other
      cases known : poolPorts.get? other with
      | none => exact Dict.getD_of_get?_eq_none [] known
      | some ports =>
          rw [Dict.getD_of_get?_eq_some [] known]
          have empty := List.find?_eq_none.mp found (other, ports) (Dict.mem_items_iff.mpr known)
          simpa using empty
  | some item =>
      right
      have listed := List.mem_of_find?_eq_some found
      have filled := List.find?_some found
      refine ⟨item.1, ?_, rfl⟩
      rw [Dict.getD_of_get?_eq_some [] (Dict.mem_items_iff.mp listed)]
      simpa using filled

/-- What is selected comes from the requested list, or from another one if that is empty. -/
theorem exists_source_of_selectPort {port : String} {left : PoolPorts} {reused : Bool}
    (selected : selectPort poolPorts poolUpdates group = some (port, left, reused)) :
    ∃ source, popPort poolPorts source = some (port, left) ∧
      (source = group ∨ poolPorts.getD group [] = [] ∧
        reusedGroup poolPorts poolUpdates = some source) := by
  unfold selectPort at selected
  cases own : popPort poolPorts group with
  | some taken =>
      rw [own] at selected
      cases selected
      exact ⟨group, own, .inl rfl⟩
  | none =>
      rw [own] at selected
      rcases Option.bind_eq_some_iff.mp selected with ⟨source, chosen, rest⟩
      rcases Option.bind_eq_some_iff.mp rest with ⟨⟨popped, remaining⟩, taken, same⟩
      cases same
      exact ⟨source, taken, .inr ⟨popPort_eq_none_iff.mp own, chosen⟩⟩

/-- Nothing is selected where the requested list is empty and no other one is found. -/
theorem selectPort_eq_none {poolPorts : PoolPorts}
    (selected : selectPort poolPorts poolUpdates group = none) :
    poolPorts.getD group [] = [] ∧
      ∀ source, reusedGroup poolPorts poolUpdates = some source →
        poolPorts.getD source [] = [] := by
  unfold selectPort at selected
  cases own : popPort poolPorts group with
  | some taken =>
      rw [own] at selected
      cases selected
  | none =>
      rw [own] at selected
      refine ⟨popPort_eq_none_iff.mp own, ?_⟩
      intro source chosen
      rw [chosen] at selected
      cases popped : popPort poolPorts source with
      | none => exact popPort_eq_none_iff.mp popped
      | some taken =>
          simp [popped] at selected

section

variable (dated : ∀ item ∈ poolUpdates.items, 0 ≤ item.2)

include dated

/-- With the dates at hand nothing is selected only from a pool without ports. -/
theorem empty_of_selectPort_eq_none (dates : Dates poolPorts poolUpdates group)
    (selected : selectPort poolPorts poolUpdates group = none) (other : SgKey) :
    poolPorts.getD other [] = [] := by
  rcases selectPort_eq_none selected with ⟨own, others⟩
  by_cases undated : poolUpdates.items = []
  · rcases reusedGroup_of_no_dates poolPorts undated with
      ⟨_, empty⟩ | ⟨source, filled, chosen⟩
    · exact empty other
    · exact absurd (others source chosen) filled
  · rcases reusedGroup_of_dates poolPorts dated undated with
      ⟨_, empty⟩ | ⟨item, _, filled, chosen, _⟩
    · by_contra filled
      rcases Dict.mem_iff_exists_get?.mp (dates own undated other filled) with ⟨date, found⟩
      exact filled (empty (other, date) (Dict.mem_items_iff.mpr found))
    · exact absurd (others item.1 chosen) filled

/-- With the dates at hand a port is taken from the list that a request should be served
from. -/
theorem preferred_of_selectPort (dates : Dates poolPorts poolUpdates group) {port : String}
    {left : PoolPorts} {reused : Bool}
    (selected : selectPort poolPorts poolUpdates group = some (port, left, reused)) :
    ∃ source, Preferred poolPorts poolUpdates group source ∧
      popPort poolPorts source = some (port, left) := by
  rcases exists_source_of_selectPort selected with ⟨source, popped, from_⟩
  have filled : poolPorts.getD source [] ≠ [] := by
    intro empty
    rw [popPort_eq_none_iff.mpr empty] at popped
    cases popped
  refine ⟨source, ⟨filled, ?_, ?_⟩, popped⟩
  · intro ownFilled
    rcases from_ with own | ⟨empty, _⟩
    · exact own
    · exact absurd empty ownFilled
  · intro empty other otherFilled
    rcases from_ with rfl | ⟨_, chosen⟩
    · exact absurd empty filled
    · by_cases undated : poolUpdates.items = []
      · have nowhere : poolUpdates = ∅ := Dict.ext_items undated
        rintro date known
        rw [nowhere, Dict.get?_empty] at known
        cases known
      · rcases reusedGroup_of_dates poolPorts dated undated with
          ⟨nothing, _⟩ | ⟨item, listed, _, found, least⟩
        · rw [nothing] at chosen
          cases chosen
        · rw [found] at chosen
          cases chosen
          rcases Dict.mem_iff_exists_get?.mp (dates empty undated other otherFilled) with
            ⟨date, known⟩
          intro oldest found
          rw [Dict.mem_items_iff.mp listed] at found
          cases found
          exact ⟨date, known, least (other, date) (Dict.mem_items_iff.mpr known) otherFilled⟩

/-- Without them a pool has a port, but what is selected comes from another list, if anything
is. -/
theorem not_preferred_of_selectPort (undecided : ¬Dates poolPorts poolUpdates group) :
    (∃ other, poolPorts.getD other [] ≠ []) ∧
      ∀ port left reused, selectPort poolPorts poolUpdates group = some (port, left, reused) →
        ¬∃ source, Preferred poolPorts poolUpdates group source ∧
          popPort poolPorts source = some (port, left) := by
  simp only [Dates, Classical.not_imp, not_forall] at undecided
  rcases undecided with ⟨empty, dates, other, filled, undated⟩
  refine ⟨⟨other, filled⟩, ?_⟩
  rintro port left reused selected ⟨source, preferred, popped⟩
  rcases exists_source_of_selectPort selected with ⟨taken, poppedToo, from_⟩
  rcases popPort_eq_some popped with ⟨ports, found, _, rest⟩
  rcases popPort_eq_some poppedToo with ⟨takenPorts, foundToo, last, restToo⟩
  have same : taken = source := by
    by_contra different
    have here : left.get? taken = some takenPorts := by
      rw [rest, Dict.get?_set_of_ne _ _ different, foundToo]
    rw [restToo, Dict.get?_set_self, Option.some.injEq] at here
    have shorter := congrArg List.length here
    have nonempty : takenPorts ≠ [] := by
      intro nothing
      rw [nothing] at last
      cases last
    have positive := List.length_pos_of_ne_nil nonempty
    rw [List.length_dropLast] at shorter
    omega
  subst same
  have oldest := preferred.oldest empty other filled
  rcases from_ with rfl | ⟨_, chosen⟩
  · exact preferred.filled empty
  · rcases reusedGroup_of_dates poolPorts dated dates with
      ⟨nothing, _⟩ | ⟨item, listed, _, known, _⟩
    · rw [nothing] at chosen
      cases chosen
    · rw [known] at chosen
      cases chosen
      rcases oldest item.2 (Dict.mem_items_iff.mp listed) with ⟨date, known, _⟩
      rw [Dict.not_mem_iff_get?_eq_none.mp undated] at known
      cases known

end

end KuryrKubernetes.Pool
