import Mathlib.Algebra.GroupWithZero.Nat
import Mathlib.Algebra.Order.BigOperators.Group.List
import Mathlib.Algebra.Order.Group.Nat
import Mathlib.Data.List.MinMax
import Mathlib.Data.List.Nodup

/-!
# Insertion-ordered dictionaries

A dictionary is a list of items without repeated keys.  Assigning to a present
key keeps its position, assigning to a new key appends it, and iteration follows
the list.  `AList` moves a reassigned key to the front, so iteration order would
be lost there.  Besides lookups the file provides additive accounting: a total
of natural-number weights over the items changes by exactly the weight that an
assignment or a deletion adds or removes.
-/

namespace KuryrKubernetes.Data

universe u v

/-- Items in insertion order; no key occurs twice. -/
structure Dict (κ : Type u) (ν : Type v) where
  items : List (κ × ν)
  nodupKeys : (items.map Prod.fst).Nodup
  deriving DecidableEq

namespace Dict

variable {κ : Type u} {ν : Type v}

@[ext]
theorem ext_items {first second : Dict κ ν} (equal : first.items = second.items) :
    first = second := by
  cases first
  cases second
  cases equal
  rfl

/-- The dictionary without items. -/
def empty : Dict κ ν :=
  ⟨[], List.nodup_nil⟩

instance : EmptyCollection (Dict κ ν) :=
  ⟨empty⟩

instance : Inhabited (Dict κ ν) :=
  ⟨∅⟩

@[simp]
theorem items_empty : (∅ : Dict κ ν).items = [] :=
  rfl

/-- Keys in iteration order. -/
def keys (dict : Dict κ ν) : List κ :=
  dict.items.map Prod.fst

/-- Values in iteration order. -/
def values (dict : Dict κ ν) : List ν :=
  dict.items.map Prod.snd

/-- The sum of a weight over all items. -/
def total (weight : κ → ν → Nat) (dict : Dict κ ν) : Nat :=
  (dict.items.map fun item => weight item.1 item.2).sum

theorem weight_le_total (weight : κ → ν → Nat) {dict : Dict κ ν} {item : κ × ν}
    (member : item ∈ dict.items) : weight item.1 item.2 ≤ dict.total weight :=
  List.single_le_sum (by simp) _
    (List.mem_map.mpr ⟨item, member, rfl⟩)

theorem total_eq_zero_iff (weight : κ → ν → Nat) (dict : Dict κ ν) :
    dict.total weight = 0 ↔ ∀ item ∈ dict.items, weight item.1 item.2 = 0 := by
  rw [total, List.sum_eq_zero_iff_forall_eq_nat, List.forall_mem_map]

variable [DecidableEq κ]

/-- Value search along an item list. -/
def lookupItems (key : κ) : List (κ × ν) → Option ν
  | [] => none
  | (other, value) :: rest => if other = key then some value else lookupItems key rest

/-- Overwrite the item of `key` in place, or append one. -/
def setItems (key : κ) (value : ν) : List (κ × ν) → List (κ × ν)
  | [] => [(key, value)]
  | (other, old) :: rest =>
      if other = key then (key, value) :: rest else (other, old) :: setItems key value rest

/-- Drop the item of `key`. -/
def eraseItems (key : κ) : List (κ × ν) → List (κ × ν)
  | [] => []
  | (other, old) :: rest =>
      if other = key then rest else (other, old) :: eraseItems key rest

theorem mem_keys_setItems (key : κ) (value : ν) (items : List (κ × ν)) (other : κ) :
    other ∈ (setItems key value items).map Prod.fst ↔
      other = key ∨ other ∈ items.map Prod.fst := by
  induction items with
  | nil => simp [setItems]
  | cons item rest ih =>
      rcases item with ⟨head, old⟩
      by_cases equal : head = key
      · subst head
        simp [setItems]
      · simp only [setItems, equal, if_false, List.map_cons, List.mem_cons, ih]
        tauto

theorem nodup_keys_setItems (key : κ) (value : ν) {items : List (κ × ν)}
    (nodup : (items.map Prod.fst).Nodup) :
    ((setItems key value items).map Prod.fst).Nodup := by
  induction items with
  | nil => simp [setItems]
  | cons item rest ih =>
      rcases item with ⟨head, old⟩
      rw [List.map_cons, List.nodup_cons] at nodup
      by_cases equal : head = key
      · subst head
        simpa [setItems] using nodup
      · simp only [setItems, equal, if_false, List.map_cons, List.nodup_cons]
        refine ⟨?_, ih nodup.2⟩
        rw [mem_keys_setItems]
        rintro (same | later)
        · exact equal same
        · exact nodup.1 later

theorem eraseItems_sublist (key : κ) (items : List (κ × ν)) :
    (eraseItems key items).Sublist items := by
  induction items with
  | nil => exact List.Sublist.refl _
  | cons item rest ih =>
      rcases item with ⟨head, old⟩
      by_cases equal : head = key
      · simp [eraseItems, equal]
      · simpa [eraseItems, equal] using ih

/-- `dict[key]`, absent when there is no such key. -/
def get? (dict : Dict κ ν) (key : κ) : Option ν :=
  lookupItems key dict.items

/-- `dict[key] = value`. -/
def set (dict : Dict κ ν) (key : κ) (value : ν) : Dict κ ν :=
  ⟨setItems key value dict.items, nodup_keys_setItems key value dict.nodupKeys⟩

/-- `del dict[key]`; nothing happens when there is no such key. -/
def erase (dict : Dict κ ν) (key : κ) : Dict κ ν :=
  ⟨eraseItems key dict.items,
    dict.nodupKeys.sublist ((eraseItems_sublist key dict.items).map Prod.fst)⟩

/-- `dict.get(key, default)`. -/
def getD (dict : Dict κ ν) (key : κ) (default : ν) : ν :=
  (dict.get? key).getD default

/-- Change the value stored under `key`, starting from `default` when there is
none: `dict.setdefault(key, default)` followed by an update of that value. -/
def alter (dict : Dict κ ν) (key : κ) (default : ν) (change : ν → ν) : Dict κ ν :=
  dict.set key (change (dict.getD key default))

/-- Replace every value by one that may depend on its key. -/
def mapValues {ν' : Type*} (change : κ → ν → ν') (dict : Dict κ ν) : Dict κ ν' where
  items := dict.items.map fun item => (item.1, change item.1 item.2)
  nodupKeys := by
    rw [List.map_map]
    exact dict.nodupKeys

/-- Keep the items that satisfy `keep`. -/
def filter (keep : κ → ν → Bool) (dict : Dict κ ν) : Dict κ ν where
  items := dict.items.filter fun item => keep item.1 item.2
  nodupKeys := dict.nodupKeys.sublist (List.filter_sublist.map Prod.fst)

/-- Collect items into a dictionary; later items win. -/
def ofList (items : List (κ × ν)) : Dict κ ν :=
  items.foldl (fun dict item => dict.set item.1 item.2) ∅

/-- `dict.update(other)`. -/
def update (dict other : Dict κ ν) : Dict κ ν :=
  other.items.foldl (fun acc item => acc.set item.1 item.2) dict

instance : Membership κ (Dict κ ν) :=
  ⟨fun dict key => (dict.get? key).isSome⟩

instance (key : κ) (dict : Dict κ ν) : Decidable (key ∈ dict) :=
  inferInstanceAs (Decidable ((dict.get? key).isSome = true))

theorem mem_iff_isSome {dict : Dict κ ν} {key : κ} :
    key ∈ dict ↔ (dict.get? key).isSome :=
  Iff.rfl

theorem mem_iff_exists_get? {dict : Dict κ ν} {key : κ} :
    key ∈ dict ↔ ∃ value, dict.get? key = some value := by
  rw [mem_iff_isSome, Option.isSome_iff_exists]

theorem not_mem_iff_get?_eq_none {dict : Dict κ ν} {key : κ} :
    key ∉ dict ↔ dict.get? key = none := by
  rw [mem_iff_isSome, Option.not_isSome_iff_eq_none]

/-! ## Lookups -/

theorem getD_of_get?_eq_some {dict : Dict κ ν} {key : κ} {value : ν} (default : ν)
    (found : dict.get? key = some value) : dict.getD key default = value := by
  simp [getD, found]

theorem getD_of_get?_eq_none {dict : Dict κ ν} {key : κ} (default : ν)
    (absent : dict.get? key = none) : dict.getD key default = default := by
  simp [getD, absent]

@[simp]
theorem get?_empty (key : κ) : (∅ : Dict κ ν).get? key = none :=
  rfl

theorem lookupItems_setItems (key other : κ) (value : ν) (items : List (κ × ν)) :
    lookupItems other (setItems key value items) =
      if other = key then some value else lookupItems other items := by
  induction items with
  | nil =>
      by_cases equal : other = key
      · simp [setItems, lookupItems, equal]
      · simp [setItems, lookupItems, equal, Ne.symm equal]
  | cons item rest ih =>
      rcases item with ⟨head, old⟩
      by_cases atHead : head = key
      · subst head
        by_cases equal : other = key
        · simp [setItems, lookupItems, equal]
        · simp [setItems, lookupItems, equal, Ne.symm equal]
      · by_cases found : head = other
        · subst found
          simp [setItems, lookupItems, atHead]
        · simp [setItems, lookupItems, atHead, found, ih]

theorem get?_set (dict : Dict κ ν) (key other : κ) (value : ν) :
    (dict.set key value).get? other =
      if other = key then some value else dict.get? other :=
  lookupItems_setItems key other value dict.items

@[simp]
theorem get?_set_self (dict : Dict κ ν) (key : κ) (value : ν) :
    (dict.set key value).get? key = some value := by
  simp [get?_set]

theorem get?_set_of_ne (dict : Dict κ ν) {key other : κ} (value : ν)
    (different : other ≠ key) :
    (dict.set key value).get? other = dict.get? other := by
  simp [get?_set, different]

/-- Assigning the value that is there changes nothing. -/
theorem set_eq_self {dict : Dict κ ν} {key : κ} {value : ν}
    (found : dict.get? key = some value) : dict.set key value = dict := by
  have unchanged (items : List (κ × ν)) (stored : lookupItems key items = some value) :
      setItems key value items = items := by
    induction items with
    | nil => cases stored
    | cons item rest ih =>
        rcases item with ⟨head, old⟩
        by_cases equal : head = key
        · subst head
          rw [lookupItems, if_pos rfl] at stored
          rw [setItems, if_pos rfl, Option.some.inj stored]
        · rw [lookupItems, if_neg equal] at stored
          rw [setItems, if_neg equal, ih stored]
  exact ext_items (unchanged dict.items found)

theorem lookupItems_eq_none_iff (key : κ) (items : List (κ × ν)) :
    lookupItems key items = none ↔ key ∉ items.map Prod.fst := by
  induction items with
  | nil => simp [lookupItems]
  | cons item rest ih =>
      rcases item with ⟨head, old⟩
      by_cases equal : head = key
      · simp [lookupItems, equal]
      · simp only [lookupItems, equal, if_false, ih, List.map_cons, List.mem_cons, not_or]
        exact ⟨fun absent => ⟨Ne.symm equal, absent⟩, And.right⟩

private theorem lookupItems_eraseItems (key other : κ) {items : List (κ × ν)}
    (nodup : (items.map Prod.fst).Nodup) :
    lookupItems other (eraseItems key items) =
      if other = key then none else lookupItems other items := by
  induction items with
  | nil => simp [eraseItems, lookupItems]
  | cons item rest ih =>
      rcases item with ⟨head, old⟩
      rw [List.map_cons, List.nodup_cons] at nodup
      by_cases atHead : head = key
      · subst head
        by_cases equal : other = key
        · subst other
          simpa [eraseItems, lookupItems] using
            (lookupItems_eq_none_iff key rest).mpr nodup.1
        · simp [eraseItems, lookupItems, equal, Ne.symm equal]
      · by_cases found : head = other
        · subst found
          simp [eraseItems, lookupItems, atHead]
        · simp [eraseItems, lookupItems, atHead, found, ih nodup.2]

theorem get?_erase (dict : Dict κ ν) (key other : κ) :
    (dict.erase key).get? other = if other = key then none else dict.get? other :=
  lookupItems_eraseItems key other dict.nodupKeys

@[simp]
theorem get?_erase_self (dict : Dict κ ν) (key : κ) :
    (dict.erase key).get? key = none := by
  simp [get?_erase]

private theorem mem_iff_lookupItems {key : κ} {value : ν} {items : List (κ × ν)}
    (nodup : (items.map Prod.fst).Nodup) :
    (key, value) ∈ items ↔ lookupItems key items = some value := by
  induction items with
  | nil => simp [lookupItems]
  | cons item rest ih =>
      rcases item with ⟨head, old⟩
      rw [List.map_cons, List.nodup_cons] at nodup
      by_cases equal : head = key
      · subst head
        simp only [lookupItems, if_true, List.mem_cons, Prod.mk.injEq, true_and,
          Option.some.injEq]
        constructor
        · rintro (same | later)
          · exact same.symm
          · exact absurd (List.mem_map.mpr ⟨_, later, rfl⟩) nodup.1
        · exact fun same => .inl same.symm
      · simp [lookupItems, equal, Ne.symm equal, ih nodup.2]

/-- Iteration meets exactly the items that lookup finds. -/
theorem mem_items_iff {dict : Dict κ ν} {key : κ} {value : ν} :
    (key, value) ∈ dict.items ↔ dict.get? key = some value :=
  mem_iff_lookupItems dict.nodupKeys

/-- What `filter` holds was held and is kept. -/
theorem get?_filter {keep : κ → ν → Bool} {dict : Dict κ ν} {key : κ} {value : ν} :
    (dict.filter keep).get? key = some value ↔
      dict.get? key = some value ∧ keep key value = true := by
  rw [← mem_items_iff, ← mem_items_iff, filter, List.mem_filter]

theorem mem_of_mem_items {dict : Dict κ ν} {item : κ × ν} (member : item ∈ dict.items) :
    item.1 ∈ dict :=
  mem_iff_exists_get?.mpr ⟨item.2, mem_items_iff.mp member⟩

/-- Iteration meets exactly the keys. -/
theorem mem_keys_iff {dict : Dict κ ν} {key : κ} : key ∈ dict.keys ↔ key ∈ dict := by
  constructor
  · intro listed
    obtain ⟨item, member, rfl⟩ := List.mem_map.mp listed
    exact mem_of_mem_items member
  · intro present
    obtain ⟨value, found⟩ := mem_iff_exists_get?.mp present
    exact List.mem_map.mpr ⟨(key, value), mem_items_iff.mpr found, rfl⟩

@[simp]
theorem mem_set {dict : Dict κ ν} {key other : κ} {value : ν} :
    other ∈ dict.set key value ↔ other = key ∨ other ∈ dict := by
  rw [mem_iff_isSome, mem_iff_isSome, get?_set]
  by_cases equal : other = key <;> simp [equal]

@[simp]
theorem mem_erase {dict : Dict κ ν} {key other : κ} :
    other ∈ dict.erase key ↔ other ≠ key ∧ other ∈ dict := by
  rw [mem_iff_isSome, mem_iff_isSome, get?_erase]
  by_cases equal : other = key <;> simp [equal]

theorem not_mem_empty (key : κ) : key ∉ (∅ : Dict κ ν) := by
  simp [mem_iff_isSome]

private theorem eraseItems_of_not_mem {key : κ} {items : List (κ × ν)}
    (absent : key ∉ items.map Prod.fst) : eraseItems key items = items := by
  induction items with
  | nil => rfl
  | cons item rest ih =>
      rcases item with ⟨head, old⟩
      rw [List.map_cons, List.mem_cons, not_or] at absent
      rw [eraseItems, if_neg (Ne.symm absent.1), ih absent.2]

/-- Where there is no such key, nothing is deleted. -/
theorem erase_of_not_mem {dict : Dict κ ν} {key : κ} (absent : key ∉ dict) :
    dict.erase key = dict :=
  ext_items (eraseItems_of_not_mem fun listed => absent (mem_keys_iff.mp listed))

private theorem setItems_of_not_mem {key : κ} (value : ν) {items : List (κ × ν)}
    (absent : key ∉ items.map Prod.fst) : setItems key value items = items ++ [(key, value)] := by
  induction items with
  | nil => rfl
  | cons item rest ih =>
      rcases item with ⟨other, old⟩
      rw [List.map_cons, List.mem_cons, not_or] at absent
      rw [setItems, if_neg (Ne.symm absent.1), ih absent.2, List.cons_append]

/-- Assignments to new keys append their items. -/
theorem items_foldl_set {items : List (κ × ν)} {dict : Dict κ ν}
    (distinct : (items.map Prod.fst).Nodup)
    (absent : ∀ item ∈ items, item.1 ∉ dict.items.map Prod.fst) :
    (items.foldl (fun dict item => dict.set item.1 item.2) dict).items =
      dict.items ++ items := by
  induction items generalizing dict with
  | nil => simp
  | cons item rest ih =>
      rw [List.map_cons, List.nodup_cons] at distinct
      have appended : (dict.set item.1 item.2).items = dict.items ++ [item] :=
        setItems_of_not_mem item.2 (absent item List.mem_cons_self)
      rw [List.foldl_cons, ih distinct.2 ?_, appended, List.append_assoc, List.singleton_append]
      intro other member
      rw [appended, List.map_append, List.mem_append, not_or]
      constructor
      · exact absent other (List.mem_cons_of_mem _ member)
      · rw [List.map_singleton, List.mem_singleton]
        intro same
        exact distinct.1 (same ▸ List.mem_map_of_mem member)

theorem items_ofList {items : List (κ × ν)} (distinct : (items.map Prod.fst).Nodup) :
    (ofList items).items = items := by
  rw [ofList, items_foldl_set distinct fun _ _ => List.not_mem_nil]
  rfl

/-- What `ofList` holds is one of the items it was made of. -/
theorem mem_of_get?_ofList {items : List (κ × ν)} {key : κ} {value : ν}
    (found : (ofList items).get? key = some value) : (key, value) ∈ items := by
  have collected (start : Dict κ ν)
      (stored : (items.foldl (fun dict item => dict.set item.1 item.2) start).get? key =
        some value) : (key, value) ∈ items ∨ start.get? key = some value := by
    clear found
    induction items generalizing start with
    | nil => exact .inr stored
    | cons item rest ih =>
        rcases ih (start.set item.1 item.2) stored with member | earlier
        · exact .inl (List.mem_cons_of_mem _ member)
        · rw [get?_set] at earlier
          split at earlier
          · cases earlier
            subst key
            exact .inl List.mem_cons_self
          · exact .inr earlier
  rcases collected ∅ found with member | absent
  · exact member
  · cases absent

/-- Of two assignments to a key the later one counts. -/
theorem set_set (dict : Dict κ ν) (key : κ) (value other : ν) :
    (dict.set key value).set key other = dict.set key other := by
  have overwritten (items : List (κ × ν)) :
      setItems key other (setItems key value items) = setItems key other items := by
    induction items with
    | nil => simp [setItems]
    | cons item rest ih =>
        rcases item with ⟨head, old⟩
        by_cases equal : head = key
        · simp [setItems, equal]
        · simp [setItems, equal, ih]
  exact ext_items (overwritten dict.items)

theorem keys_set (dict : Dict κ ν) (key : κ) (value : ν) :
    (dict.set key value).keys = if key ∈ dict then dict.keys else dict.keys ++ [key] := by
  split
  · rename_i present
    have overwritten (items : List (κ × ν)) (listed : key ∈ items.map Prod.fst) :
        (setItems key value items).map Prod.fst = items.map Prod.fst := by
      induction items with
      | nil => cases listed
      | cons item rest ih =>
          rcases item with ⟨head, old⟩
          by_cases equal : head = key
          · simp [setItems, equal]
          · have later : key ∈ rest.map Prod.fst :=
              (List.mem_cons.mp listed).resolve_left (Ne.symm equal)
            simp [setItems, equal, ih later]
    exact overwritten dict.items (mem_keys_iff.mpr present)
  · rename_i absent
    have appended : (dict.set key value).items = dict.items ++ [(key, value)] :=
      setItems_of_not_mem value fun listed => absent (mem_keys_iff.mp listed)
    rw [keys, appended, List.map_append]
    rfl

/-- Dictionaries with the same keys, and with related values under them. -/
theorem forall₂_values {ν' : Type*} {first : Dict κ ν} {second : Dict κ ν'}
    {related : ν → ν' → Prop} (same : first.keys = second.keys)
    (under : ∀ key value other, first.get? key = some value → second.get? key = some other →
      related value other) :
    List.Forall₂ related first.values second.values := by
  have listed (items : List (κ × ν)) (others : List (κ × ν'))
      (same : items.map Prod.fst = others.map Prod.fst)
      (under : ∀ key value other, (key, value) ∈ items → (key, other) ∈ others →
        related value other) :
      List.Forall₂ related (items.map Prod.snd) (others.map Prod.snd) := by
    induction items generalizing others with
    | nil =>
        rw [List.map_eq_nil_iff.mp same.symm]
        exact .nil
    | cons item rest ih =>
        obtain ⟨other, later, rfl, keys, tails⟩ := List.map_eq_cons_iff.mp same.symm
        refine .cons ?_ (ih later tails.symm ?_)
        · exact under item.1 _ _ List.mem_cons_self (keys ▸ List.mem_cons_self)
        · intro key value next member among
          exact under key value next (List.mem_cons_of_mem _ member)
            (List.mem_cons_of_mem _ among)
  apply listed first.items second.items same
  intro key value other member among
  exact under key value other (mem_items_iff.mp member) (mem_items_iff.mp among)

/-! ## Lookups of derived dictionaries -/

theorem mem_values_iff {dict : Dict κ ν} {value : ν} :
    value ∈ dict.values ↔ ∃ key, dict.get? key = some value := by
  constructor
  · intro member
    obtain ⟨⟨key, _⟩, listed, rfl⟩ := List.mem_map.mp member
    exact ⟨key, mem_items_iff.mp listed⟩
  · rintro ⟨key, found⟩
    exact List.mem_map.mpr ⟨(key, value), mem_items_iff.mpr found, rfl⟩

/-- Lookups do not depend on the order of the items. -/
theorem get?_eq_of_perm {first second : Dict κ ν}
    (reordered : first.items.Perm second.items) (key : κ) :
    first.get? key = second.get? key := by
  apply Option.ext
  intro value
  rw [← mem_items_iff, ← mem_items_iff]
  exact reordered.mem_iff

theorem get?_update (dict other : Dict κ ν) (key : κ) :
    (dict.update other).get? key = (other.get? key).or (dict.get? key) := by
  have merged (items : List (κ × ν)) (distinct : (items.map Prod.fst).Nodup)
      (start : Dict κ ν) :
      (items.foldl (fun acc item => acc.set item.1 item.2) start).get? key =
        (lookupItems key items).or (start.get? key) := by
    induction items generalizing start with
    | nil => rfl
    | cons item rest ih =>
        rcases item with ⟨head, value⟩
        rw [List.map_cons, List.nodup_cons] at distinct
        rw [List.foldl_cons, ih distinct.2, get?_set, lookupItems]
        by_cases equal : head = key
        · subst head
          rw [(lookupItems_eq_none_iff key rest).mpr distinct.1]
          simp
        · simp [equal, Ne.symm equal]
  exact merged other.items other.nodupKeys dict

omit [DecidableEq κ] in
theorem values_mapValues {ν' : Type*} (change : κ → ν → ν') (dict : Dict κ ν) :
    (dict.mapValues change).values = dict.items.map fun item => change item.1 item.2 := by
  rw [values, mapValues, List.map_map]
  rfl

theorem get?_mapValues {ν' : Type*} (change : κ → ν → ν') (dict : Dict κ ν) (key : κ) :
    (dict.mapValues change).get? key = (dict.get? key).map (change key) := by
  have mapped (items : List (κ × ν)) :
      lookupItems key (items.map fun item => (item.1, change item.1 item.2)) =
        (lookupItems key items).map (change key) := by
    induction items with
    | nil => rfl
    | cons item rest ih =>
        rcases item with ⟨head, value⟩
        by_cases equal : head = key
        · simp [lookupItems, equal]
        · simp [lookupItems, equal, ih]
  exact mapped dict.items

theorem mapValues_set {ν' : Type*} (change : κ → ν → ν') (dict : Dict κ ν) (key : κ)
    (value : ν) :
    (dict.set key value).mapValues change =
      (dict.mapValues change).set key (change key value) := by
  have mapped (items : List (κ × ν)) :
      (setItems key value items).map (fun item => (item.1, change item.1 item.2)) =
        setItems key (change key value)
          (items.map fun item => (item.1, change item.1 item.2)) := by
    induction items with
    | nil => rfl
    | cons item rest ih =>
        rcases item with ⟨head, old⟩
        by_cases equal : head = key
        · simp [setItems, equal]
        · simp [setItems, equal, ih]
  exact ext_items (mapped dict.items)

theorem mapValues_update {ν' : Type*} (change : κ → ν → ν') (dict other : Dict κ ν) :
    (dict.update other).mapValues change =
      (dict.mapValues change).update (other.mapValues change) := by
  have mapped (items : List (κ × ν)) (start : Dict κ ν) :
      (items.foldl (fun acc item => acc.set item.1 item.2) start).mapValues change =
        (items.map fun item => (item.1, change item.1 item.2)).foldl
          (fun acc item => acc.set item.1 item.2) (start.mapValues change) := by
    induction items generalizing start with
    | nil => rfl
    | cons item rest ih =>
        rw [List.foldl_cons, ih, mapValues_set]
        rfl
  exact mapped other.items dict

/-! ## Totals -/

/-- The weight stored under a key, zero when the key is absent. -/
def weightAt (weight : κ → ν → Nat) (dict : Dict κ ν) (key : κ) : Nat :=
  (dict.get? key).elim 0 (weight key)

theorem weightAt_of_get?_eq_some {weight : κ → ν → Nat} {dict : Dict κ ν} {key : κ}
    {value : ν} (found : dict.get? key = some value) :
    dict.weightAt weight key = weight key value := by
  simp [weightAt, found]

/-- Assignment trades the old weight under the key for the new one. -/
theorem total_set (weight : κ → ν → Nat) (dict : Dict κ ν) (key : κ) (value : ν) :
    (dict.set key value).total weight + dict.weightAt weight key =
      dict.total weight + weight key value := by
  obtain ⟨items, nodup⟩ := dict
  simp only [total, set, weightAt, get?]
  clear nodup
  induction items with
  | nil => simp [setItems, lookupItems]
  | cons item rest ih =>
      rcases item with ⟨head, old⟩
      by_cases equal : head = key
      · subst head
        simp [setItems, lookupItems]
        omega
      · simp only [setItems, lookupItems, equal, if_false, List.map_cons, List.sum_cons]
        omega

/-- Deletion removes the weight under the key. -/
theorem total_erase (weight : κ → ν → Nat) (dict : Dict κ ν) (key : κ) :
    (dict.erase key).total weight + dict.weightAt weight key = dict.total weight := by
  obtain ⟨items, nodup⟩ := dict
  simp only [total, erase, weightAt, get?]
  clear nodup
  induction items with
  | nil => simp [eraseItems, lookupItems]
  | cons item rest ih =>
      rcases item with ⟨head, old⟩
      by_cases equal : head = key
      · subst head
        simp [eraseItems, lookupItems]
        omega
      · simp only [eraseItems, lookupItems, equal, if_false, List.map_cons, List.sum_cons]
        omega

/-- `alter` adds what the change adds to the weight of the value. -/
theorem total_alter (weight : κ → ν → Nat) (dict : Dict κ ν) (key : κ) (default : ν)
    (change : ν → ν) (fresh : weight key default = 0) :
    (dict.alter key default change).total weight +
        weight key (dict.getD key default) =
      dict.total weight + weight key (change (dict.getD key default)) := by
  have accounted := dict.total_set weight key (change (dict.getD key default))
  have present : dict.weightAt weight key = weight key (dict.getD key default) := by
    unfold weightAt getD
    cases dict.get? key <;> simp [fresh]
  rw [← present]
  exact accounted

/-! ## New keys -/

/-- A number that is not a key. -/
def freshKey (dict : Dict Nat ν) : Nat :=
  dict.keys.foldr max 0 + 1

theorem freshKey_not_mem (dict : Dict Nat ν) : dict.freshKey ∉ dict := by
  intro present
  obtain ⟨value, found⟩ := mem_iff_exists_get?.mp present
  have listed : dict.freshKey ∈ dict.keys :=
    List.mem_map.mpr ⟨_, mem_items_iff.mpr found, rfl⟩
  have bounded : dict.freshKey ≤ dict.keys.foldr max 0 :=
    List.le_max_of_le' 0 listed (le_refl _)
  exact absurd bounded (Nat.not_succ_le_self _)

end Dict

end KuryrKubernetes.Data
