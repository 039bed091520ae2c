import KuryrKubernetes.Handlers.MultiVif

/-!
# Interface names

The additional interfaces of a pod get distinct names, none of which is the name
of the default interface.  So the VIFs of a state are all the VIFs it was made of.
-/

namespace KuryrKubernetes.Handlers

open KuryrKubernetes.Data

/-- Numbers with the same digits are equal. -/
theorem eq_of_repr_eq {m n : Nat} (same : m.repr = n.repr) : m = n := by
  have digits : Nat.toDigits 10 m = Nat.toDigits 10 n := by
    rw [← Nat.toList_repr, ← Nat.toList_repr, same]
  rw [← Nat.ofDigitChars_ten_toDigits (n := m), digits, Nat.ofDigitChars_ten_toDigits]

theorem toDigits_ne_zero_digit {i : Nat} (positive : 0 < i) : Nat.toDigits 10 i ≠ ['0'] := by
  intro digits
  have value := Nat.ofDigitChars_ten_toDigits (n := i)
  rw [digits, show (['0'] : List Char) = Nat.toDigits 10 0 by decide,
    Nat.ofDigitChars_ten_toDigits] at value
  exact absurd value (Nat.ne_of_lt positive)

/-- A name that ends in the digits of a positive number is not `eth0`. -/
theorem append_repr_ne_defaultIfname (ifnamePrefix : String) {i : Nat} (positive : 0 < i) :
    ifnamePrefix ++ i.repr ≠ defaultIfname := by
  intro same
  have letters := congrArg String.toList same
  rw [String.toList_append, Nat.toList_repr] at letters
  rcases List.append_eq_append_iff.mp
    (letters.trans (show defaultIfname.toList = ['e', 't', 'h'] ++ ['0'] by decide)) with
    ⟨missing, eth, digits⟩ | ⟨extra, _, zero⟩
  · cases missing with
    | nil => exact toDigits_ne_zero_digit positive digits
    | cons letter rest =>
        have listed : letter ∈ Nat.toDigits 10 i := by
          rw [digits]
          exact List.mem_cons_self
        have digit : letter.isDigit = true :=
          Nat.isDigit_of_mem_toDigits (by omega) (by omega) listed
        have inEth : letter ∈ ['e', 't', 'h'] := by
          rw [eth]
          exact List.mem_append_right _ List.mem_cons_self
        have noDigit : letter.isDigit = false := by
          simp only [List.mem_cons, List.not_mem_nil, or_false] at inEth
          rcases inEth with rfl | rfl | rfl <;> rfl
        rw [noDigit] at digit
        cases digit
  · cases extra with
    | nil => exact toDigits_ne_zero_digit positive zero.symm
    | cons letter rest =>
        have empty : Nat.toDigits 10 i = [] := by
          have lengths := congrArg List.length zero
          rw [List.length_append] at lengths
          simp only [List.length_cons, List.length_nil] at lengths
          exact List.eq_nil_of_length_eq_zero (by omega)
        exact Nat.toDigits_ne_nil empty

theorem ifnames_additional (ifnamePrefix : String) (vifs : List Vif) :
    (additionalIfnames ifnamePrefix vifs).map Prod.fst =
      (List.range' 1 vifs.length).map fun i => ifnamePrefix ++ i.repr := by
  rw [additionalIfnames, List.map_map]
  have positions : (vifs.zipIdx 1).map Prod.snd = List.range' 1 vifs.length :=
    List.zipIdx_map_snd 1 vifs
  rw [← positions, List.map_map]
  rfl

theorem nodup_ifnames (ifnamePrefix : String) (vifs : List Vif) :
    ((additionalIfnames ifnamePrefix vifs).map Prod.fst).Nodup := by
  rw [ifnames_additional]
  refine List.Nodup.map ?_ List.nodup_range'
  intro i j same
  have letters := congrArg String.toList same
  rw [String.toList_append, String.toList_append] at letters
  exact eq_of_repr_eq (String.toList_inj.mp (List.append_cancel_left letters))

theorem ifnames_ne_default {ifnamePrefix : String} {vifs : List Vif} {item : String × Vif}
    (member : item ∈ additionalIfnames ifnamePrefix vifs) : item.1 ≠ defaultIfname := by
  have named : item.1 ∈ (additionalIfnames ifnamePrefix vifs).map Prod.fst :=
    List.mem_map_of_mem member
  rw [ifnames_additional] at named
  obtain ⟨i, position, name⟩ := List.mem_map.mp named
  rw [← name]
  exact append_repr_ne_defaultIfname ifnamePrefix (List.mem_range'_1.mp position).1

/-- The VIFs of a state are the main one and the additional ones. -/
theorem vifs_podStateOf (ifnamePrefix : String) (mainVif : Vif) (vifs : List Vif) :
    (podStateOf ifnamePrefix mainVif vifs).vifs.values = mainVif :: vifs := by
  have additional : (podStateOf ifnamePrefix mainVif vifs).additionalVifs.items =
      additionalIfnames ifnamePrefix vifs := Dict.items_ofList (nodup_ifnames _ _)
  have items : (podStateOf ifnamePrefix mainVif vifs).vifs.items =
      (defaultIfname, mainVif) :: additionalIfnames ifnamePrefix vifs := by
    rw [PodState.vifs, Dict.update, additional, Dict.items_foldl_set (nodup_ifnames _ _)]
    · rfl
    · intro item member
      change item.1 ∉ [defaultIfname]
      rw [List.mem_singleton]
      exact ifnames_ne_default member
  rw [Dict.values, items, List.map_cons, additionalIfnames, List.map_map]
  congr 1
  exact List.zipIdx_map_fst 1 vifs

end KuryrKubernetes.Handlers
