import KuryrKubernetes.Policy.Synced

/-!
# Deletion of the rules for a pod or a namespace

What a deletion does with an entry of a resource is read off the entry: its rule is
deleted at Neutron, it is lost although its rule stays, or it is kept.
-/

namespace KuryrKubernetes.Policy

open KuryrKubernetes.Data
open KuryrKubernetes.Effect

/-- What a deletion does with entries: they are found, gone with their rules at Neutron,
or lost without them. -/
structure Fate where
  found : CrdRule → Bool
  gone : CrdRule → Bool
  lost : CrdRule → Bool

/-- The fate of entries at the deletion of a pod. -/
def podFate (podIp : String) : Fate where
  found entry := entry.rule.remoteIpPrefix = some podIp ∨ podIp ∈ entry.remoteIpPrefixes
  gone entry := entry.rule.remoteIpPrefix = some podIp
  lost entry := entry.rule.remoteIpPrefix ≠ some podIp ∧ ¬entry.remoteIpPrefixes.items.isEmpty ∧
    (podIp ∈ entry.remoteIpPrefixes → (entry.remoteIpPrefixes.erase podIp).items.isEmpty)

/-- The fate of entries at the deletion of a namespace. -/
def namespaceFate (nsName : String) : Fate where
  found entry := entry.namespaceName = some nsName ∨ nsName ∈ entry.remoteIpPrefixes.values
  gone entry := entry.namespaceName = some nsName
  lost entry := entry.namespaceName ≠ some nsName ∧ ¬entry.remoteIpPrefixes.items.isEmpty ∧
    ∀ namespaceName ∈ entry.remoteIpPrefixes.values, namespaceName = nsName

namespace Fate

/-- What turns of a loop over entries do, when they end with a result. -/
def Describes (fate : Fate) (turn : CrdRule → DriverM (Bool × List CrdRule)) : Prop :=
  ∀ entry before result after, exec (turn entry) before = (.ok result, after) →
    result.1 = fate.found entry ∧
    entryIds result.2 = (if fate.gone entry ∨ fate.lost entry then [] else [entry.id]) ∧
    after = if fate.gone entry then
      { before with neutron := before.neutron.erase entry.id } else before

/-- Every entry that is gone is found. -/
def Sound (fate : Fate) : Prop :=
  ∀ entry, fate.gone entry → fate.found entry

/-- A deletion that finds something loses no rule, and keeps no entry without one. -/
def Clean (fate : Fate) (entries : List CrdRule) : Prop :=
  (∃ entry ∈ entries, fate.found entry) → ∀ entry ∈ entries,
    (fate.gone entry → ∀ other ∈ entries, other.id = entry.id →
      fate.gone other ∨ fate.lost other) ∧
    (fate.lost entry → ∃ other ∈ entries, other.id = entry.id ∧ ¬fate.lost other)

instance (fate : Fate) (entries : List CrdRule) : Decidable (fate.Clean entries) :=
  inferInstanceAs (Decidable ((∃ entry ∈ entries, _) → ∀ entry ∈ entries,
    (_ → ∀ other ∈ entries, _ → _) ∧ (_ → ∃ other ∈ entries, _)))

end Fate

variable {snapshot : Snapshot}

theorem exec_deleteSecurityGroupRule {id : Nat} {before after : World} {value : Unit}
    (ran : exec (deleteSecurityGroupRule snapshot id) before = (.ok value, after)) :
    after = { before with neutron := before.neutron.erase id } := by
  unfold deleteSecurityGroupRule at ran
  split at ran
  · cases ran
  · cases ran
    rfl

theorem podFate_describes (podIp : String) :
    (podFate podIp).Describes (parseRuleOnDeletePod snapshot podIp) := by
  intro entry before result after ran
  unfold parseRuleOnDeletePod at ran
  by_cases own : entry.rule.remoteIpPrefix = some podIp
  · rw [if_pos own] at ran
    obtain ⟨value, middle, deleted, ended⟩ := exec_bind_eq_ok ran
    cases ended
    simp [podFate, own, entryIds, exec_deleteSecurityGroupRule deleted]
  · rw [if_neg own] at ran
    by_cases empty : entry.remoteIpPrefixes.items.isEmpty
    · rw [if_pos empty] at ran
      cases ran
      have absent : podIp ∉ entry.remoteIpPrefixes := by
        rw [Dict.not_mem_iff_get?_eq_none]
        exact get?_eq_none_of_isEmpty empty podIp
      simp [podFate, own, List.isEmpty_iff.mp empty, absent, entryIds]
    · rw [if_neg empty] at ran
      rw [List.isEmpty_iff] at empty
      by_cases listed : podIp ∈ entry.remoteIpPrefixes
      · rw [if_pos listed] at ran
        dsimp only at ran
        by_cases last : (entry.remoteIpPrefixes.erase podIp).items.isEmpty
        · rw [if_pos last] at ran
          cases ran
          rw [List.isEmpty_iff] at last
          simp [podFate, own, empty, listed, last, entryIds]
        · rw [if_neg last] at ran
          cases ran
          rw [List.isEmpty_iff] at last
          simp [podFate, own, empty, listed, last, entryIds]
      · rw [if_neg listed] at ran
        cases ran
        simp [podFate, own, empty, listed, entryIds]

/-- Nothing is left of a dictionary exactly if no value is kept. -/
theorem filter_isEmpty_iff {prefixes : Dict String String} {nsName : String} :
    (prefixes.filter fun _ namespaceName => namespaceName ≠ nsName).items = [] ↔
      ∀ namespaceName ∈ prefixes.values, namespaceName = nsName := by
  simp only [Dict.filter, Dict.values, List.filter_eq_nil_iff, decide_eq_true_eq, not_not,
    List.forall_mem_map]

theorem namespaceFate_describes (nsName : String) :
    (namespaceFate nsName).Describes (parseRuleOnDeleteNamespace snapshot nsName) := by
  intro entry before result after ran
  unfold parseRuleOnDeleteNamespace at ran
  by_cases own : entry.namespaceName = some nsName
  · rw [if_pos own] at ran
    obtain ⟨value, middle, deleted, ended⟩ := exec_bind_eq_ok ran
    cases ended
    simp [namespaceFate, own, entryIds, exec_deleteSecurityGroupRule deleted]
  · rw [if_neg own] at ran
    by_cases empty : entry.remoteIpPrefixes.items.isEmpty
    · rw [if_pos empty] at ran
      cases ran
      rw [List.isEmpty_iff] at empty
      simp [namespaceFate, own, empty, entryIds, Dict.values]
    · rw [if_neg empty] at ran
      rw [List.isEmpty_iff] at empty
      dsimp only at ran
      by_cases last : ∀ namespaceName ∈ entry.remoteIpPrefixes.values, namespaceName = nsName
      · rw [if_pos (List.isEmpty_iff.mpr (filter_isEmpty_iff.mpr last))] at ran
        cases ran
        simpa [namespaceFate, own, empty, entryIds] using last
      · rw [if_neg (mt List.isEmpty_iff.mp (mt filter_isEmpty_iff.mp last))] at ran
        cases ran
        simp [namespaceFate, own, empty, last, entryIds]

theorem podFate_sound (podIp : String) : (podFate podIp).Sound := by
  intro entry gone
  exact decide_eq_true (.inl (of_decide_eq_true gone))

theorem namespaceFate_sound (nsName : String) : (namespaceFate nsName).Sound := by
  intro entry gone
  exact decide_eq_true (.inl (of_decide_eq_true gone))

/-! ## All entries of a direction -/

/-- What a loop over entries leaves, when it ends with a result: the ids of entries that
are neither gone nor lost, and Neutron without the rules of those that are gone. -/
structure Fate.Left (fate : Fate) (entries : List CrdRule) (before : World)
    (result : Bool × List CrdRule) (after : World) : Prop where
  matched : result.1 = entries.any fate.found
  ids : ∀ id, id ∈ entryIds result.2 ↔
    ∃ entry ∈ entries, entry.id = id ∧ ¬fate.gone entry ∧ ¬fate.lost entry
  crds : after.crds = before.crds
  neutron : ∀ id rule, after.neutron.get? id = some rule ↔
    before.neutron.get? id = some rule ∧ ∀ entry ∈ entries, fate.gone entry → entry.id ≠ id

theorem Fate.Describes.left {fate : Fate} {turn : CrdRule → DriverM (Bool × List CrdRule)}
    (describes : fate.Describes turn) {entries : List CrdRule} {before after : World}
    {result : Bool × List CrdRule}
    (ran : exec (overCrdRules turn entries) before = (.ok result, after)) :
    fate.Left entries before result after := by
  induction entries generalizing before result with
  | nil =>
      cases ran
      exact ⟨rfl, by simp [entryIds], rfl, by simp⟩
  | cons entry rest ih =>
      rw [overCrdRules] at ran
      obtain ⟨⟨matched, kept⟩, middle, turned, later⟩ := exec_bind_eq_ok ran
      obtain ⟨⟨matchedLater, rules⟩, last, looped, ended⟩ := exec_bind_eq_ok later
      cases ended
      obtain ⟨found, keptIds, moved⟩ := describes entry before _ middle turned
      obtain ⟨foundLater, idsLater, crdsLater, neutronLater⟩ := ih looped
      dsimp only at found keptIds foundLater idsLater
      constructor
      · rw [List.any_cons, ← found, ← foundLater]
      · intro id
        have appended : entryIds (kept ++ rules) = entryIds kept ++ entryIds rules :=
          List.map_append
        rw [appended, List.mem_append, idsLater, keptIds]
        by_cases leaves : fate.gone entry ∨ fate.lost entry
        · rw [if_pos leaves]
          simp only [List.not_mem_nil, false_or, List.exists_mem_cons_iff]
          constructor
          · exact .inr
          · rintro (⟨_, stays⟩ | later)
            · exact absurd leaves (not_or.mpr stays)
            · exact later
        · rw [if_neg leaves, List.mem_singleton]
          simp only [List.exists_mem_cons_iff]
          rw [not_or] at leaves
          constructor
          · rintro (rfl | later)
            · exact .inl ⟨rfl, leaves⟩
            · exact .inr later
          · rintro (⟨rfl, _⟩ | later)
            · exact .inl rfl
            · exact .inr later
      · rw [crdsLater, moved]
        split <;> rfl
      · intro id rule
        rw [neutronLater, moved, List.forall_mem_cons]
        by_cases gone : fate.gone entry
        · rw [if_pos gone]
          dsimp only
          rw [Dict.get?_erase]
          by_cases same : id = entry.id
          · simp [same, gone]
          · simp [same, gone, Ne.symm same]
        · rw [if_neg gone]
          simp [gone]

/-! ## Entries without a mention -/

namespace CrdRule

/-- An entry mentions the address of a pod. -/
def MentionsPod (podIp : String) (entry : CrdRule) : Prop :=
  entry.rule.remoteIpPrefix = some podIp ∨ podIp ∈ entry.remoteIpPrefixes

/-- An entry mentions a namespace. -/
def MentionsNamespace (nsName : String) (entry : CrdRule) : Prop :=
  entry.namespaceName = some nsName ∨ nsName ∈ entry.remoteIpPrefixes.values

/-- What the deletion of a pod leaves of an entry. -/
def leftByPod (podIp : String) (entry : CrdRule) : List CrdRule :=
  if (podFate podIp).gone entry ∨ (podFate podIp).lost entry then
    []
  else
    [{ entry with remoteIpPrefixes := entry.remoteIpPrefixes.erase podIp }]

/-- What the deletion of a namespace leaves of an entry. -/
def leftByNamespace (nsName : String) (entry : CrdRule) : List CrdRule :=
  if (namespaceFate nsName).gone entry ∨ (namespaceFate nsName).lost entry then
    []
  else
    [{ entry with
        remoteIpPrefixes := entry.remoteIpPrefixes.filter fun _ namespaceName =>
          namespaceName ≠ nsName }]

end CrdRule

/-- A loop over entries leaves these ones in some world. -/
def Leaves (parse : Snapshot → List CrdRule → DriverM (Bool × List CrdRule))
    (entries rules : List CrdRule) : Prop :=
  ∃ snapshot before matched after,
    exec (parse snapshot entries) before = (.ok (matched, rules), after)

/-- A loop keeps each entry without a mention, unchanged and between what it leaves of the
entries before and after it, and tells whether some entry has a mention. -/
structure KeepsUnmentioned (mentions : CrdRule → Prop)
    (parse : Snapshot → List CrdRule → DriverM (Bool × List CrdRule))
    (entries : List CrdRule) : Prop where
  kept : ∀ rules, Leaves parse entries rules → ∀ earlier entry later,
    entries = earlier ++ entry :: later → ¬mentions entry →
      ∃ left right, Leaves parse earlier left ∧ Leaves parse later right ∧
        rules = left ++ entry :: right
  matched : ∀ snapshot before matched rules after,
    exec (parse snapshot entries) before = (.ok (matched, rules), after) →
      (matched = true ↔ ∃ entry ∈ entries, mentions entry)

/-- The turns of a loop tell what they find and leave what they leave, and end where Neutron
refuses nothing. -/
structure Turns (turn : Snapshot → CrdRule → DriverM (Bool × List CrdRule))
    (mentions : CrdRule → Prop) (left : CrdRule → List CrdRule) : Prop where
  found : ∀ snapshot entry before result after,
    exec (turn snapshot entry) before = (.ok result, after) → (result.1 = true ↔ mentions entry)
  leaves : ∀ snapshot entry before result after,
    exec (turn snapshot entry) before = (.ok result, after) → result.2 = left entry
  ends : ∀ entry before, ∃ result after, exec (turn {} entry) before = (.ok result, after)

namespace Turns

variable {turn : Snapshot → CrdRule → DriverM (Bool × List CrdRule)} {mentions : CrdRule → Prop}
  {left : CrdRule → List CrdRule}

theorem overCrdRules (turns : Turns turn mentions left) {entries : List CrdRule}
    {before after : World} {result : Bool × List CrdRule}
    (ran : exec (Policy.overCrdRules (turn snapshot) entries) before = (.ok result, after)) :
    (result.1 = true ↔ ∃ entry ∈ entries, mentions entry) ∧ result.2 = entries.flatMap left := by
  induction entries generalizing before result with
  | nil =>
      cases ran
      simp
  | cons entry rest ih =>
      rcases exec_bind_eq_ok ran with ⟨⟨matched, kept⟩, middle, turned, later⟩
      rcases exec_bind_eq_ok later with ⟨⟨matchedLater, rules⟩, last, looped, ended⟩
      cases ended
      have found := turns.found snapshot entry before _ middle turned
      have leaves := turns.leaves snapshot entry before _ middle turned
      rcases ih looped with ⟨foundLater, leavesLater⟩
      dsimp only at found leaves foundLater leavesLater
      constructor
      · rw [List.exists_mem_cons_iff, ← found, ← foundLater, Bool.or_eq_true]
      · rw [List.flatMap_cons, leaves, leavesLater]

theorem overCrdRules_ends (turns : Turns turn mentions left) (entries : List CrdRule)
    (before : World) :
    ∃ result after,
      exec (Policy.overCrdRules (turn {}) entries) before = (.ok result, after) := by
  induction entries generalizing before with
  | nil => exact ⟨_, before, rfl⟩
  | cons entry rest ih =>
      rcases turns.ends entry before with ⟨result, middle, turned⟩
      rcases ih middle with ⟨resultLater, after, looped⟩
      have both : exec (Policy.overCrdRules (turn {}) (entry :: rest)) before =
          (.ok (result.1 || resultLater.1, result.2 ++ resultLater.2), after) := by
        rw [Policy.overCrdRules, exec_bind_of_ok turned, exec_bind_of_ok looped]
        rfl
      exact ⟨_, after, both⟩

theorem leaves_iff (turns : Turns turn mentions left) (entries rules : List CrdRule) :
    Leaves (fun snapshot => Policy.overCrdRules (turn snapshot)) entries rules ↔
      rules = entries.flatMap left := by
  constructor
  · rintro ⟨snapshot, before, matched, after, ran⟩
    exact (turns.overCrdRules ran).2
  · rintro rfl
    rcases turns.overCrdRules_ends entries {} with ⟨⟨matched, rules⟩, after, ran⟩
    have same : rules = entries.flatMap left := (turns.overCrdRules ran).2
    rw [same] at ran
    exact ⟨{}, {}, matched, after, ran⟩

/-- A loop keeps the entries without a mention exactly where each of its turns does. -/
theorem keepsUnmentioned_iff (turns : Turns turn mentions left) (entries : List CrdRule) :
    KeepsUnmentioned mentions (fun snapshot => Policy.overCrdRules (turn snapshot)) entries ↔
      ∀ entry ∈ entries, ¬mentions entry → left entry = [entry] := by
  constructor
  · intro keeps entry listed unmentioned
    rcases List.append_of_mem listed with ⟨earlier, later, split⟩
    have all := (turns.leaves_iff entries _).mpr rfl
    rcases keeps.kept _ all earlier entry later split unmentioned with
      ⟨before, after, leftBefore, leftAfter, rules⟩
    rw [(turns.leaves_iff earlier before).mp leftBefore,
      (turns.leaves_iff later after).mp leftAfter, split, List.flatMap_append,
      List.flatMap_cons, List.append_cancel_left_eq] at rules
    exact List.append_cancel_right (rules.trans (List.singleton_append (l := _)).symm)
  · intro each
    constructor
    · intro rules all earlier entry later split unmentioned
      have listed : entry ∈ entries := by simp [split]
      refine ⟨earlier.flatMap left, later.flatMap left, (turns.leaves_iff _ _).mpr rfl,
        (turns.leaves_iff _ _).mpr rfl, ?_⟩
      rw [(turns.leaves_iff entries rules).mp all, split, List.flatMap_append,
        List.flatMap_cons, each entry listed unmentioned]
      rfl
    · intro snapshot before matched rules after ran
      exact (turns.overCrdRules ran).1

end Turns

theorem podTurns (podIp : String) :
    Turns (fun snapshot => parseRuleOnDeletePod snapshot podIp) (CrdRule.MentionsPod podIp)
      (CrdRule.leftByPod podIp) := by
  constructor
  · intro snapshot entry before result after ran
    rw [(podFate_describes podIp entry before result after ran).1]
    simp [podFate, CrdRule.MentionsPod]
  · intro snapshot entry before result after ran
    unfold parseRuleOnDeletePod at ran
    by_cases own : entry.rule.remoteIpPrefix = some podIp
    · rw [if_pos own] at ran
      rcases exec_bind_eq_ok ran with ⟨value, middle, deleted, ended⟩
      cases ended
      simp [CrdRule.leftByPod, podFate, own]
    · rw [if_neg own] at ran
      by_cases empty : entry.remoteIpPrefixes.items = []
      · rw [if_pos (List.isEmpty_iff.mpr empty)] at ran
        cases ran
        have nothing : entry.remoteIpPrefixes = ∅ := Dict.ext_items empty
        have same : entry.remoteIpPrefixes.erase podIp = entry.remoteIpPrefixes := by
          rw [nothing]
          rfl
        have stays : ¬((podFate podIp).gone entry ∨ (podFate podIp).lost entry) := by
          simp [podFate, own, empty]
        rw [CrdRule.leftByPod, if_neg stays, same]
      · rw [if_neg (mt List.isEmpty_iff.mp empty)] at ran
        by_cases listed : podIp ∈ entry.remoteIpPrefixes
        · rw [if_pos listed] at ran
          dsimp only at ran
          by_cases last : (entry.remoteIpPrefixes.erase podIp).items = []
          · rw [if_pos (List.isEmpty_iff.mpr last)] at ran
            cases ran
            simp [CrdRule.leftByPod, podFate, empty, last]
          · rw [if_neg (mt List.isEmpty_iff.mp last)] at ran
            cases ran
            simp [CrdRule.leftByPod, podFate, own, listed, last]
        · rw [if_neg listed] at ran
          cases ran
          simp [CrdRule.leftByPod, podFate, empty, listed]
  · intro entry before
    unfold parseRuleOnDeletePod
    split
    · exact ⟨_, _, rfl⟩
    · split
      · exact ⟨_, _, rfl⟩
      · split
        · dsimp only
          split
          · exact ⟨_, _, rfl⟩
          · exact ⟨_, _, rfl⟩
        · exact ⟨_, _, rfl⟩

theorem namespaceTurns (nsName : String) :
    Turns (fun snapshot => parseRuleOnDeleteNamespace snapshot nsName)
      (CrdRule.MentionsNamespace nsName) (CrdRule.leftByNamespace nsName) := by
  constructor
  · intro snapshot entry before result after ran
    rw [(namespaceFate_describes nsName entry before result after ran).1]
    simp [namespaceFate, CrdRule.MentionsNamespace]
  · intro snapshot entry before result after ran
    unfold parseRuleOnDeleteNamespace at ran
    by_cases own : entry.namespaceName = some nsName
    · rw [if_pos own] at ran
      rcases exec_bind_eq_ok ran with ⟨value, middle, deleted, ended⟩
      cases ended
      simp [CrdRule.leftByNamespace, namespaceFate, own]
    · rw [if_neg own] at ran
      by_cases empty : entry.remoteIpPrefixes.items = []
      · rw [if_pos (List.isEmpty_iff.mpr empty)] at ran
        cases ran
        have nothing : entry.remoteIpPrefixes = ∅ := Dict.ext_items empty
        have same : (entry.remoteIpPrefixes.filter fun _ namespaceName =>
            namespaceName ≠ nsName) = entry.remoteIpPrefixes := by
          rw [nothing]
          rfl
        have stays : ¬((namespaceFate nsName).gone entry ∨ (namespaceFate nsName).lost entry) := by
          simp [namespaceFate, own, empty]
        rw [CrdRule.leftByNamespace, if_neg stays, same]
      · rw [if_neg (mt List.isEmpty_iff.mp empty)] at ran
        dsimp only at ran
        by_cases last : ∀ namespaceName ∈ entry.remoteIpPrefixes.values, namespaceName = nsName
        · rw [if_pos (List.isEmpty_iff.mpr (filter_isEmpty_iff.mpr last))] at ran
          cases ran
          simpa [CrdRule.leftByNamespace, namespaceFate, own, empty] using last
        · rw [if_neg (mt List.isEmpty_iff.mp (mt filter_isEmpty_iff.mp last))] at ran
          cases ran
          simp [CrdRule.leftByNamespace, namespaceFate, own, last]
  · intro entry before
    unfold parseRuleOnDeleteNamespace
    split
    · exact ⟨_, _, rfl⟩
    · split
      · exact ⟨_, _, rfl⟩
      · dsimp only
        split
        · exact ⟨_, _, rfl⟩
        · exact ⟨_, _, rfl⟩

/-- The deletion of a pod leaves an entry without a mention unless it has other pods. -/
theorem leftByPod_eq_iff {podIp : String} {entry : CrdRule}
    (unmentioned : ¬entry.MentionsPod podIp) :
    entry.leftByPod podIp = [entry] ↔ entry.remoteIpPrefixes.items = [] := by
  rcases not_or.mp unmentioned with ⟨other, unlisted⟩
  have same : entry.remoteIpPrefixes.erase podIp = entry.remoteIpPrefixes :=
    Dict.erase_of_not_mem unlisted
  unfold CrdRule.leftByPod
  by_cases empty : entry.remoteIpPrefixes.items = []
  · simp [podFate, other, empty, same]
  · simp [podFate, other, empty, unlisted]

/-- The deletion of a namespace leaves every entry without a mention. -/
theorem leftByNamespace_eq {nsName : String} {entry : CrdRule}
    (unmentioned : ¬entry.MentionsNamespace nsName) : entry.leftByNamespace nsName = [entry] := by
  rcases not_or.mp unmentioned with ⟨other, unlisted⟩
  have kept : (entry.remoteIpPrefixes.filter fun _ namespaceName => namespaceName ≠ nsName) =
      entry.remoteIpPrefixes := by
    apply Dict.ext_items
    apply List.filter_eq_self.mpr
    intro item listed
    apply decide_eq_true
    intro same
    exact unlisted (List.mem_map.mpr ⟨item, listed, same⟩)
  have stays : ¬((namespaceFate nsName).gone entry ∨ (namespaceFate nsName).lost entry) := by
    rintro (gone | lost)
    · exact other (of_decide_eq_true gone)
    · rcases of_decide_eq_true lost with ⟨_, filled, all⟩
      rcases List.exists_mem_of_ne_nil _ (mt List.isEmpty_iff.mpr filled) with ⟨item, listed⟩
      have value : item.2 ∈ entry.remoteIpPrefixes.values := List.mem_map_of_mem listed
      exact unlisted (all item.2 value ▸ value)
  rw [CrdRule.leftByNamespace, if_neg stays, kept]

/-- Both loops keep the entries without a mention exactly where each of them is without
pods. -/
theorem parse_rules_on_delete_iff (podIp nsName : String) (entries : List CrdRule) :
    (KeepsUnmentioned (CrdRule.MentionsPod podIp)
        (fun snapshot => parseRulesOnDeletePod snapshot podIp) entries ∧
      KeepsUnmentioned (CrdRule.MentionsNamespace nsName)
        (fun snapshot => parseRulesOnDeleteNamespace snapshot nsName) entries) ↔
      ∀ entry ∈ entries, ¬entry.MentionsPod podIp → entry.remoteIpPrefixes.items = [] := by
  have pods := (podTurns podIp).keepsUnmentioned_iff entries
  have namespaces := (namespaceTurns nsName).keepsUnmentioned_iff entries
  constructor
  · rintro ⟨keeps, _⟩ entry listed unmentioned
    exact (leftByPod_eq_iff unmentioned).mp (pods.mp keeps entry listed unmentioned)
  · intro bare
    constructor
    · apply pods.mpr
      intro entry listed unmentioned
      exact (leftByPod_eq_iff unmentioned).mpr (bare entry listed unmentioned)
    · apply namespaces.mpr
      intro entry _ unmentioned
      exact leftByNamespace_eq unmentioned

/-- The entry for a named port of another pod disappears. -/
theorem parse_rules_on_delete_loses_entry :
    let entry : CrdRule :=
      { rule :=
          { securityGroupId := "group", direction := .ingress, protocol := .tcp
            portRangeMin := 8030, portRangeMax := 8030 }
        remoteIpPrefixes := (∅ : Dict String String).set "10.0.0.2" "other"
        id := 7 }
    ¬KeepsUnmentioned (CrdRule.MentionsPod "10.0.0.1")
      (fun snapshot => parseRulesOnDeletePod snapshot "10.0.0.1") [entry] := by
  intro entry keeps
  have other : ¬entry.MentionsPod "10.0.0.1" := by
    unfold CrdRule.MentionsPod
    decide
  have left := ((podTurns "10.0.0.1").keepsUnmentioned_iff [entry]).mp keeps entry
    List.mem_cons_self other
  have empty := (leftByPod_eq_iff other).mp left
  cases empty

end KuryrKubernetes.Policy
