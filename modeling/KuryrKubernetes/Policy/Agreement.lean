import KuryrKubernetes.Policy.Deletion

/-!
# Agreement of all resources with Neutron

The loop over the resources keeps all of them in agreement with the rules at Neutron if
the rules of each are parsed so that the two agree.  Creation parses them so, and
deletion does where it loses no entry without its rule and keeps none of a deleted rule.
-/

namespace KuryrKubernetes.Policy

open KuryrKubernetes.Data
open KuryrKubernetes.Effect

/-! ## Agreement of all resources -/

namespace Crd

/-- The rules of a resource. -/
def entries (crd : Crd) : List CrdRule :=
  crd.ingressSgRules ++ crd.egressSgRules

/-- The ids of a resource are those of the rules of its security group. -/
def Synced (crd : Crd) (neutron : Dict Nat SgRule) : Prop :=
  ∀ id, id ∈ entryIds crd.entries ↔ InGroup neutron crd.securityGroupId id

/-- What tells a resource from others. -/
def resource (crd : Crd) : String × String :=
  (crd.namespaceName, crd.name)

end Crd

namespace World

/-- All resources agree with Neutron. -/
def Synced (world : World) : Prop :=
  ∀ crd ∈ world.crds, crd.Synced world.neutron

/-- Resources are told apart by their names, and each has a security group of its own. -/
structure Distinct (world : World) : Prop where
  resources : (world.crds.map Crd.resource).Nodup
  groups : (world.crds.map Crd.securityGroupId).Nodup

end World

theorem mem_entryIds_entries {crd : Crd} {id : Nat} :
    id ∈ entryIds crd.entries ↔
      id ∈ entryIds crd.ingressSgRules ∨ id ∈ entryIds crd.egressSgRules := by
  rw [entryIds, Crd.entries, List.map_append, List.mem_append]
  rfl

/-! ## One resource -/

/-- The rules of groups other than the one of a resource are left alone, and so are the
resources. -/
structure Aside (crd : Crd) (before after : World) : Prop where
  crds : after.crds = before.crds
  foreign : ∀ id rule, rule.securityGroupId ≠ crd.securityGroupId →
    (after.neutron.get? id = some rule ↔ before.neutron.get? id = some rule)

/-- Parsing both directions of a resource gives rules that agree with Neutron, or none for
a patch when the ones there still agree. -/
def Parses (parse : Direction → Crd → DriverM (Bool × List CrdRule)) (crd : Crd)
    (before : World) : Prop :=
  ∀ ingress middle egress after, exec (parse .ingress crd) before = (.ok ingress, middle) →
    exec (parse .egress crd) middle = (.ok egress, after) →
    Aside crd before after ∧
      if ingress.1 ∨ egress.1 then (crd.withRules ingress.2 egress.2).Synced after.neutron
      else crd.Synced after.neutron

/-- The turn for a resource: that one agrees afterwards, and the others are as they
were. -/
structure Turned (crd : Crd) (before after : World) : Prop where
  synced : after.Synced
  resources : after.crds.map Crd.resource = before.crds.map Crd.resource
  groups : after.crds.map Crd.securityGroupId = before.crds.map Crd.securityGroupId
  others : ∀ other ∈ before.crds, other ≠ crd → other ∈ after.crds

theorem World.Distinct.turned {crd : Crd} {before after : World} (distinct : before.Distinct)
    (turned : Turned crd before after) : after.Distinct := by
  constructor
  · rw [turned.resources]
    exact distinct.resources
  · rw [turned.groups]
    exact distinct.groups

/-- A resource of a group other than the one worked on still agrees. -/
theorem Aside.synced {crd other : Crd} {before after : World} (aside : Aside crd before after)
    (different : other.securityGroupId ≠ crd.securityGroupId) (synced : other.Synced before.neutron) :
    other.Synced after.neutron := by
  intro id
  rw [synced id]
  constructor
  · rintro ⟨rule, found, own⟩
    have foreign : rule.securityGroupId ≠ crd.securityGroupId := own ▸ different
    exact ⟨rule, (aside.foreign id rule foreign).mpr found, own⟩
  · rintro ⟨rule, found, own⟩
    have foreign : rule.securityGroupId ≠ crd.securityGroupId := own ▸ different
    exact ⟨rule, (aside.foreign id rule foreign).mp found, own⟩

variable {snapshot : Snapshot}

theorem sameResource_iff {crd other : Crd} : crd.sameResource other ↔ crd.resource = other.resource := by
  simp [Crd.sameResource, Crd.resource]

/-- The resources that were not worked on agree as before. -/
theorem Aside.others_synced {crd other : Crd} {before after : World}
    (aside : Aside crd before after) (distinct : before.Distinct) (synced : before.Synced)
    (listed : crd ∈ before.crds) (among : other ∈ before.crds) (differs : other ≠ crd) :
    other.Synced after.neutron := by
  apply aside.synced _ (synced other among)
  intro equal
  exact differs (List.inj_on_of_nodup_map distinct.groups among listed equal)

/-- The patch replaces one resource. -/
theorem turned_of_patch {crd : Crd} {iRules eRules : List CrdRule} {before middle : World}
    (distinct : before.Distinct) (synced : before.Synced) (listed : crd ∈ before.crds)
    (aside : Aside crd before middle)
    (agrees : (crd.withRules iRules eRules).Synced middle.neutron) :
    Turned crd before
      { middle with
        crds := middle.crds.map fun other =>
          if crd.sameResource other then other.withRules iRules eRules else other } := by
  have identified {other : Crd} (among : other ∈ before.crds)
      (same : crd.sameResource other) : crd = other :=
    List.inj_on_of_nodup_map distinct.resources listed among (sameResource_iff.mp same)
  rw [aside.crds]
  constructor
  · intro other member
    obtain ⟨previous, among, rfl⟩ := List.mem_map.mp member
    split
    · rename_i same
      rw [← identified among same]
      exact agrees
    · rename_i differs
      apply aside.others_synced distinct synced listed among
      rintro rfl
      exact differs (sameResource_iff.mpr rfl)
  · rw [List.map_map]
    apply List.map_congr_left
    intro other _
    dsimp only [Function.comp]
    split <;> rfl
  · rw [List.map_map]
    apply List.map_congr_left
    intro other _
    dsimp only [Function.comp]
    split <;> rfl
  · intro other among differs
    refine List.mem_map.mpr ⟨other, among, if_neg fun same => ?_⟩
    exact differs (identified among same).symm

/-- Without a patch the resources are the same. -/
theorem turned_of_unmatched {crd : Crd} {before after : World} (distinct : before.Distinct)
    (synced : before.Synced) (listed : crd ∈ before.crds) (aside : Aside crd before after)
    (agrees : crd.Synced after.neutron) : Turned crd before after := by
  constructor
  · intro other member
    rw [aside.crds] at member
    by_cases same : other = crd
    · rw [same]
      exact agrees
    · exact aside.others_synced distinct synced listed member same
  · rw [aside.crds]
  · rw [aside.crds]
  · intro other among _
    rw [aside.crds]
    exact among

/-- The turn for a resource whose rules are parsed so that they agree. -/
theorem updateCrd_turned {parse : Direction → Crd → DriverM (Bool × List CrdRule)} {crd : Crd}
    {before after : World} {selectors : List LabelSelector} (distinct : before.Distinct)
    (synced : before.Synced) (listed : crd ∈ before.crds) (parses : Parses parse crd before)
    (answers : snapshot.refusesPatch crd = none)
    (ran : exec (updateCrd snapshot parse crd) before = (.ok selectors, after)) :
    Turned crd before after := by
  rw [updateCrd] at ran
  obtain ⟨⟨iMatched, iRules⟩, middle, parsedIngress, continued⟩ := exec_bind_eq_ok ran
  obtain ⟨⟨eMatched, eRules⟩, last, parsedEgress, ended⟩ := exec_bind_eq_ok continued
  obtain ⟨aside, agrees⟩ := parses _ middle _ last parsedIngress parsedEgress
  dsimp only at ended
  by_cases matched : iMatched ∨ eMatched
  · rw [if_pos matched] at agrees
    rw [if_pos matched, patchKuryrnetworkpolicyCrd, answers] at ended
    cases ended
    exact turned_of_patch distinct synced listed aside agrees
  · rw [if_neg matched] at agrees
    rw [if_neg matched] at ended
    cases ended
    exact turned_of_unmatched distinct synced listed aside agrees

/-! ## All resources -/

/-- The loop over the resources keeps all of them in agreement. -/
theorem overCrds_synced {parse : Direction → Crd → DriverM (Bool × List CrdRule)}
    {crds : List Crd} {before after : World} {selectors : List LabelSelector}
    (distinct : before.Distinct) (synced : before.Synced) (unrepeated : crds.Nodup)
    (listed : ∀ crd ∈ crds, crd ∈ before.crds)
    (parses : ∀ crd ∈ crds, ∀ world : World, world.Synced → crd ∈ world.crds →
      Parses parse crd world)
    (answers : ∀ crd, snapshot.refusesPatch crd = none)
    (ran : exec (overCrds (updateCrd snapshot parse) crds) before = (.ok selectors, after)) :
    after.Distinct ∧ after.Synced := by
  induction crds generalizing before selectors with
  | nil =>
      cases ran
      exact ⟨distinct, synced⟩
  | cons crd rest ih =>
      rw [overCrds] at ran
      obtain ⟨first, middle, turn, continued⟩ := exec_bind_eq_ok ran
      obtain ⟨more, last, loop, ended⟩ := exec_bind_eq_ok continued
      cases ended
      have here := listed crd List.mem_cons_self
      have turned := updateCrd_turned distinct synced here
        (parses crd List.mem_cons_self before synced here) (answers crd) turn
      rw [List.nodup_cons] at unrepeated
      apply ih (distinct.turned turned) turned.synced unrepeated.2 _ _ loop
      · intro other member
        apply turned.others other (listed other (List.mem_cons_of_mem crd member))
        rintro rfl
        exact unrepeated.1 member
      · exact fun other member => parses other (List.mem_cons_of_mem crd member)

theorem overKnpCrds_synced {parse : Direction → Crd → DriverM (Bool × List CrdRule)}
    {before after : World} {selectors : List LabelSelector}
    (distinct : before.Distinct) (synced : before.Synced)
    (parses : ∀ crd ∈ before.crds, ∀ world : World, world.Synced → crd ∈ world.crds →
      Parses parse crd world)
    (answers : ∀ crd, snapshot.refusesPatch crd = none)
    (ran : exec (overKnpCrds (updateCrd snapshot parse)) before = (.ok selectors, after)) :
    after.Distinct ∧ after.Synced :=
  overCrds_synced distinct synced (List.Nodup.of_map _ distinct.resources) (fun _ => id) parses
    answers ran

/-! ## Parsing for creation and deletion -/

/-- What a parse for creation leaves. -/
theorem parseCrdRules_agrees {subject : Subject} {direction : Direction} {crd : Crd}
    {others : List Nat} {before after : World} {result : Bool × List CrdRule}
    (addressed : subject.Addressed)
    (agree : Agree before.neutron crd.securityGroupId others (crd.sgRules direction))
    (ran : exec (parseCrdRules snapshot subject direction crd) before = (.ok result, after)) :
    Aside crd before after ∧ Agree after.neutron crd.securityGroupId others result.2 ∧
      (result.1 = false → result.2 = crd.sgRules direction ∧ after.neutron = before.neutron) := by
  have parses : Agrees crd others false (parseRules snapshot direction crd subject) :=
    parseRules_agrees addressed
  obtain ⟨⟨stable, foreign⟩, ended⟩ :=
    parses { neutron := before.neutron, crdRules := crd.sgRules direction }
  rw [parseCrdRules, exec_get_bind, exec_set_bind] at ran
  split at ran
  · rename_i matched parsed
    cases ran
    refine ⟨⟨rfl, foreign⟩, stable agree, ?_⟩
    intro unmatched
    rcases ended matched parsed with found | ⟨_, unchanged⟩
    · exact absurd (found.symm.trans unmatched) Bool.true_eq_false.mp
    · dsimp only
      rw [unchanged]
      exact ⟨rfl, rfl⟩
  · cases ran

theorem Aside.trans {crd : Crd} {first second third : World} (head : Aside crd first second)
    (tail : Aside crd second third) : Aside crd first third := by
  constructor
  · exact tail.crds.trans head.crds
  · intro id rule foreign
    exact (tail.foreign id rule foreign).trans (head.foreign id rule foreign)

/-- Creation keeps a resource in agreement. -/
theorem parses_creation {subject : Subject} {crd : Crd} {before : World}
    (addressed : subject.Addressed) (synced : crd.Synced before.neutron) :
    Parses (parseCrdRules snapshot subject) crd before := by
  intro ingress middle egress after ranIngress ranEgress
  have agree : Agree before.neutron crd.securityGroupId (entryIds crd.egressSgRules)
      (crd.sgRules .ingress) := by
    intro id
    rw [← synced id, mem_entryIds_entries]
    rfl
  obtain ⟨asideIngress, agreeIngress, quietIngress⟩ :=
    parseCrdRules_agrees addressed agree ranIngress
  have swapped : Agree middle.neutron crd.securityGroupId (entryIds ingress.2)
      (crd.sgRules .egress) := by
    intro id
    rw [← agreeIngress id]
    exact or_comm
  obtain ⟨asideEgress, agreeEgress, quietEgress⟩ :=
    parseCrdRules_agrees addressed swapped ranEgress
  refine ⟨asideIngress.trans asideEgress, ?_⟩
  split
  · intro id
    rw [mem_entryIds_entries]
    exact or_comm.trans (agreeEgress id)
  · rename_i unmatched
    obtain ⟨noIngress, noEgress⟩ := not_or.mp unmatched
    rw [(quietEgress (Bool.eq_false_iff.mpr noEgress)).2,
      (quietIngress (Bool.eq_false_iff.mpr noIngress)).2]
    exact synced

/-- What the deletion of both directions leaves of a group. -/
theorem inGroup_of_left {fate : Fate} {crd : Crd} {before middle after : World}
    {ingress egress : Bool × List CrdRule}
    (leftIngress : fate.Left crd.ingressSgRules before ingress middle)
    (leftEgress : fate.Left crd.egressSgRules middle egress after) (id : Nat) (rule : SgRule) :
    after.neutron.get? id = some rule ↔
      before.neutron.get? id = some rule ∧ ∀ entry ∈ crd.entries, fate.gone entry → entry.id ≠ id := by
  rw [leftEgress.neutron, leftIngress.neutron, Crd.entries, List.forall_mem_append, and_assoc]

/-- A clean deletion keeps a resource in agreement. -/
theorem parses_deletion {fate : Fate} {turn : CrdRule → DriverM (Bool × List CrdRule)} {crd : Crd}
    {before : World} (describes : fate.Describes turn) (sound : fate.Sound)
    (synced : crd.Synced before.neutron) (clean : fate.Clean crd.entries) :
    Parses (fun direction crd => overCrdRules turn (crd.sgRules direction)) crd before := by
  intro ingress middle egress after ranIngress ranEgress
  have leftIngress : fate.Left crd.ingressSgRules before ingress middle :=
    describes.left ranIngress
  have leftEgress : fate.Left crd.egressSgRules middle egress after :=
    describes.left ranEgress
  have remains := inGroup_of_left leftIngress leftEgress
  have owned {entry : CrdRule} (listed : entry ∈ crd.entries) :
      InGroup before.neutron crd.securityGroupId entry.id :=
    (synced entry.id).mp (List.mem_map_of_mem listed)
  constructor
  · constructor
    · exact leftEgress.crds.trans leftIngress.crds
    · intro id rule foreign
      rw [remains]
      constructor
      · exact And.left
      · intro found
        refine ⟨found, ?_⟩
        rintro entry listed _ rfl
        obtain ⟨own, stored, group⟩ := owned listed
        rw [found] at stored
        cases stored
        exact foreign group
  · split
    · rename_i matched
      have found : ∃ entry ∈ crd.entries, fate.found entry := by
        rw [leftIngress.matched, leftEgress.matched, ← Bool.or_eq_true, ← List.any_append] at matched
        exact List.any_eq_true.mp matched
      have kept (id : Nat) : id ∈ entryIds (crd.withRules ingress.2 egress.2).entries ↔
          ∃ entry ∈ crd.entries, entry.id = id ∧ ¬fate.gone entry ∧ ¬fate.lost entry := by
        rw [mem_entryIds_entries, Crd.entries]
        simp only [List.mem_append, or_and_right, exists_or]
        exact or_congr (leftIngress.ids id) (leftEgress.ids id)
      intro id
      rw [kept]
      constructor
      · rintro ⟨entry, listed, rfl, stays, known⟩
        obtain ⟨rule, stored, group⟩ := owned listed
        refine ⟨rule, (remains _ _).mpr ⟨stored, ?_⟩, group⟩
        intro other among gone same
        rcases (clean found other among).1 gone entry listed same.symm with leaves | forgotten
        · exact stays leaves
        · exact known forgotten
      · rintro ⟨rule, stored, group⟩
        obtain ⟨before_, stays⟩ := (remains _ _).mp stored
        obtain ⟨entry, listed, rfl⟩ := List.mem_map.mp ((synced id).mpr ⟨rule, before_, group⟩)
        by_cases lost : fate.lost entry
        · obtain ⟨other, among, same, known⟩ := (clean found entry listed).2 lost
          exact ⟨other, among, same, fun gone => stays other among gone same, known⟩
        · exact ⟨entry, listed, rfl, fun gone => stays entry listed gone rfl, lost⟩
    · rename_i unmatched
      have nothing : ∀ entry ∈ crd.entries, ¬fate.gone entry := by
        intro entry listed gone
        apply unmatched
        rw [leftIngress.matched, leftEgress.matched, ← Bool.or_eq_true, ← List.any_append]
        exact List.any_eq_true.mpr ⟨entry, listed, sound entry gone⟩
      intro id
      rw [synced id]
      apply exists_congr
      intro rule
      rw [remains]
      constructor
      · rintro ⟨stored, group⟩
        exact ⟨⟨stored, fun entry listed gone => absurd gone (nothing entry listed)⟩, group⟩
      · rintro ⟨⟨stored, _⟩, group⟩
        exact ⟨stored, group⟩

end KuryrKubernetes.Policy
