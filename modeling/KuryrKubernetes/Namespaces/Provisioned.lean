import KuryrKubernetes.Namespaces.Neutron
import KuryrKubernetes.Transition.Run

/-!
# One network for each namespace

A KuryrNetwork is handled any number of times, for events that show its status as it is or
as it was, and every handling may fail at any call.  The namespace has one network and one
subnet at most, and after a handling that came to its end these are in the status, as long as
a network or a subnet that is searched for bears the tags that are searched for.
-/

namespace KuryrKubernetes.Namespaces

open KuryrKubernetes.Data
open KuryrKubernetes.Effect
open KuryrKubernetes.Transition

/-! ## Resources with a name -/

section

variable {ρ : Type} {named : ρ → Prop} {dict : Dict Nat ρ} {id : Nat} {value : ρ}

/-- One resource at most is named so. -/
def Sole (named : ρ → Prop) (dict : Dict Nat ρ) : Prop :=
  ∀ id other value another, dict.get? id = some value → dict.get? other = some another →
    named value → named another → id = other

/-- The resource is there and is named so. -/
def Bears (named : ρ → Prop) (dict : Dict Nat ρ) (id : Nat) : Prop :=
  ∃ value, dict.get? id = some value ∧ named value

theorem Bears.set {other : Nat} (bears : Bears named dict id) (same : other = id → named value) :
    Bears named (dict.set other value) id := by
  rcases bears with ⟨old, found, isNamed⟩
  unfold Bears
  rw [Dict.get?_set]
  split
  · rename_i equal
    exact ⟨value, rfl, same equal.symm⟩
  · exact ⟨old, found, isNamed⟩

/-- A new one may be named so if none is. -/
theorem sole_set_of_free (free : ∀ id, ¬Bears named dict id) (other : Nat) (value : ρ) :
    Sole named (dict.set other value) := by
  have isNew (id : Nat) (stored : ρ) (found : (dict.set other value).get? id = some stored)
      (isNamed : named stored) : id = other := by
    rw [Dict.get?_set] at found
    split at found
    · assumption
    · exact absurd ⟨stored, found, isNamed⟩ (free id)
  intro first second stored another foundFirst foundSecond namedFirst namedSecond
  exact (isNew first stored foundFirst namedFirst).trans
    (isNew second another foundSecond namedSecond).symm

/-- The one that is named so may be written. -/
theorem Sole.set_of_bears (sole : Sole named dict) (bears : Bears named dict id) (value : ρ) :
    Sole named (dict.set id value) := by
  rcases bears with ⟨old, foundOld, namedOld⟩
  have isOld (other : Nat) (stored : ρ) (found : (dict.set id value).get? other = some stored)
      (isNamed : named stored) : other = id := by
    rw [Dict.get?_set] at found
    split at found
    · assumption
    · exact sole other id stored old found foundOld isNamed namedOld
  intro first second stored another foundFirst foundSecond namedFirst namedSecond
  exact (isOld first stored foundFirst namedFirst).trans
    (isOld second another foundSecond namedSecond).symm

end

/-! ## What holds at any time -/

namespace World

/-- The network is that of the namespace. -/
def IsNetwork (world : World) (nsName : String) (id : Nat) : Prop :=
  Bears (·.name = NamespacePodSubnetDriver.netName nsName) world.networks id

/-- The subnet is that of the namespace. -/
def IsSubnet (world : World) (nsName : String) (id : Nat) : Prop :=
  Bears (·.name = NamespacePodSubnetDriver.subnetName nsName) world.subnets id

end World

/-- What a status says is so. -/
structure Status.Holds (status : Status) (config : Config) (nsName : String) (world : World) :
    Prop where
  netId : ∀ id ∈ status.netId, world.IsNetwork nsName id
  subnetId : ∀ id ∈ status.subnetId, world.IsSubnet nsName id
  routerId : ∀ router ∈ status.routerId, router = config.podRouter

/-- What one status has is also in the other. -/
structure Status.Within (status later : Status) : Prop where
  netId : status.netId ≠ none → later.netId ≠ none
  subnetId : status.subnetId ≠ none → later.subnetId ≠ none
  routerId : status.routerId ≠ none → later.routerId ≠ none

/-- One network and one subnet at most are those of the namespace, and the statuses hold. -/
structure World.Sound (config : Config) (nsName : String) (world : World) : Prop where
  network : Sole (·.name = NamespacePodSubnetDriver.netName nsName) world.networks
  subnet : Sole (·.name = NamespacePodSubnetDriver.subnetName nsName) world.subnets
  holds : ∀ status ∈ world.statuses, status.Holds config nsName world
  within : ∀ status ∈ world.statuses, status.Within world.status
  noted : world.statuses ≠ []

section

variable {config : Config} {nsName : String} {world : World}

theorem Status.Within.refl (status : Status) : status.Within status :=
  ⟨id, id, id⟩

theorem Status.Within.trans {first second third : Status} (left : first.Within second)
    (right : second.Within third) : first.Within third :=
  ⟨right.netId ∘ left.netId, right.subnetId ∘ left.subnetId, right.routerId ∘ left.routerId⟩

theorem Status.within_patch (status : Status) (patch : StatusPatch) :
    status.Within (status.patch patch) := by
  cases patch with
  | netId =>
      constructor
      · rintro _ ⟨⟩
      · exact id
      · exact id
  | subnet =>
      constructor
      · exact id
      · rintro _ ⟨⟩
      · exact id
  | router =>
      constructor
      · exact id
      · exact id
      · rintro _ ⟨⟩
  | nsLabels => exact ⟨id, id, id⟩

/-- Statuses hold as long as the resources of the namespace stay. -/
theorem World.Sound.moved (sound : world.Sound config nsName) {after : World}
    (network : Sole (·.name = NamespacePodSubnetDriver.netName nsName) after.networks)
    (subnet : Sole (·.name = NamespacePodSubnetDriver.subnetName nsName) after.subnets)
    (networks : ∀ id, world.IsNetwork nsName id → after.IsNetwork nsName id)
    (subnets : ∀ id, world.IsSubnet nsName id → after.IsSubnet nsName id)
    (same : after.statuses = world.statuses) : after.Sound config nsName := by
  have current : after.status = world.status := by
    unfold World.status
    rw [same]
  constructor
  · exact network
  · exact subnet
  · intro status listed
    rw [same] at listed
    rcases sound.holds status listed with ⟨netId, subnetId, routerId⟩
    exact ⟨fun id given => networks id (netId id given),
      fun id given => subnets id (subnetId id given), routerId⟩
  · intro status listed
    rw [same] at listed
    rw [current]
    exact sound.within status listed
  · rw [same]
    exact sound.noted

theorem World.Sound.status_mem (sound : world.Sound config nsName) :
    world.status ∈ world.statuses := by
  unfold World.status
  cases statuses : world.statuses with
  | nil => exact absurd statuses sound.noted
  | cons status rest => exact List.mem_cons_self

/-- The status is patched with something that holds. -/
theorem World.Sound.patch (sound : world.Sound config nsName) (patch : StatusPatch)
    (holds : (world.status.patch patch).Holds config nsName world) :
    World.Sound config nsName
      { world with statuses := world.status.patch patch :: world.statuses } := by
  constructor
  · exact sound.network
  · exact sound.subnet
  · intro status listed
    rcases List.mem_cons.mp listed with rfl | old
    · exact ⟨holds.netId, holds.subnetId, holds.routerId⟩
    · have holdsOld := sound.holds status old
      exact ⟨holdsOld.netId, holdsOld.subnetId, holdsOld.routerId⟩
  · intro status listed
    change status.Within (world.status.patch patch)
    rcases List.mem_cons.mp listed with rfl | old
    · exact .refl _
    · exact (sound.within status old).trans (Status.within_patch _ _)
  · exact List.cons_ne_nil _ _

end

/-! ## The driver -/

namespace World

/-- A network of the namespace is found by the tags. -/
def NetworksFound (world : World) (config : Config) (nsName : String) : Prop :=
  ∀ id network, world.networks.get? id = some network →
    network.name = NamespacePodSubnetDriver.netName nsName →
    ∀ tag ∈ config.resourceTags, tag ∈ network.tags

/-- A subnet of the namespace is found by the tags. -/
def SubnetsFound (world : World) (config : Config) (nsName : String) : Prop :=
  ∀ id subnet, world.subnets.get? id = some subnet →
    subnet.name = NamespacePodSubnetDriver.subnetName nsName →
    ∀ tag ∈ config.resourceTags, tag ∈ subnet.tags

/-- The network of the namespace is there, and nothing but networks changed. -/
structure GotNetwork (config : Config) (nsName : String) (before : World) (id : Nat)
    (after : World) : Prop where
  sound : after.Sound config nsName
  isNetwork : after.IsNetwork nsName id
  subnets : after.subnets = before.subnets
  statuses : after.statuses = before.statuses
  endings : after.endings = before.endings

/-- The subnet of the namespace is there, and nothing but subnets changed. -/
structure GotSubnet (config : Config) (nsName : String) (before : World) (id : Nat)
    (after : World) : Prop where
  sound : after.Sound config nsName
  isSubnet : after.IsSubnet nsName id
  statuses : after.statuses = before.statuses
  endings : after.endings = before.endings

end World

section

variable {config : Config} {nsName : String} {before : World}

/-- Tags are set, or else this is not insisted on. -/
theorem tagNeutronResources_leads {setTags : List String → WorldM PUnit}
    {holds : World → Prop}
    (tags : Leads holds (setTags config.resourceTags) (fun _ => holds) fun _ => holds) :
    Leads holds (tagNeutronResources config setTags) (fun _ => holds) fun _ => holds := by
  unfold tagNeutronResources
  split
  · exact leads_pure fun _ given => given
  · apply tags.tryCatch
    intro exception
    split
    · exact leads_pure fun _ given => given
    · exact leads_throw fun _ given => given

theorem networks_leads (name : String) (tags : List String) (before : World) :
    Leads (fun world => world = before) (NeutronClient.networks name tags)
      (fun items after => after = before ∧ ∀ item, item ∈ items ↔
        before.networks.get? item.1 = some item.2 ∧ item.2.name = name ∧
          ∀ tag ∈ tags, tag ∈ item.2.tags)
      fun _ after => after = before := by
  apply leads_serve
  · rintro world rfl
    rw [exec_get_bind]
    apply leads_pure _ world rfl
    rintro _ rfl
    refine ⟨rfl, ?_⟩
    intro item
    rw [List.mem_filter, Dict.mem_items_iff, decide_eq_true_eq]
  · exact fun _ _ same => same
  · exact fun _ _ _ reached => reached.1

theorem subnets_leads (name : String) (tags : List String) (before : World) :
    Leads (fun world => world = before) (NeutronClient.subnets name tags)
      (fun items after => after = before ∧ ∀ item, item ∈ items ↔
        before.subnets.get? item.1 = some item.2 ∧ item.2.name = name ∧
          ∀ tag ∈ tags, tag ∈ item.2.tags)
      fun _ after => after = before := by
  apply leads_serve
  · rintro world rfl
    rw [exec_get_bind]
    apply leads_pure _ world rfl
    rintro _ rfl
    refine ⟨rfl, ?_⟩
    intro item
    rw [List.mem_filter, Dict.mem_items_iff, decide_eq_true_eq]
  · exact fun _ _ same => same
  · exact fun _ _ _ reached => reached.1

/-- A network may be created where the namespace has none. -/
theorem newNetwork_leads (sound : before.Sound config nsName)
    (free : ∀ id, ¬before.IsNetwork nsName id) (projectId : String) :
    Leads (fun world => world = before)
      (NeutronClient.createNetwork (NamespacePodSubnetDriver.netName nsName) projectId)
      (fun id after => World.GotNetwork config nsName before id after)
      fun _ after => after.Sound config nsName := by
  apply leads_serve
  · rintro world rfl
    have soundAfter : World.Sound config nsName { world with
        networks := world.networks.set world.networks.freshKey
          { name := NamespacePodSubnetDriver.netName nsName, projectId } } := by
      exact sound.moved (sole_set_of_free free _ _) sound.subnet
        (fun id isNetwork => absurd isNetwork (free id))
        (fun id isSubnet => isSubnet) rfl
    constructor
    · intro id after ran
      cases ran
      exact ⟨soundAfter, ⟨_, Dict.get?_set_self _ _ _, rfl⟩, rfl, rfl, rfl⟩
    · intro exception after ran
      cases ran
  · rintro _ _ rfl
    exact sound
  · exact fun _ _ _ got => got.sound

theorem tagNetwork_leads (id : Nat) (tags : List String) :
    Leads (World.GotNetwork config nsName before id) (NeutronClient.tagNetwork id tags)
      (fun _ => World.GotNetwork config nsName before id)
      fun _ => World.GotNetwork config nsName before id := by
  apply leads_serve
  · intro world got
    rw [exec_get_bind]
    rcases got.isNetwork with ⟨network, found, isNamed⟩
    rw [found]
    have isNetwork (other : Nat) (was : world.IsNetwork nsName other) :
        World.IsNetwork { world with networks := world.networks.set id { network with tags } }
          nsName other :=
      Bears.set was fun _ => isNamed
    constructor
    · intro _ after ran
      cases ran
      constructor
      · exact got.sound.moved (got.sound.network.set_of_bears got.isNetwork _) got.sound.subnet
          isNetwork (fun _ isSubnet => isSubnet) rfl
      · exact isNetwork id got.isNetwork
      · exact got.subnets
      · exact got.statuses
      · exact got.endings
    · intro exception after ran
      cases ran
  · exact fun _ _ got => got
  · exact fun _ _ _ got => got

/-- `create_network` returns the network of the namespace, if that is found. -/
theorem createNetwork_leads (sound : before.Sound config nsName)
    (found : before.NetworksFound config nsName) (projectId : String) :
    Leads (fun world => world = before)
      (NamespacePodSubnetDriver.createNetwork config nsName projectId)
      (fun id after => World.GotNetwork config nsName before id after)
      fun _ after => after.Sound config nsName := by
  unfold NamespacePodSubnetDriver.createNetwork
  apply (networks_leads _ _ before).bind_of
  · rintro _ _ rfl
    exact sound
  · intro items
    cases items with
    | cons entry rest =>
        apply leads_pure
        rintro world ⟨rfl, listed⟩
        rcases (listed entry).mp List.mem_cons_self with ⟨there, isNamed, _⟩
        exact ⟨sound, ⟨entry.2, there, isNamed⟩, rfl, rfl, rfl⟩
    | nil =>
        apply Leads.weaken _ fun _ reached => And.symm reached
        apply Leads.of_fact
        intro listed
        have free : ∀ id, ¬before.IsNetwork nsName id := by
          rintro id ⟨network, there, isNamed⟩
          have among := (listed (id, network)).mpr ⟨there, isNamed, found id network there isNamed⟩
          cases among
        apply (newNetwork_leads sound free projectId).bind
        intro id
        apply (tagNeutronResources_leads (tagNetwork_leads id config.resourceTags)).bind_of
        · exact fun _ _ got => got.sound
        · intro _
          exact leads_pure fun _ got => got

/-- A subnet may be created where the namespace has none. -/
theorem newSubnet_leads (sound : before.Sound config nsName)
    (free : ∀ id, ¬before.IsSubnet nsName id) (projectId : String) (netId : Nat) :
    Leads (fun world => world = before)
      (NamespacePodSubnetDriver.newSubnet config nsName projectId netId)
      (fun subnet after => World.GotSubnet config nsName before subnet.1 after)
      fun _ after => after.Sound config nsName := by
  have creates (cidr : String) : Leads (fun world => world = before)
      (NeutronClient.createSubnet (NamespacePodSubnetDriver.subnetName nsName) projectId cidr
        netId)
      (fun id after => World.GotSubnet config nsName before id after)
      fun _ after => after.Sound config nsName := by
    apply leads_serve
    · rintro world rfl
      have soundAfter : World.Sound config nsName { world with
          subnets := world.subnets.set world.subnets.freshKey
            { name := NamespacePodSubnetDriver.subnetName nsName, projectId, networkId := netId,
              cidr } } := by
        exact sound.moved sound.network (sole_set_of_free free _ _)
          (fun id isNetwork => isNetwork)
          (fun id isSubnet => absurd isSubnet (free id)) rfl
      rw [exec_get_bind]
      split
      · constructor
        · intro id after ran
          cases ran
          exact ⟨soundAfter, ⟨_, Dict.get?_set_self _ _ _, rfl⟩, rfl, rfl⟩
        · intro exception after ran
          cases ran
      · apply leads_throw _ world rfl
        rintro _ rfl
        exact sound
    · rintro _ _ rfl
      exact sound
    · exact fun _ _ _ got => got.sound
  unfold NamespacePodSubnetDriver.newSubnet
  rintro world rfl
  rw [exec_get_bind]
  have caught : Leads (fun state => state = world)
      (tryCatch (NeutronClient.createSubnet (NamespacePodSubnetDriver.subnetName nsName) projectId
        (config.cidrOf world.subnets.freshKey) netId) fun ex =>
          if ex = .neutronConflict then throw .resourceNotReady else throw ex)
      (fun id after => World.GotSubnet config nsName world id after)
      fun _ after => after.Sound config nsName := by
    apply (creates _).tryCatch
    intro exception
    split
    · exact leads_throw fun _ given => given
    · exact leads_throw fun _ given => given
  apply (caught.bind fun id => _) world rfl
  exact fun id => leads_pure fun _ got => got

theorem tagSubnet_leads (id : Nat) (tags : List String) :
    Leads (World.GotSubnet config nsName before id) (NeutronClient.tagSubnet id tags)
      (fun _ => World.GotSubnet config nsName before id)
      fun _ => World.GotSubnet config nsName before id := by
  apply leads_serve
  · intro world got
    rw [exec_get_bind]
    rcases got.isSubnet with ⟨subnet, found, isNamed⟩
    rw [found]
    have isSubnet (other : Nat) (was : world.IsSubnet nsName other) :
        World.IsSubnet { world with subnets := world.subnets.set id { subnet with tags } }
          nsName other :=
      Bears.set was fun _ => isNamed
    constructor
    · intro _ after ran
      cases ran
      constructor
      · exact got.sound.moved got.sound.network (got.sound.subnet.set_of_bears got.isSubnet _)
          (fun _ isNetwork => isNetwork) isSubnet rfl
      · exact isSubnet id got.isSubnet
      · exact got.statuses
      · exact got.endings
    · intro exception after ran
      cases ran
  · exact fun _ _ got => got
  · exact fun _ _ _ got => got

/-- `create_subnet` returns the subnet of the namespace, if that is found. -/
theorem createSubnet_leads (sound : before.Sound config nsName)
    (found : before.SubnetsFound config nsName) (projectId : String) (netId : Nat) :
    Leads (fun world => world = before)
      (NamespacePodSubnetDriver.createSubnet config nsName projectId netId)
      (fun subnet after => World.GotSubnet config nsName before subnet.1 after)
      fun _ after => after.Sound config nsName := by
  unfold NamespacePodSubnetDriver.createSubnet
  apply (subnets_leads _ _ before).bind_of
  · rintro _ _ rfl
    exact sound
  · intro items
    cases items with
    | cons entry rest =>
        apply leads_pure
        rintro world ⟨rfl, listed⟩
        rcases (listed entry).mp List.mem_cons_self with ⟨there, isNamed, _⟩
        exact ⟨sound, ⟨entry.2, there, isNamed⟩, rfl, rfl⟩
    | nil =>
        apply Leads.weaken _ fun _ reached => And.symm reached
        apply Leads.of_fact
        intro listed
        have free : ∀ id, ¬before.IsSubnet nsName id := by
          rintro id ⟨subnet, there, isNamed⟩
          have among := (listed (id, subnet)).mpr ⟨there, isNamed, found id subnet there isNamed⟩
          cases among
        have version : Leads (fun world => world = before)
            (serve World.endings Call.getSubnetpoolVersion (pure ⟨⟩))
            (fun (_ : PUnit) after => after = before)
            fun _ after => after.Sound config nsName := by
          apply leads_serve
          · exact leads_pure fun _ same => same
          · rintro _ _ rfl
            exact sound
          · rintro _ _ _ rfl
            exact sound
        apply version.bind
        intro _
        apply (newSubnet_leads sound free projectId netId).bind
        intro subnet
        apply (tagNeutronResources_leads (tagSubnet_leads subnet.1 config.resourceTags)).bind_of
        · exact fun _ _ got => got.sound
        · intro _
          exact leads_pure fun _ got => got

end

/-! ## The handler -/

/-- The API server answers that there is no KuryrNetwork only if there is none. -/
def Truthful (endings : Call → Ending PyException) : Prop :=
  ∀ field ∈ [StatusField.netId, .subnet, .router, .nsLabels],
    (endings (.patchStatus field)).exception? ≠ some .k8sResourceNotFound

instance (endings : Call → Ending PyException) : Decidable (Truthful endings) :=
  inferInstanceAs (Decidable (∀ field ∈ [StatusField.netId, .subnet, .router, .nsLabels],
    (endings (.patchStatus field)).exception? ≠ some .k8sResourceNotFound))

/-- What holds during a handling. -/
structure World.Underway (config : Config) (nsName : String) (before after : World) : Prop where
  sound : after.Sound config nsName
  grown : ∀ status ∈ before.statuses, status ∈ after.statuses
  endings : after.endings = before.endings

section

variable {config : Config} {nsName : String} {before : World}

/-- What was in the status stays in it. -/
theorem World.Underway.within {after : World} (underway : World.Underway config nsName before after)
    {status : Status} (listed : status ∈ before.statuses) : status.Within after.status :=
  underway.sound.within status (underway.grown status listed)

/-- A patch of the status that holds. -/
theorem patchKuryrnetworkCrd_leads (sound : before.Sound config nsName)
    (truthful : Truthful before.endings) {patch : StatusPatch}
    (holds : (before.status.patch patch).Holds config nsName before) :
    Leads (fun world => world = before)
      ((kuryrNetworkHandler config).patchKuryrnetworkCrd patch)
      (fun _ after => after =
        { before with statuses := before.status.patch patch :: before.statuses })
      fun _ after => after.Sound config nsName := by
  have soundAfter := sound.patch patch holds
  have patches : Leads (fun world => world = before)
      ((kuryrNetworkHandler config).patchStatus patch)
      (fun _ after => after =
        { before with statuses := before.status.patch patch :: before.statuses })
      fun exception after => after.Sound config nsName ∧ exception ≠ .k8sResourceNotFound := by
    rintro world rfl
    change (∀ value after, exec (serve World.endings (.patchStatus patch.field) _) world = _ → _) ∧
      ∀ exception after, exec (serve World.endings (.patchStatus patch.field) _) world = _ → _
    have honest := truthful patch.field (by cases patch.field <;> decide)
    cases ending : world.endings (.patchStatus patch.field) with
    | served =>
        rw [exec_serve_of_served ending]
        constructor
        · intro _ after ran
          cases ran
          rfl
        · intro _ after ran
          cases ran
    | refused exception =>
        rw [exec_serve_of_refused ending]
        rw [ending] at honest
        constructor
        · intro _ after ran
          cases ran
        · intro _ after ran
          cases ran
          exact ⟨sound, fun missing => honest (congrArg some missing)⟩
    | cut exception =>
        rw [ending] at honest
        have ran : exec (serve World.endings (.patchStatus patch.field)
            (modify fun world : World =>
              { world with statuses := world.status.patch patch :: world.statuses })) world =
            (.error exception,
              { world with statuses := world.status.patch patch :: world.statuses }) := by
          unfold serve
          rw [exec_get_bind, ending]
          rfl
        rw [ran]
        constructor
        · intro _ after ended
          cases ended
        · intro _ after ended
          cases ended
          exact ⟨soundAfter, fun missing => honest (congrArg some missing)⟩
  apply patches.tryCatch
  intro exception
  split
  · rename_i missing
    rintro world ⟨_, other⟩
    exact absurd missing other
  · exact leads_throw fun _ reached => reached.1

variable {crd : KuryrNetwork}

/-- After `ensureNetwork` the network is in the status. -/
theorem ensureNetwork_leads (sound : before.Sound config crd.nsName)
    (truthful : Truthful before.endings) (shown : crd.status ∈ before.statuses)
    (found : crd.status.netId = none → before.NetworksFound config crd.nsName) :
    Leads (fun world => world = before) ((kuryrNetworkHandler config).ensureNetwork crd)
      (fun network after => World.Underway config crd.nsName before after ∧
        network.2 = crd.status.netId.isNone ∧ after.subnets = before.subnets ∧
        after.status.netId ≠ none)
      fun _ after => after.Sound config crd.nsName := by
  unfold KuryrNetworkHandler.ensureNetwork
  split
  · rename_i netId given
    apply leads_pure
    rintro world rfl
    refine ⟨⟨sound, fun _ listed => listed, rfl⟩, ?_, rfl, ?_⟩
    · rw [given]
      rfl
    · apply (sound.within crd.status shown).netId
      rw [given]
      rintro ⟨⟩
  · rename_i missing
    apply (createNetwork_leads sound (found missing) crd.projectId).bind
    rintro netId world got
    rw [← got.endings] at truthful
    have holds : (world.status.patch (.netId netId)).Holds config crd.nsName world := by
      have current := got.sound.holds world.status got.sound.status_mem
      constructor
      · rintro _ ⟨⟩
        exact got.isNetwork
      · exact current.subnetId
      · exact current.routerId
    apply ((patchKuryrnetworkCrd_leads got.sound truthful holds).bind fun _ => _) world rfl
    intro _
    apply leads_pure
    rintro _ rfl
    refine ⟨⟨got.sound.patch _ holds, ?_, got.endings⟩, ?_, got.subnets, ?_⟩
    · intro status listed
      rw [← got.statuses] at listed
      exact List.mem_cons_of_mem _ listed
    · rw [missing]
      rfl
    · rintro ⟨⟩

/-- After `ensureSubnet` the subnet is in the status. -/
theorem ensureSubnet_leads (sound : before.Sound config crd.nsName)
    (truthful : Truthful before.endings) (shown : crd.status ∈ before.statuses)
    (netId : Nat) (crdCreation : Bool)
    (found : crdCreation = true ∨ crd.status.subnetId = none →
      before.SubnetsFound config crd.nsName) :
    Leads (fun world => world = before)
      ((kuryrNetworkHandler config).ensureSubnet crd netId crdCreation)
      (fun _ after => World.Underway config crd.nsName before after ∧
        after.status.subnetId ≠ none)
      fun _ after => after.Sound config crd.nsName := by
  have creates (sought : crdCreation = true ∨ crd.status.subnetId = none) :
      Leads (fun world => world = before)
        (do
          let subnet ← (kuryrNetworkHandler config).createSubnet crd.nsName crd.projectId netId
          (kuryrNetworkHandler config).patchKuryrnetworkCrd (.subnet subnet.1 subnet.2)
          return (subnet.1, true))
        (fun _ after => World.Underway config crd.nsName before after ∧
          after.status.subnetId ≠ none)
        fun _ after => after.Sound config crd.nsName := by
    apply (createSubnet_leads sound (found sought) crd.projectId netId).bind
    rintro subnet world got
    rw [← got.endings] at truthful
    have holds : (world.status.patch (.subnet subnet.1 subnet.2)).Holds config crd.nsName
        world := by
      have current := got.sound.holds world.status got.sound.status_mem
      constructor
      · exact current.netId
      · rintro _ ⟨⟩
        exact got.isSubnet
      · exact current.routerId
    apply ((patchKuryrnetworkCrd_leads got.sound truthful holds).bind fun _ => _) world rfl
    intro _
    apply leads_pure
    rintro _ rfl
    refine ⟨⟨got.sound.patch _ holds, ?_, got.endings⟩, ?_⟩
    · intro status listed
      rw [← got.statuses] at listed
      exact List.mem_cons_of_mem _ listed
    · rintro ⟨⟩
  unfold KuryrNetworkHandler.ensureSubnet
  cases given : crd.status.subnetId with
  | none => exact creates (.inr given)
  | some subnetId =>
      cases crdCreation with
      | true => exact creates (.inl rfl)
      | false =>
          apply leads_pure
          rintro world rfl
          refine ⟨⟨sound, fun _ listed => listed, rfl⟩, ?_⟩
          apply (sound.within crd.status shown).subnetId
          rw [given]
          rintro ⟨⟩

/-- `add_subnet_to_router` returns the router, and changes nothing but what is attached. -/
theorem addSubnetToRouter_leads (sound : before.Sound config nsName) (subnetId : Nat) :
    Leads (fun world => world = before)
      (NamespacePodSubnetDriver.addSubnetToRouter config subnetId)
      (fun router after => router = config.podRouter ∧ ∃ attached, after = { before with attached })
      fun _ after => after.Sound config nsName := by
  have moved (attached : List Nat) : World.Sound config nsName { before with attached } := by
    exact sound.moved sound.network sound.subnet
      (fun _ isNetwork => isNetwork)
      (fun _ isSubnet => isSubnet) rfl
  have added : Leads (fun world => world = before) (NeutronClient.addInterfaceToRouter subnetId)
      (fun _ after => ∃ attached, after = { before with attached })
      fun _ after => ∃ attached, after = { before with attached } := by
    apply leads_serve
    · rintro world rfl
      rw [exec_get_bind]
      split
      · apply leads_throw _ world rfl
        rintro _ rfl
        exact ⟨_, rfl⟩
      · constructor
        · intro _ after ran
          cases ran
          exact ⟨_, rfl⟩
        · intro _ after ran
          cases ran
    · rintro _ _ rfl
      exact ⟨_, rfl⟩
    · exact fun _ _ _ reached => reached
  unfold NamespacePodSubnetDriver.addSubnetToRouter
  have accepted : Leads (fun world => world = before)
      (tryCatch (NeutronClient.addInterfaceToRouter subnetId) fun ex =>
        if ex = .neutronBadRequest then pure ⟨⟩ else throw ex)
      (fun _ after => ∃ attached, after = { before with attached })
      fun _ after => after.Sound config nsName := by
    apply added.tryCatch
    intro exception
    split
    · exact leads_pure fun _ reached => reached
    · apply leads_throw
      rintro _ ⟨attached, rfl⟩
      exact moved attached
  apply accepted.bind
  intro _
  exact leads_pure fun _ reached => ⟨rfl, reached⟩

/-- After `ensureRouter` the router is in the status. -/
theorem ensureRouter_leads (sound : before.Sound config crd.nsName)
    (truthful : Truthful before.endings) (shown : crd.status ∈ before.statuses)
    (subnetId : Nat) (crdCreation : Bool) :
    Leads (fun world => world = before)
      ((kuryrNetworkHandler config).ensureRouter crd subnetId crdCreation)
      (fun _ after => World.Underway config crd.nsName before after ∧
        after.status.routerId ≠ none)
      fun _ after => after.Sound config crd.nsName := by
  unfold KuryrNetworkHandler.ensureRouter
  split
  · rename_i routerId given
    apply leads_pure
    rintro world rfl
    refine ⟨⟨sound, fun _ listed => listed, rfl⟩, ?_⟩
    apply (sound.within crd.status shown).routerId
    rw [given]
    rintro ⟨⟩
  · apply (addSubnetToRouter_leads sound subnetId).bind
    rintro router world ⟨rfl, attached, rfl⟩
    have soundThen : World.Sound config crd.nsName { before with attached } := by
      exact sound.moved sound.network sound.subnet
        (fun _ isNetwork => isNetwork)
        (fun _ isSubnet => isSubnet) rfl
    have holds : (before.status.patch (.router config.podRouter)).Holds config crd.nsName
        { before with attached } := by
      have current := sound.holds before.status sound.status_mem
      constructor
      · exact current.netId
      · exact current.subnetId
      · rintro _ ⟨⟩
        rfl
    apply ((patchKuryrnetworkCrd_leads soundThen truthful holds).bind fun _ => _) _ rfl
    intro _
    apply leads_pure
    rintro _ rfl
    refine ⟨⟨soundThen.patch _ holds, ?_, rfl⟩, ?_⟩
    · exact fun status listed => List.mem_cons_of_mem _ listed
    · rintro ⟨⟩

theorem syncLabels_leads (sound : before.Sound config crd.nsName)
    (truthful : Truthful before.endings) (crdCreation : Bool) :
    Leads (fun world => world = before)
      ((kuryrNetworkHandler config).syncLabels crd crdCreation)
      (fun _ after => World.Underway config crd.nsName before after)
      fun _ after => after.Sound config crd.nsName := by
  unfold KuryrNetworkHandler.syncLabels
  split
  · have updated : Leads (fun world => world = before)
        ((kuryrNetworkHandler config).updateSgRules crd.nsName) (fun _ after => after = before)
        fun _ after => after.Sound config crd.nsName := by
      apply leads_serve
      · exact leads_pure fun _ same => same
      · rintro _ _ rfl
        exact sound
      · rintro _ _ _ rfl
        exact sound
    apply updated.bind
    intro _
    have holds : (before.status.patch (.nsLabels crd.nsLabels)).Holds config crd.nsName before := by
      have current := sound.holds before.status sound.status_mem
      exact ⟨current.netId, current.subnetId, current.routerId⟩
    apply (patchKuryrnetworkCrd_leads sound truthful holds).mono
    · rintro _ _ rfl
      exact ⟨sound.patch _ holds, fun status listed => List.mem_cons_of_mem _ listed, rfl⟩
    · exact fun _ _ reached => reached
  · apply leads_pure
    rintro _ rfl
    exact ⟨sound, fun _ listed => listed, rfl⟩

/-- The namespace has its network and its subnet, and these and the router are in the status. -/
structure World.Provided (config : Config) (nsName : String) (world : World) : Prop where
  network : ∃ netId, world.status.netId = some netId ∧
    ∀ id, world.IsNetwork nsName id ↔ id = netId
  subnet : ∃ subnetId, world.status.subnetId = some subnetId ∧
    ∀ id, world.IsSubnet nsName id ↔ id = subnetId
  router : world.status.routerId = some config.podRouter

/-- A status with all parts says what the namespace has. -/
theorem World.Sound.provided (sound : before.Sound config nsName)
    (netId : before.status.netId ≠ none) (subnetId : before.status.subnetId ≠ none)
    (routerId : before.status.routerId ≠ none) : before.Provided config nsName := by
  have holds := sound.holds before.status sound.status_mem
  constructor
  · rcases Option.ne_none_iff_exists'.mp netId with ⟨id, given⟩
    have isNetwork := holds.netId id given
    refine ⟨id, given, ?_⟩
    intro other
    constructor
    · rintro ⟨network, found, isNamed⟩
      rcases isNetwork with ⟨known, foundKnown, namedKnown⟩
      exact sound.network other id network known found foundKnown isNamed namedKnown
    · rintro rfl
      exact isNetwork
  · rcases Option.ne_none_iff_exists'.mp subnetId with ⟨id, given⟩
    have isSubnet := holds.subnetId id given
    refine ⟨id, given, ?_⟩
    intro other
    constructor
    · rintro ⟨subnet, found, isNamed⟩
      rcases isSubnet with ⟨known, foundKnown, namedKnown⟩
      exact sound.subnet other id subnet known found foundKnown isNamed namedKnown
    · rintro rfl
      exact isSubnet
  · rcases Option.ne_none_iff_exists'.mp routerId with ⟨router, given⟩
    rw [given, holds.routerId router given]

/-- A handling that comes to its end leaves the namespace provided for. -/
theorem onPresent_leads (sound : before.Sound config crd.nsName)
    (truthful : Truthful before.endings) (shown : crd.status ∈ before.statuses)
    (networks : crd.status.netId = none → before.NetworksFound config crd.nsName)
    (subnets : crd.status.netId = none ∨ crd.status.subnetId = none →
      before.SubnetsFound config crd.nsName) :
    Leads (fun world => world = before) ((kuryrNetworkHandler config).onPresent crd)
      (fun _ after => after.Sound config crd.nsName ∧ after.Provided config crd.nsName)
      fun _ after => after.Sound config crd.nsName := by
  unfold KuryrNetworkHandler.onPresent
  apply (ensureNetwork_leads sound truthful shown networks).bind
  rintro network first ⟨underway, creation, sameSubnets, netId⟩
  have shownFirst := underway.grown _ shown
  have found : network.2 = true ∨ crd.status.subnetId = none →
      first.SubnetsFound config crd.nsName := by
    intro sought
    unfold World.SubnetsFound
    rw [sameSubnets]
    apply subnets
    apply sought.imp_left
    intro isNew
    rw [creation] at isNew
    exact Option.isNone_iff_eq_none.mp isNew
  rw [← underway.endings] at truthful
  apply ((ensureSubnet_leads underway.sound truthful shownFirst network.1 network.2 found).bind
    fun subnet => _) first rfl
  rintro subnet second ⟨underwaySecond, subnetId⟩
  have shownSecond := underwaySecond.grown _ shownFirst
  have netIdSecond := (underwaySecond.within underway.sound.status_mem).netId netId
  rw [← underwaySecond.endings] at truthful
  apply ((ensureRouter_leads underwaySecond.sound truthful shownSecond subnet.1 subnet.2).bind
    fun crdCreation => _) second rfl
  rintro crdCreation third ⟨underwayThird, routerId⟩
  have grownThird := underwayThird.within underwaySecond.sound.status_mem
  rw [← underwayThird.endings] at truthful
  apply (syncLabels_leads underwayThird.sound truthful crdCreation).mono _ _ third rfl
  · intro _ after last
    have grown := last.within underwayThird.sound.status_mem
    exact ⟨last.sound, last.sound.provided (grown.netId (grownThird.netId netIdSecond))
      (grown.subnetId (grownThird.subnetId subnetId)) (grown.routerId routerId)⟩
  · exact fun _ _ reached => reached

end

/-! ## Runs -/

/-- The world, and whether the last handling came to its end. -/
structure Provision where
  world : World
  returned : Bool := false

/-- A handling: the KuryrNetwork of the event, and how calls end. -/
structure Handling where
  event : KuryrNetwork
  endings : Call → Ending PyException := fun _ => .served

/-- A KuryrNetwork is handled for an event that shows one of its statuses. -/
def provisionStep (config : Config) (nsName : String) : Step Provision Handling :=
  fun provision handling =>
    if handling.event.nsName = nsName ∧ handling.event.status ∈ provision.world.statuses ∧
        Truthful handling.endings then
      let ran := exec ((kuryrNetworkHandler config).onPresent handling.event)
        { provision.world with endings := handling.endings }
      some { world := ran.2, returned := ran.1.isOk }
    else
      none

/-- What is searched for bears the tags that it is searched with. -/
def Tagged (config : Config) (nsName : String) (provision : Provision) (handling : Handling) :
    Prop :=
  (handling.event.status.netId = none → provision.world.NetworksFound config nsName) ∧
    (handling.event.status.netId = none ∨ handling.event.status.subnetId = none →
      provision.world.SubnetsFound config nsName)

/-- The namespace has nothing yet. -/
structure Provision.Initial (nsName : String) (provision : Provision) : Prop where
  network : ∀ id, ¬provision.world.IsNetwork nsName id
  subnet : ∀ id, ¬provision.world.IsSubnet nsName id
  status : provision.world.statuses = [{}]
  returned : provision.returned = false

/-- What holds between handlings. -/
def Provision.Sound (config : Config) (nsName : String) (provision : Provision) : Prop :=
  provision.world.Sound config nsName ∧
    (provision.returned → provision.world.Provided config nsName)

section

variable {config : Config} {nsName : String}

theorem Provision.Initial.sound {provision : Provision} (initial : provision.Initial nsName) :
    provision.Sound config nsName := by
  have current : provision.world.status = {} := by
    unfold World.status
    rw [initial.status]
    rfl
  constructor
  · constructor
    · exact fun id _ value _ found _ isNamed _ => absurd ⟨value, found, isNamed⟩ (initial.network id)
    · exact fun id _ value _ found _ isNamed _ => absurd ⟨value, found, isNamed⟩ (initial.subnet id)
    · intro status listed
      rw [initial.status] at listed
      rw [List.mem_singleton.mp listed]
      constructor
      · rintro _ ⟨⟩
      · rintro _ ⟨⟩
      · rintro _ ⟨⟩
    · intro status listed
      rw [initial.status] at listed
      rw [List.mem_singleton.mp listed, current]
      exact .refl _
    · rw [initial.status]
      exact List.cons_ne_nil _ _
  · rw [initial.returned]
    rintro ⟨⟩

theorem provision_preserved :
    PreservedBy (provisionStep config nsName) (Tagged config nsName)
      (Provision.Sound config nsName) := by
  rintro provision handling after ⟨networks, subnets⟩ ⟨sound, _⟩ taken
  unfold provisionStep at taken
  rw [Option.ite_none_right_eq_some] at taken
  rcases taken with ⟨⟨rfl, shown, truthful⟩, same⟩
  have soundThen : World.Sound config handling.event.nsName
      { provision.world with endings := handling.endings } := by
    exact sound.moved sound.network sound.subnet
      (fun _ isNetwork => isNetwork)
      (fun _ isSubnet => isSubnet) rfl
  have leads := onPresent_leads soundThen truthful shown networks subnets _ rfl
  rcases ran : exec ((kuryrNetworkHandler config).onPresent handling.event)
    { provision.world with endings := handling.endings } with ⟨outcome, world⟩
  rw [ran] at same
  cases same
  cases outcome with
  | ok value =>
      rcases leads.1 value world ran with ⟨soundAfter, provided⟩
      exact ⟨soundAfter, fun _ => provided⟩
  | error exception =>
      refine ⟨leads.2 exception world ran, ?_⟩
      rintro ⟨⟩

/-- In every run of handlings that find what they search for, the namespace has one network
and one subnet at most, and once a handling has come to its end it has both, and these and
the router are in the status. -/
theorem one_network_one_subnet {start final : Provision} {handlings : List Handling}
    (initial : start.Initial nsName)
    (guarded : GuardedRun (provisionStep config nsName) (Tagged config nsName) start handlings
      final) :
    (∀ id other, final.world.IsNetwork nsName id → final.world.IsNetwork nsName other →
      id = other) ∧
    (∀ id other, final.world.IsSubnet nsName id → final.world.IsSubnet nsName other →
      id = other) ∧
    (final.returned → final.world.Provided config nsName) := by
  rcases guarded.invariant provision_preserved initial.sound with ⟨sound, provided⟩
  refine ⟨?_, ?_, provided⟩
  · rintro id other ⟨value, found, isNamed⟩ ⟨another, foundOther, namedOther⟩
    exact sound.network id other value another found foundOther isNamed namedOther
  · rintro id other ⟨value, found, isNamed⟩ ⟨another, foundOther, namedOther⟩
    exact sound.subnet id other value another found foundOther isNamed namedOther

end

/-! ## A namespace that is handled twice -/

namespace Tagging

def config : Config where
  resourceTags := ["kuryr"]
  podRouter := "router"
  cidrOf id := "10.0." ++ toString id ++ ".0/24"

/-- The KuryrNetwork as it was created. -/
def created : KuryrNetwork where
  nsName := "web"
  projectId := "kuryr"
  nsLabels := ∅

/-- A call that is refused, where the others are served. -/
def refusing (call : Call) (exception : PyException) : Handling where
  event := created
  endings other := if other = call then .refused exception else .served

def start : Provision where
  world := {}

/-- A handling fails at the subnet, and the event is handled again. -/
def retried : List Handling :=
  [refusing .createSubnet .sdkException, { event := created }]

/-- The network is not tagged, and the same event is handled again. -/
def untagged : List Handling :=
  [refusing .tagNetwork .sdkException, { event := created }]

theorem start_initial : start.Initial "web" := by
  constructor
  · rintro id ⟨_, ⟨⟩, _⟩
  · rintro id ⟨_, ⟨⟩, _⟩
  · rfl
  · rfl

/-- Every network and every subnet is tagged. -/
def allTagged (provision : Provision) : Bool :=
  (provision.world.networks.items.all fun item => "kuryr" ∈ item.2.tags) &&
    provision.world.subnets.items.all fun item => "kuryr" ∈ item.2.tags

theorem tagged_of_allTagged {provision : Provision} (all : allTagged provision)
    (handling : Handling) : Tagged config "web" provision handling := by
  rcases (Bool.and_eq_true _ _).mp all with ⟨networks, subnets⟩
  constructor
  · intro _ id network found _ tag listed
    rw [List.mem_singleton.mp listed]
    exact of_decide_eq_true
      (List.all_eq_true.mp networks (id, network) (Dict.mem_items_iff.mpr found))
  · intro _ id subnet found _ tag listed
    rw [List.mem_singleton.mp listed]
    exact of_decide_eq_true
      (List.all_eq_true.mp subnets (id, subnet) (Dict.mem_items_iff.mpr found))

end Tagging

/-- A namespace whose handling failed at the subnet is provided for by the next one. -/
theorem one_network_one_subnet_retried : ∃ final,
    GuardedRun (provisionStep Tagging.config "web") (Tagged Tagging.config "web")
      Tagging.start Tagging.retried final ∧
    final.returned ∧ final.world.Provided Tagging.config "web" := by
  have ends : (runIf (provisionStep Tagging.config "web")
      (fun provision _ => Tagging.allTagged provision) Tagging.retried Tagging.start).any
        (fun final => final.returned) = true := by
    decide +kernel
  rcases ran : runIf (provisionStep Tagging.config "web")
    (fun provision _ => Tagging.allTagged provision) Tagging.retried Tagging.start with _ | final
  · rw [ran] at ends
    cases ends
  · rw [ran] at ends
    have guarded : GuardedRun (provisionStep Tagging.config "web") (Tagged Tagging.config "web")
        Tagging.start Tagging.retried final :=
      (guardedRun_of_runIf ran).mono fun _ handling all =>
        Tagging.tagged_of_allTagged all handling
    exact ⟨final, guarded, ends,
      (one_network_one_subnet Tagging.start_initial guarded).2.2 ends⟩

/-- A network that could not be tagged is not found again, and the namespace gets a second
one. -/
theorem two_networks : ∃ final,
    run (provisionStep Tagging.config "web") Tagging.untagged Tagging.start = some final ∧
    final.returned ∧ final.world.IsNetwork "web" 1 ∧ final.world.IsNetwork "web" 2 := by
  have ends : (run (provisionStep Tagging.config "web") Tagging.untagged Tagging.start).any
      (fun final => final.returned ∧
        (final.world.networks.get? 1).map (·.name) =
          some (NamespacePodSubnetDriver.netName "web") ∧
        (final.world.networks.get? 2).map (·.name) =
          some (NamespacePodSubnetDriver.netName "web")) = true := by
    decide +kernel
  rcases ran : run (provisionStep Tagging.config "web") Tagging.untagged Tagging.start
    with _ | final
  · rw [ran] at ends
    cases ends
  · rw [ran] at ends
    rcases of_decide_eq_true ends with ⟨returned, first, second⟩
    exact ⟨final, rfl, returned, Option.map_eq_some_iff.mp first,
      Option.map_eq_some_iff.mp second⟩

end KuryrKubernetes.Namespaces
