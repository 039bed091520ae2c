import KuryrKubernetes.Namespaces.Emptied

/-!
# What the deletion of a namespace spares

Where nobody else changes Neutron, the attempts for a namespace take nothing but its
network, its subnets, the ports of its network that are DOWN or that pools hold, and the
subnets of its events off the router, however their calls end.
-/

namespace KuryrKubernetes.Namespaces.Deletion

open KuryrKubernetes.Data
open KuryrKubernetes.Effect
open KuryrKubernetes.Transition

/-- Nobody else does anything. -/
def World.Quiet (world : World) : Prop :=
  ∀ label neutron, (world.others label).move neutron = neutron

/-- What is not for the attempts to take is as it was. -/
structure World.Spares (netId : Nat) (subnetIds : List Nat) (before after : World) : Prop where
  ports : ∀ id port, before.neutron.ports.get? id = some port →
    (port.networkId = netId → port.isDown = false ∧ id ∉ before.pooled) →
    after.neutron.ports.get? id = some port
  networks : ∀ id, id ≠ netId → (id ∈ after.neutron.networks ↔ id ∈ before.neutron.networks)
  subnets : ∀ id network, network ≠ netId →
    (after.neutron.subnets.get? id = some network ↔ before.neutron.subnets.get? id = some network)
  attached : ∀ id, id ∉ subnetIds →
    (id ∈ after.neutron.attached ↔ id ∈ before.neutron.attached)
  pooled : after.pooled = before.pooled

namespace World.Spares

variable {netId : Nat} {subnetIds : List Nat} {first second third : World}

theorem refl (netId : Nat) (subnetIds : List Nat) (world : World) :
    world.Spares netId subnetIds world :=
  ⟨fun _ _ found _ => found, fun _ _ => Iff.rfl, fun _ _ _ => Iff.rfl, fun _ _ => Iff.rfl, rfl⟩

theorem trans (left : first.Spares netId subnetIds second)
    (right : second.Spares netId subnetIds third) : first.Spares netId subnetIds third := by
  constructor
  · intro id port found foreign
    apply right.ports id port (left.ports id port found foreign)
    rw [left.pooled]
    exact foreign
  · exact fun id other => (right.networks id other).trans (left.networks id other)
  · exact fun id network other => (right.subnets id network other).trans
      (left.subnets id network other)
  · exact fun id other => (right.attached id other).trans (left.attached id other)
  · exact right.pooled.trans left.pooled

end World.Spares

/-- Attempts spare what is not for them to take. -/
def sparing (netId : Nat) (subnetIds : List Nat) : Frame World where
  rel before after := before.Quiet → after.Quiet ∧ before.Spares netId subnetIds after
  refl world quiet := ⟨quiet, .refl netId subnetIds world⟩
  trans left right quiet :=
    ⟨(right (left quiet).1).1, (left quiet).2.trans (right (left quiet).1).2⟩

section

variable {netId : Nat} {subnetIds : List Nat}

/-- A call without others. -/
theorem spares_call {α : Type} {label : Call} {operation : WorldM α}
    (kept : (sparing netId subnetIds).Keeps operation) :
    (sparing netId subnetIds).Keeps (call label operation) := by
  apply Frame.Keeps.bind
  · apply Frame.keeps_modify
    intro world quiet
    have same : { world with neutron := (world.others label).move world.neutron } = world := by
      rw [quiet]
    rw [same]
    exact ⟨quiet, .refl netId subnetIds world⟩
  · exact fun _ => kept.serve

theorem spares_detach {subnetId : Nat} (shown : subnetId ∈ subnetIds) :
    (sparing netId subnetIds).Keeps (NamespacePodSubnetDriver.detach subnetId) := by
  apply Frame.Keeps.tryCatch
  · apply Frame.Keeps.bind
    · apply spares_call
      intro world
      rw [exec_get_bind]
      split
      · exact (sparing netId subnetIds).refl world
      · split
        · intro quiet
          refine ⟨quiet, fun _ _ found _ => found, fun _ _ => Iff.rfl, fun _ _ _ => Iff.rfl, ?_, rfl⟩
          intro id other
          have foreign : id ≠ subnetId := fun same => other (same ▸ shown)
          change id ∈ world.neutron.attached.filter (· ≠ subnetId) ↔ _
          simp [foreign]
        · exact (sparing netId subnetIds).refl world
    · intro answer
      cases answer with
      | none => exact Frame.keeps_pure _
      | some error => exact Frame.Keeps.ite (Frame.keeps_throw _) (Frame.keeps_throw _)
  · intro failure
    exact Frame.Keeps.ite (Frame.keeps_pure _) (Frame.keeps_throw _)

theorem spares_deleteNetwork : (sparing netId subnetIds).Keeps (NeutronClient.deleteNetwork netId) := by
  apply spares_call
  intro world
  rw [exec_get_bind]
  split
  · exact (sparing netId subnetIds).refl world
  · intro quiet
    refine ⟨quiet, fun _ _ found _ => found, ?_, ?_, fun _ _ => Iff.rfl, rfl⟩
    · intro id other
      simp [Neutron.withoutNetwork, other]
    · intro id network other
      simp [Neutron.withoutNetwork, Dict.get?_filter, other]

theorem spares_deleteNetworkPools : (sparing netId subnetIds).Keeps (deleteNetworkPools netId) := by
  apply spares_call
  apply Frame.keeps_modify
  intro world quiet
  refine ⟨quiet, ?_, fun _ _ => Iff.rfl, fun _ _ _ => Iff.rfl, fun _ _ => Iff.rfl, rfl⟩
  intro id port found foreign
  refine Dict.get?_filter.mpr ⟨found, decide_eq_true ?_⟩
  rintro ⟨held, onNetwork⟩
  exact (foreign onNetwork).2 held

end

/-! ## The leftover ports -/

/-- The ports that were listed are ports of the network that are DOWN, or gone. -/
structure World.Listed (netId : Nat) (subnetIds : List Nat) (before : World) (ids : List Nat)
    (world : World) : Prop where
  quiet : world.Quiet
  spares : before.Spares netId subnetIds world
  listed : ∀ id ∈ ids, ∀ port, world.neutron.ports.get? id = some port →
    port.networkId = netId ∧ port.isDown = true

section

variable {netId : Nat} {subnetIds ids : List Nat} {before world : World}

/-- A port that was listed goes, or comes off its trunk. -/
theorem World.Listed.with_ports (given : World.Listed netId subnetIds before ids world) {id : Nat}
    (member : id ∈ ids) {ports : Dict Nat Port}
    (others : ∀ other ≠ id, ports.get? other = world.neutron.ports.get? other)
    (own : ∀ after, ports.get? id = some after → ∃ port, world.neutron.ports.get? id = some port ∧
      after = { port with trunkId := none }) :
    World.Listed netId subnetIds before ids
      { world with neutron := world.neutron.withPorts ports } := by
  have spares : world.Spares netId subnetIds
      { world with neutron := world.neutron.withPorts ports } := by
    refine ⟨?_, fun _ _ => Iff.rfl, fun _ _ _ => Iff.rfl, fun _ _ => Iff.rfl, rfl⟩
    intro other port found foreign
    have different : other ≠ id := by
      rintro rfl
      obtain ⟨onNetwork, down⟩ := given.listed other member port found
      rw [(foreign onNetwork).1] at down
      cases down
    exact (others other different).trans found
  constructor
  · exact given.quiet
  · exact given.spares.trans spares
  · intro other listed after found
    by_cases same : other = id
    · subst same
      obtain ⟨port, there, rfl⟩ := own after found
      exact given.listed other member port there
    · exact given.listed other listed after ((others other same).symm.trans found)

/-- A call without others that keeps what was listed. -/
theorem leads_listed {α : Type} {label : Call} {operation : WorldM α}
    (leads : Leads (World.Listed netId subnetIds before ids) operation
      (fun _ => World.Listed netId subnetIds before ids)
      fun _ => World.Listed netId subnetIds before ids) :
    Leads (World.Listed netId subnetIds before ids) (call label operation)
      (fun _ => World.Listed netId subnetIds before ids)
      fun _ => World.Listed netId subnetIds before ids := by
  have still : Leads (World.Listed netId subnetIds before ids)
      (modify fun world : World =>
        { world with neutron := (world.others label).move world.neutron } : WorldM PUnit)
      (fun _ => World.Listed netId subnetIds before ids)
      fun _ => World.Listed netId subnetIds before ids := by
    intro world given
    have same : { world with neutron := (world.others label).move world.neutron } = world := by
      rw [given.quiet]
    rw [exec_modify, same]
    exact leads_pure (fun _ same => same) world given
  exact still.bind fun _ => leads_serve leads (fun _ _ given => given) fun _ _ _ given => given

theorem deletePort_listed (origin : Origin) {id : Nat} (member : id ∈ ids) :
    Leads (World.Listed netId subnetIds before ids) (NeutronClient.deletePort origin id)
      (fun _ => World.Listed netId subnetIds before ids)
      fun _ => World.Listed netId subnetIds before ids := by
  apply leads_listed
  intro world given
  rw [exec_get_bind]
  split
  · exact leads_throw (fun _ given => given) world given
  · have without : World.Listed netId subnetIds before ids
        { world with neutron := world.neutron.withPorts (world.neutron.ports.erase id) } := by
      apply given.with_ports member
      · intro other different
        simp [Dict.get?_erase, different]
      · intro after found
        simp at found
    constructor
    · intro _ after ran
      cases ran
      exact without
    · intro _ _ ran
      cases ran

theorem deleteTrunkSubports_listed (trunkId : List Char) {id : Nat} (member : id ∈ ids) :
    Leads (World.Listed netId subnetIds before ids) (NeutronClient.deleteTrunkSubports trunkId id)
      (fun _ => World.Listed netId subnetIds before ids)
      fun _ => World.Listed netId subnetIds before ids := by
  apply leads_listed
  intro world given
  rw [exec_get_bind]
  split
  · exact leads_throw (fun _ given => given) world given
  · rename_i port there
    split
    · have off : World.Listed netId subnetIds before ids
          { world with
            neutron := world.neutron.withPorts
              (world.neutron.ports.set id { port with trunkId := none }) } := by
        apply given.with_ports member
        · intro other different
          simp [Dict.get?_set, different]
        · intro after found
          rw [Dict.get?_set_self, Option.some.injEq] at found
          exact ⟨port, there, found.symm⟩
      constructor
      · intro _ after ran
        cases ran
        exact off
      · intro _ _ ran
        cases ran
    · exact leads_throw (fun _ given => given) world given

theorem deleteLeftoverPort_listed (origin : Origin) {id : Nat} (member : id ∈ ids) :
    Leads (World.Listed netId subnetIds before ids)
      (NamespacePodSubnetDriver.deleteLeftoverPort origin id)
      (fun _ => World.Listed netId subnetIds before ids)
      fun _ => World.Listed netId subnetIds before ids := by
  apply (deletePort_listed origin member).tryCatch
  intro failure
  split
  · split
    · unfold NamespacePodSubnetDriver.takeOffTrunk
      split
      · exact leads_throw fun _ given => given
      · apply (deleteTrunkSubports_listed _ member).tryCatch
        intro failure
        split
        · exact leads_pure fun _ given => given
        · exact leads_throw fun _ given => given
    · exact leads_pure fun _ given => given
  · exact leads_throw fun _ given => given

end

/-- Fewer ports may be listed. -/
theorem World.Listed.forget {netId : Nat} {subnetIds ids : List Nat} {before world : World}
    (given : World.Listed netId subnetIds before ids world) :
    World.Listed netId subnetIds before [] world :=
  ⟨given.quiet, given.spares, fun _ listed => absurd listed List.not_mem_nil⟩

/-- What is listed at first. -/
theorem downPorts_listed {before : World} (quiet : before.Quiet) (netId : Nat)
    (subnetIds : List Nat) :
    Leads (fun world => world = before) (NeutronClient.downPorts netId)
      (fun ids => World.Listed netId subnetIds before ids)
      fun _ => World.Listed netId subnetIds before [] := by
  have same (label : Call) :
      { before with neutron := (before.others label).move before.neutron } = before := by
    rw [quiet]
  have nothing : World.Listed netId subnetIds before [] before :=
    ⟨quiet, .refl netId subnetIds before, fun _ listed => absurd listed List.not_mem_nil⟩
  rintro world rfl
  rw [NeutronClient.downPorts, call, exec_modify_bind, same]
  have lists : Leads (fun other => other = world)
      (do
        let world ← get
        return (world.neutron.ports.items.filter fun item =>
          item.2.isDown ∧ item.2.networkId = netId).map Prod.fst)
      (fun ids => World.Listed netId subnetIds world ids)
      fun (_ : Failure) => World.Listed netId subnetIds world [] := by
    rintro _ rfl
    constructor
    · intro ids after ran
      cases ran
      refine ⟨quiet, nothing.spares, ?_⟩
      intro id listed port found
      obtain ⟨down, there, isDown, onNetwork⟩ := mem_downIds.mp listed
      rw [found] at there
      cases there
      exact ⟨onNetwork, isDown⟩
    · intro _ _ ran
      cases ran
  apply leads_serve lists _ _ world rfl
  · rintro _ _ rfl
    exact nothing
  · exact fun _ _ _ given => given.forget

theorem spares_deleteLeftoverPorts (origin : Origin) (netId : Nat) (subnetIds : List Nat) :
    (sparing netId subnetIds).Keeps
      (NamespacePodSubnetDriver.deleteLeftoverPorts origin netId) := by
  intro before quiet
  have deletes : Leads (fun world => world = before)
      (NamespacePodSubnetDriver.deleteLeftoverPorts origin netId)
      (fun _ => World.Listed netId subnetIds before [])
      fun _ => World.Listed netId subnetIds before [] := by
    apply (downPorts_listed quiet netId subnetIds).bind
    intro ids
    have loop : Leads (World.Listed netId subnetIds before ids)
        (ids.forM (NamespacePodSubnetDriver.deleteLeftoverPort origin))
        (fun _ => World.Listed netId subnetIds before ids)
        fun _ => World.Listed netId subnetIds before ids :=
      Leads.forM fun id member => deleteLeftoverPort_listed origin member
    apply loop.bind_of
    · exact fun _ _ given => given.forget
    · exact fun _ => leads_throw fun _ given => given.forget
  obtain ⟨returns, raises⟩ := deletes before rfl
  rcases ran : exec (NamespacePodSubnetDriver.deleteLeftoverPorts origin netId) before
    with ⟨outcome, after⟩
  have given : World.Listed netId subnetIds before [] after := by
    cases outcome with
    | ok value => exact returns value after ran
    | error failure => exact raises failure after ran
  exact ⟨given.quiet, given.spares⟩

/-! ## The attempts -/

/-- The event shows no other network and no other subnet. -/
def Attempt.Within (attempt : Attempt) (netId : Nat) (subnetIds : List Nat) : Prop :=
  ∀ status ∈ attempt.status, (∀ id ∈ status.netId, id = netId) ∧
    ∀ id ∈ status.subnetId, id ∈ subnetIds

instance (attempt : Attempt) (netId : Nat) (subnetIds : List Nat) :
    Decidable (attempt.Within netId subnetIds) :=
  inferInstanceAs (Decidable (∀ status ∈ attempt.status, (∀ id ∈ status.netId, id = netId) ∧
    ∀ id ∈ status.subnetId, id ∈ subnetIds))

section

variable {netId : Nat} {subnetIds : List Nat}

theorem spares_deleteNetworkOf (origin : Origin) {status : Status}
    (sameNetwork : ∀ id ∈ status.netId, id = netId)
    (sameSubnet : ∀ id ∈ status.subnetId, id ∈ subnetIds) :
    (sparing netId subnetIds).Keeps (deleteNetworkOf origin status) := by
  unfold deleteNetworkOf NamespacePodSubnetDriver.deleteNamespaceSubnet
  cases shown : status.netId with
  | none => exact Frame.keeps_pure _
  | some id =>
      obtain rfl := sameNetwork id shown
      apply spares_deleteNetworkPools.bind
      intro _
      have deletes : (sparing id subnetIds).Keeps
          (tryCatch (NeutronClient.deleteNetwork id) fun failure =>
            if failure.exception = .neutronConflict then
              NamespacePodSubnetDriver.deleteLeftoverPorts origin id
            else throw failure) := by
        apply spares_deleteNetwork.tryCatch
        intro failure
        exact Frame.Keeps.ite (spares_deleteLeftoverPorts origin id subnetIds)
          (Frame.keeps_throw _)
      unfold NamespacePodSubnetDriver.deleteNamespaceNetworkResources
      cases subnet : status.subnetId with
      | none => exact deletes
      | some subnetId => exact (spares_detach (sameSubnet subnetId subnet)).bind fun _ => deletes

theorem spares_onFinalize (origin : Origin) {attempt : Attempt}
    (within : attempt.Within netId subnetIds) :
    (sparing netId subnetIds).Keeps (onFinalize origin attempt.status) := by
  unfold onFinalize
  cases shown : attempt.status with
  | none => exact Frame.keeps_throw _
  | some status =>
      obtain ⟨sameNetwork, sameSubnet⟩ := within status shown
      apply (spares_deleteNetworkOf origin sameNetwork sameSubnet).bind
      intro _
      apply (spares_call (Frame.keeps_pure _)).bind
      intro _
      apply spares_call
      apply Frame.keeps_modify
      intro world quiet
      exact ⟨quiet, fun _ _ found _ => found, fun _ _ => Iff.rfl, fun _ _ _ => Iff.rfl,
        fun _ _ => Iff.rfl, rfl⟩

end

/-- A port of the network is in use. -/
def portInUse : World where
  neutron :=
    { networks := [1], ports := Dict.ofList [(3, ⟨1, false, none⟩), (4, ⟨1, true, none⟩)],
      issued := 5 }
  others _ := .none

end KuryrKubernetes.Namespaces.Deletion
