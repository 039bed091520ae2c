import KuryrKubernetes.Namespaces.Deletion

/-!
# Namespaces that are gone

However calls end and whatever others do in between, a KuryrNetwork whose events show its
network loses its finalizer after the network only.
-/

namespace KuryrKubernetes.Namespaces.Deletion

open KuryrKubernetes.Data
open KuryrKubernetes.Effect
open KuryrKubernetes.Transition

/-! ## The trunk in an error -/

theorem ne_of_isUuidChar {char : Char} (isChar : isUuidChar char) :
    char ≠ 't' ∧ char ≠ '.' ∧ char.isWhitespace = false := by
  refine ⟨?_, ?_, ?_⟩
  · rintro rfl
    exact absurd isChar (by decide)
  · rintro rfl
    exact absurd isChar (by decide)
  · rw [Bool.eq_false_iff]
    intro space
    simp only [Char.isWhitespace, Bool.or_eq_true, decide_eq_true_eq] at space
    rcases space with ((rfl | rfl) | rfl) | rfl
    all_goals exact absurd isChar (by decide)

theorem strip_space_cons {text : List Char}
    (solid : ∀ char ∈ text, char.isWhitespace = false) : strip (' ' :: text) = text := by
  have left : (' ' :: text).dropWhile Char.isWhitespace = text := by
    cases text with
    | nil => rfl
    | cons char rest =>
        have isSolid := solid char List.mem_cons_self
        rw [List.dropWhile_cons_of_pos (by decide), List.dropWhile_cons_of_neg (by simp [isSolid])]
  rw [strip, left, List.rdropWhile_eq_self_iff]
  intro some_
  simp [solid _ (List.getLast_mem some_)]

/-- What stands before the trunk in the text of an error. -/
def beforeTrunk (origin : List Char) (id : Nat) : List Char :=
  origin ++ 'P' :: ("ort ".toList ++ Nat.toDigits 10 id ++ " is currently a subport for".toList)

theorem subportText_eq (origin : List Char) (id : Nat) (trunkId : TrunkId) :
    subportText origin id trunkId =
      (beforeTrunk origin id ++ [' ']) ++ ("trunk".toList ++ (' ' :: trunkId.text ++ ['.'])) := by
  have port : "Port ".toList = 'P' :: "ort ".toList := by decide
  have note : " is currently a subport for trunk ".toList =
      " is currently a subport for".toList ++ ' ' :: ("trunk".toList ++ [' ']) := by
    decide
  rw [subportText, beforeTrunk, port, note]
  simp only [List.append_assoc, List.cons_append, List.nil_append]

theorem not_infix_beforeTrunk (origin : Origin) (id : Nat) :
    ¬"trunk".toList <:+: beforeTrunk origin.text id := by
  apply not_infix_append_cons (by decide) origin.other
  intro stands
  have listed := stands.subset (show 'k' ∈ "trunk".toList by decide)
  rcases List.mem_append.mp listed with head | tail
  · rcases List.mem_append.mp head with word | digits
    · exact absurd word (by decide)
    · have isDigit := Nat.isDigit_of_mem_toDigits (by omega) (by omega) digits
      exact absurd isDigit (by decide)
  · exact absurd tail (by decide)

/-- The driver finds the trunk that Neutron names. -/
theorem trunkIdIn_subportText (origin : Origin) (id : Nat) (trunkId : TrunkId) :
    trunkIdIn (subportText origin.text id trunkId) = some trunkId.text := by
  have chars (char : Char) (listed : char ∈ trunkId.text) :=
    ne_of_isUuidChar (trunkId.hex char listed)
  have noPoint : '.' ∉ ' ' :: trunkId.text := by
    rw [List.mem_cons]
    rintro (space | listed)
    · exact absurd space (by decide)
    · exact (chars '.' listed).2.1 rfl
  have noT : 't' ∉ ' ' :: trunkId.text ++ ['.'] := by
    simp only [List.mem_append, List.mem_cons, List.not_mem_nil]
    rintro ((space | listed) | point | none_)
    · exact absurd space (by decide)
    · exact (chars 't' listed).1 rfl
    · exact absurd point (by decide)
    · exact none_
  have second : (splitText "trunk".toList (subportText origin.text id trunkId))[1]? =
      some (' ' :: trunkId.text ++ ['.']) := by
    rw [subportText_eq, splitText, splitFrom_append
      (free_of_absent (by decide) (not_infix_beforeTrunk origin id)),
      splitFrom_separator (by decide), List.getElem?_cons_succ]
    have last : splitFrom "trunk".toList 0 [] (' ' :: trunkId.text ++ ['.']) =
        [' ' :: trunkId.text ++ ['.']] :=
      splitText_eq_singleton noT
    rw [last]
    rfl
  rw [trunkIdIn, second, Option.map_some, List.splitOn_append_cons_self_of_not_mem noPoint]
  rw [List.headD_cons, strip_space_cons fun char listed => (chars char listed).2.2]

/-! ## What Neutron keeps -/

namespace Neutron

theorem Evolves.refl (neutron : Neutron) : neutron.Evolves neutron :=
  ⟨id, le_refl _, fun _ => .inl⟩

theorem Evolves.trans {first second third : Neutron} (left : first.Evolves second)
    (right : second.Evolves third) : first.Evolves third := by
  constructor
  · exact right.sound ∘ left.sound
  · exact left.issued.trans right.issued
  · intro netId there
    rcases right.networks netId there with old | new
    · exact left.networks netId old
    · exact .inr (left.issued.trans new)

variable {neutron : Neutron}

/-- Ports may go and change, but not to another network. -/
theorem evolves_ports {ports : Dict Nat Port}
    (old : ∀ id port, ports.get? id = some port →
      ∃ before, neutron.ports.get? id = some before ∧ port.networkId = before.networkId) :
    neutron.Evolves (neutron.withPorts ports) := by
  constructor
  · intro sound
    constructor
    · intro id port found
      obtain ⟨before, there, same⟩ := old id port found
      rw [same]
      exact sound.ports id before there
    · exact sound.subnets
    · exact sound.attached
    · exact sound.issued
  · exact le_refl _
  · exact fun _ => .inl

theorem evolves_detach (subnetId : Nat) :
    neutron.Evolves (neutron.detached subnetId) := by
  constructor
  · intro sound
    constructor
    · exact sound.ports
    · exact sound.subnets
    · intro id attached
      exact sound.attached id (List.mem_of_mem_filter attached)
    · exact sound.issued
  · exact le_refl _
  · exact fun _ => .inl

theorem evolves_withoutNetwork {netId : Nat} (unused : ¬neutron.InUse netId) :
    neutron.Evolves (neutron.withoutNetwork netId) := by
  constructor
  · intro sound
    constructor
    · intro id port found
      have other : port.networkId ≠ netId := by
        intro same
        exact unused (.inl ⟨(id, port), Dict.mem_items_iff.mpr found, same⟩)
      simpa [withoutNetwork, other] using sound.ports id port found
    · intro id network found
      obtain ⟨there, other⟩ := Dict.get?_filter.mp found
      simpa [withoutNetwork, of_decide_eq_true other] using sound.subnets id network there
    · intro id attached
      obtain ⟨network, there⟩ := Dict.mem_iff_exists_get?.mp (sound.attached id attached)
      apply Dict.mem_iff_exists_get?.mpr
      refine ⟨network, Dict.get?_filter.mpr ⟨there, decide_eq_true ?_⟩⟩
      rintro rfl
      exact unused (.inr ⟨id, attached, there⟩)
    · intro network there
      exact sound.issued network (List.mem_of_mem_filter there)
  · exact le_refl _
  · exact fun _ there => .inl (List.mem_of_mem_filter there)

end Neutron

/-! ## An attempt, however it ends -/

/-- Neutron evolves, and the finalizer stays. -/
def evolving : Frame World where
  rel before after :=
    before.neutron.Evolves after.neutron ∧ after.finalizer = before.finalizer
  refl _ := ⟨.refl _, rfl⟩
  trans first second := ⟨first.1.trans second.1, second.2.trans first.2⟩

theorem keeps_call {α : Type} {label : Call} {operation : WorldM α}
    (kept : evolving.Keeps operation) : evolving.Keeps (call label operation) := by
  apply Frame.Keeps.bind
  · apply Frame.keeps_modify
    exact fun world => ⟨(world.others label).evolves world.neutron, rfl⟩
  · exact fun _ => kept.serve

theorem removeInterfaceFromRouter_keeps (subnetId : Nat) :
    evolving.Keeps (NeutronClient.removeInterfaceFromRouter subnetId) := by
  apply keeps_call
  intro world
  rw [exec_get_bind]
  split
  · exact evolving.refl world
  · split
    · exact ⟨Neutron.evolves_detach subnetId, rfl⟩
    · exact evolving.refl world

theorem deleteNetwork_keeps (netId : Nat) :
    evolving.Keeps (NeutronClient.deleteNetwork netId) := by
  apply keeps_call
  intro world
  rw [exec_get_bind]
  split
  · exact evolving.refl world
  · rename_i unused
    exact ⟨Neutron.evolves_withoutNetwork unused, rfl⟩

theorem downPorts_keeps (netId : Nat) : evolving.Keeps (NeutronClient.downPorts netId) :=
  keeps_call fun world => evolving.refl world

theorem deletePort_keeps (origin : Origin) (id : Nat) :
    evolving.Keeps (NeutronClient.deletePort origin id) := by
  apply keeps_call
  intro world
  rw [exec_get_bind]
  split
  · exact evolving.refl world
  · refine ⟨Neutron.evolves_ports fun other port found => ?_, rfl⟩
    rw [Dict.get?_erase] at found
    split at found
    · cases found
    · exact ⟨port, found, rfl⟩

theorem deleteTrunkSubports_keeps (trunkId : List Char) (id : Nat) :
    evolving.Keeps (NeutronClient.deleteTrunkSubports trunkId id) := by
  apply keeps_call
  intro world
  rw [exec_get_bind]
  split
  · exact evolving.refl world
  · rename_i port there
    split
    · refine ⟨Neutron.evolves_ports fun other changed found => ?_, rfl⟩
      rw [Dict.get?_set] at found
      split at found
      · rename_i same
        cases found
        subst same
        exact ⟨port, there, rfl⟩
      · exact ⟨changed, found, rfl⟩
    · exact evolving.refl world

theorem deleteNetworkPools_keeps (netId : Nat) : evolving.Keeps (deleteNetworkPools netId) := by
  apply keeps_call
  apply Frame.keeps_modify
  intro world
  refine ⟨Neutron.evolves_ports fun id port found => ?_, rfl⟩
  exact ⟨port, (Dict.get?_filter.mp found).1, rfl⟩

theorem deleteNamespaceSgRules_keeps : evolving.Keeps deleteNamespaceSgRules :=
  keeps_call (Frame.keeps_pure _)

namespace NamespacePodSubnetDriver

theorem detach_keeps (subnetId : Nat) : evolving.Keeps (detach subnetId) := by
  apply Frame.Keeps.tryCatch
  · apply (removeInterfaceFromRouter_keeps subnetId).bind
    intro answer
    cases answer with
    | none => exact Frame.keeps_pure _
    | some error => exact Frame.Keeps.ite (Frame.keeps_throw _) (Frame.keeps_throw _)
  · intro failure
    exact Frame.Keeps.ite (Frame.keeps_pure _) (Frame.keeps_throw _)

theorem takeOffTrunk_keeps (id : Nat) (text : List Char) :
    evolving.Keeps (takeOffTrunk id text) := by
  unfold takeOffTrunk
  split
  · exact Frame.keeps_throw _
  · apply (deleteTrunkSubports_keeps _ id).tryCatch
    intro failure
    exact Frame.Keeps.ite (Frame.keeps_pure _) (Frame.keeps_throw _)

variable (origin : Origin)

theorem deleteLeftoverPort_keeps (id : Nat) :
    evolving.Keeps (deleteLeftoverPort origin id) := by
  apply (deletePort_keeps origin id).tryCatch
  intro failure
  apply Frame.Keeps.ite
  · exact Frame.Keeps.ite (takeOffTrunk_keeps id failure.text) (Frame.keeps_pure _)
  · exact Frame.keeps_throw _

theorem leftoverPorts_keeps (leftoverPorts : List Nat) :
    evolving.Keeps (leftoverPorts.forM (deleteLeftoverPort origin)) :=
  Frame.Keeps.forM fun id _ => deleteLeftoverPort_keeps origin id

end NamespacePodSubnetDriver

/-! ## Gone with its network -/

/-- A KuryrNetwork has lost its finalizer only if its network is gone. -/
structure World.LastToGo (netId : Nat) (world : World) : Prop where
  sound : world.neutron.Sound
  issued : netId < world.neutron.issued
  gone : world.finalizer = false → netId ∉ world.neutron.networks

/-- Also its network is gone. -/
def World.Gone (netId : Nat) (world : World) : Prop :=
  world.LastToGo netId ∧ netId ∉ world.neutron.networks

section

variable {netId : Nat} {before after : World}

theorem World.LastToGo.of_evolving (last : before.LastToGo netId)
    (kept : evolving.rel before after) : after.LastToGo netId := by
  obtain ⟨evolves, same⟩ := kept
  constructor
  · exact evolves.sound last.sound
  · exact last.issued.trans_le evolves.issued
  · intro off there
    rw [same] at off
    rcases evolves.networks netId there with old | new
    · exact last.gone off old
    · exact absurd last.issued (by omega)

/-- A network that is gone stays so. -/
theorem World.Gone.of_evolving (gone : before.Gone netId) (kept : evolving.rel before after) :
    after.Gone netId := by
  obtain ⟨last, missing⟩ := gone
  constructor
  · exact last.of_evolving kept
  · intro there
    rcases kept.1.networks netId there with old | new
    · exact missing old
    · exact absurd last.issued (by omega)

/-- Nothing is on a network that is gone. -/
theorem Neutron.Sound.nothing_on {neutron : Neutron} (sound : neutron.Sound)
    (missing : netId ∉ neutron.networks) :
    (∀ id port, neutron.ports.get? id = some port → port.networkId ≠ netId) ∧
      ∀ id network, neutron.subnets.get? id = some network → network ≠ netId := by
  constructor
  · rintro id port found rfl
    exact missing (sound.ports id port found)
  · rintro id network found rfl
    exact missing (sound.subnets id network found)

end

/-- A program in which Neutron evolves. -/
theorem keeps_leads {α : Type} {program : WorldM α} {holds : World → Prop}
    (kept : evolving.Keeps program)
    (stable : ∀ before after, evolving.rel before after → holds before → holds after) :
    Leads holds program (fun _ => holds) fun _ => holds := by
  have ensured : evolving.Ensures program fun _ => True := kept.ensures fun _ => trivial
  apply ensured.leads
  · exact fun _ before after given moved _ => stable before after moved given
  · exact fun _ before after given moved => stable before after moved given

/-- A call, where others keep what holds before it. -/
theorem leads_call {α : Type} {label : Call} {operation : WorldM α} {holds : World → Prop}
    {post : α → World → Prop} {escape : Failure → World → Prop}
    (stable : ∀ before after, evolving.rel before after → holds before → holds after)
    (leads : Leads holds operation post escape)
    (refused : ∀ failure world, holds world → escape failure world)
    (cut : ∀ value failure world, post value world → escape failure world) :
    Leads holds (call label operation) post escape := by
  have moves : Leads holds
      (modify fun world : World =>
        { world with neutron := (world.others label).move world.neutron } : WorldM PUnit)
      (fun _ => holds) fun _ => holds := by
    apply keeps_leads (Frame.keeps_modify _) stable
    exact fun world => ⟨(world.others label).evolves world.neutron, rfl⟩
  apply moves.bind_of refused
  exact fun _ => leads_serve leads refused cut

section

variable (origin : Origin) (netId : Nat)

theorem deleteNetwork_leads :
    Leads (World.LastToGo netId) (NeutronClient.deleteNetwork netId)
      (fun _ => World.Gone netId) fun _ => World.LastToGo netId := by
  apply leads_call fun _ _ kept last => last.of_evolving kept
  · intro world last
    rw [exec_get_bind]
    split
    · exact leads_throw (fun _ given => given) world last
    · rename_i unused
      constructor
      · intro _ after ran
        cases ran
        refine ⟨last.of_evolving ⟨Neutron.evolves_withoutNetwork unused, rfl⟩, ?_⟩
        simp [Neutron.withoutNetwork]
      · intro _ _ ran
        cases ran
  · exact fun _ _ last => last
  · exact fun _ _ _ gone => gone.1

/-- The network is gone where the driver returns. -/
theorem deleteNamespaceSubnet_leads {status : Status} (shown : status.netId = some netId) :
    Leads (World.LastToGo netId)
      (NamespacePodSubnetDriver.deleteNamespaceSubnet origin status)
      (fun _ => World.Gone netId) fun _ => World.LastToGo netId := by
  unfold NamespacePodSubnetDriver.deleteNamespaceSubnet
  rw [shown]
  have stable (before after : World) (kept : evolving.rel before after)
      (last : before.LastToGo netId) : after.LastToGo netId :=
    last.of_evolving kept
  have deletes : Leads (World.LastToGo netId)
      (tryCatch (NeutronClient.deleteNetwork netId) fun failure =>
        if failure.exception = .neutronConflict then
          NamespacePodSubnetDriver.deleteLeftoverPorts origin netId
        else throw failure)
      (fun _ => World.Gone netId) fun _ => World.LastToGo netId := by
    apply (deleteNetwork_leads netId).tryCatch
    intro failure
    split
    · -- whatever becomes of the ports, this attempt is over
      apply (keeps_leads (downPorts_keeps netId) stable).bind
      intro leftoverPorts
      apply (keeps_leads (NamespacePodSubnetDriver.leftoverPorts_keeps origin leftoverPorts)
        stable).bind
      exact fun _ => leads_throw fun _ last => last
    · exact leads_throw fun _ last => last
  unfold NamespacePodSubnetDriver.deleteNamespaceNetworkResources
  cases status.subnetId with
  | none => exact deletes
  | some subnetId =>
      apply (keeps_leads (NamespacePodSubnetDriver.detach_keeps subnetId) stable).bind
      exact fun _ => deletes

/-- The finalizer is taken off. -/
theorem removeFinalizer_leads :
    Leads (World.Gone netId) removeFinalizer
      (fun _ => World.LastToGo netId) fun _ => World.LastToGo netId := by
  apply leads_call fun _ _ kept gone => gone.of_evolving kept
  · rintro world ⟨last, missing⟩
    constructor
    · intro _ after ran
      cases ran
      exact ⟨last.sound, last.issued, fun _ => missing⟩
    · intro _ _ ran
      cases ran
  · exact fun _ _ gone => gone.1
  · exact fun _ _ _ last => last

/-- `on_finalize` takes the finalizer off where the network is gone. -/
theorem onFinalize_leads {status : Option Status}
    (shown : ∀ shownStatus ∈ status, shownStatus.netId = some netId) :
    Leads (World.LastToGo netId) (onFinalize origin status)
      (fun _ => World.LastToGo netId) fun _ => World.LastToGo netId := by
  cases status with
  | none => exact leads_throw fun _ last => last
  | some status =>
      have stable (before after : World) (kept : evolving.rel before after)
          (last : before.LastToGo netId) : after.LastToGo netId :=
        last.of_evolving kept
      have stays (before after : World) (kept : evolving.rel before after)
          (gone : before.Gone netId) : after.Gone netId :=
        gone.of_evolving kept
      have deletes : Leads (World.LastToGo netId) (deleteNetworkOf origin status)
          (fun _ => World.Gone netId) fun _ => World.LastToGo netId := by
        unfold deleteNetworkOf
        rw [shown status rfl]
        apply (keeps_leads (deleteNetworkPools_keeps netId) stable).bind
        exact fun _ => deleteNamespaceSubnet_leads origin netId (shown status rfl)
      apply deletes.bind
      intro _
      apply (keeps_leads deleteNamespaceSgRules_keeps stays).bind_of
      · exact fun _ _ gone => gone.1
      · exact fun _ => removeFinalizer_leads netId

end

/-- An attempt for the namespace. -/
theorem lastToGo_step (origin : Origin) (netId : Nat) :
    PreservedBy (step origin) (fun _ attempt => attempt.Shows netId) (World.LastToGo netId) := by
  rintro source attempt target shown last taken
  cases taken
  have start : (source.found attempt).LastToGo netId := ⟨last.sound, last.issued, last.gone⟩
  obtain ⟨returns, raises⟩ := onFinalize_leads origin netId shown _ start
  rcases ran : exec (onFinalize origin attempt.status) (source.found attempt) with ⟨outcome, after⟩
  cases outcome with
  | ok value => exact returns value after ran
  | error failure => exact raises failure after ran

/-- However often the handler tries, however its calls end and whatever others do in Neutron
in between: a KuryrNetwork loses its finalizer only after its network, and then nothing is
left on the network. -/
theorem finalizer_goes_last {origin : Origin} {netId : Nat} {start last : World}
    {attempts : List Attempt} (sound : start.neutron.Sound)
    (issued : netId < start.neutron.issued) (finalizer : start.finalizer = true)
    (guarded : GuardedRun (step origin) (fun _ attempt => attempt.Shows netId) start attempts last)
    (off : last.finalizer = false) :
    netId ∉ last.neutron.networks ∧
      (∀ id port, last.neutron.ports.get? id = some port → port.networkId ≠ netId) ∧
      ∀ id network, last.neutron.subnets.get? id = some network → network ≠ netId := by
  have initial : start.LastToGo netId := by
    refine ⟨sound, issued, fun gone => ?_⟩
    rw [finalizer] at gone
    cases gone
  have final := guarded.invariant (lastToGo_step origin netId) initial
  exact ⟨final.gone off, final.sound.nothing_on (final.gone off)⟩

/-- An event that shows network 1 and subnet 2. -/
def servedAttempt : Attempt where
  status := some { netId := some 1, subnetId := some 2 }
  endings _ := .served
  others _ := .none

/-- The connection breaks when Neutron has deleted the network. -/
def cutAttempt : Attempt :=
  { servedAttempt with
    endings := fun label =>
      if label = .deleteNetwork then .cut { exception := .sdkException } else .served }

/-- A network with a subnet on the router. -/
def attachedSubnet : World where
  neutron := { networks := [1], subnets := Dict.ofList [(2, 1)], attached := [2], issued := 3 }
  others _ := .none

theorem finalizer_goes_last_cut : ∃ last,
    GuardedRun (step .none) (fun _ attempt => attempt.Shows 1) attachedSubnet
      [cutAttempt, servedAttempt] last ∧ 1 ∉ last.neutron.networks := by
  have sound : attachedSubnet.neutron.Sound := by
    constructor
    · intro id port found
      cases found
    · intro id network found
      have listed := Dict.mem_of_get?_ofList found
      simp at listed
      simp [attachedSubnet, listed]
    · decide
    · decide
  obtain ⟨last, guarded, off⟩ : ∃ last,
      GuardedRun (step .none) (fun _ attempt => attempt.Shows 1) attachedSubnet
        [cutAttempt, servedAttempt] last ∧ last.finalizer = false :=
    ⟨_, guardedRun_of_runIf rfl, rfl⟩
  exact ⟨last, guarded, (finalizer_goes_last sound (by decide) rfl guarded off).1⟩

end KuryrKubernetes.Namespaces.Deletion
