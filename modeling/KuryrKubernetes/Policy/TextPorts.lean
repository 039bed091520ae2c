import KuryrKubernetes.Policy.Elements

/-!
# Named ports

One table of port numbers and pods grows over the peers of a block, while the rules of each
peer are made from what the table holds by then.  A peer is paired with the numbers that
its own pods expose, and with those that pods of the peers before it expose.
-/

namespace KuryrKubernetes.Policy

open KuryrKubernetes.Data
open KuryrKubernetes.Effect

/-- Named ports of blocks of addresses are not supported for `egress`. -/
def Resource.hasPods : Resource → Bool
  | .cidr _ => false
  | _ => true

namespace Translation

variable (translation : Translation)

/-! ## The table -/

/-- A turn enters a number into the table. -/
def Notes (turn : Resource × List (Pod × PortNumber)) (number : Nat) : Prop :=
  ∃ entry ∈ turn.2, translation.skips entry.1 = false ∧ entry.2.val = number

/-- The table has pods under a number. -/
def Noted (matchedPods : PodsOfPorts) (number : Nat) : Prop :=
  (matchedPods.getD number ∅).items ≠ []

variable {translation}

theorem noted_alter (matchedPods : PodsOfPorts) (number other : Nat) (podIp : Option String)
    (namespaceName : String) :
    Noted (matchedPods.alter number ∅ (·.set podIp namespaceName)) other ↔
      Noted matchedPods other ∨ number = other := by
  unfold Noted Dict.alter
  by_cases same : number = other
  · subst same
    have filled : ((matchedPods.getD number ∅).set podIp namespaceName).items ≠ [] := by
      intro empty
      have member : podIp ∈ (matchedPods.getD number ∅).set podIp namespaceName :=
        Dict.mem_set.mpr (.inl rfl)
      rcases Dict.mem_iff_exists_get?.mp member with ⟨pod, found⟩
      rw [← Dict.mem_items_iff, empty] at found
      cases found
    rw [Dict.getD_of_get?_eq_some _ (Dict.get?_set_self _ _ _)]
    simp [filled]
  · have elsewhere : (matchedPods.set number
        ((matchedPods.getD number ∅).set podIp namespaceName)).getD other ∅ =
          matchedPods.getD other ∅ := by
      rw [Dict.getD, Dict.get?_set_of_ne _ _ (Ne.symm same)]
      rfl
    rw [elsewhere]
    simp [same]

theorem mem_alter (matchedPods : PodsOfPorts) (number other : Nat) (podIp : Option String)
    (namespaceName : String) :
    other ∈ matchedPods.alter number ∅ (·.set podIp namespaceName) ↔
      other ∈ matchedPods ∨ number = other := by
  unfold Dict.alter
  rw [Dict.mem_set, or_comm, eq_comm]

theorem noted_notePods_iff (turn : Resource × List (Pod × PortNumber))
    (matchedPods : PodsOfPorts) (number : Nat) :
    Noted (translation.notePods turn.2 matchedPods) number ↔
      Noted matchedPods number ∨ translation.Notes turn number :=
  notePods_iff (Noted · number) (· = number)
    (fun pods other => noted_alter pods other number) turn.2 matchedPods

theorem mem_keys_notePods_iff (turn : Resource × List (Pod × PortNumber))
    (matchedPods : PodsOfPorts) (number : Nat) :
    number ∈ (translation.notePods turn.2 matchedPods).keys ↔
      number ∈ matchedPods.keys ∨ translation.Notes turn number := by
  rw [Dict.mem_keys_iff, Dict.mem_keys_iff]
  exact notePods_iff (number ∈ ·) (· = number)
    (fun pods other => mem_alter pods other number) turn.2 matchedPods

theorem noted_notedPods_iff (turns : List (Resource × List (Pod × PortNumber)))
    (matchedPods : PodsOfPorts) (number : Nat) :
    Noted (translation.notedPods turns matchedPods) number ↔
      Noted matchedPods number ∨ ∃ turn ∈ turns, translation.Notes turn number :=
  notedPods_iff (Noted · number) (· = number)
    (fun pods other => noted_alter pods other number) turns matchedPods

theorem mem_keys_notedPods_iff (turns : List (Resource × List (Pod × PortNumber)))
    (matchedPods : PodsOfPorts) (number : Nat) :
    number ∈ (translation.notedPods turns matchedPods).keys ↔
      number ∈ matchedPods.keys ∨ ∃ turn ∈ turns, translation.Notes turn number := by
  rw [Dict.mem_keys_iff, Dict.mem_keys_iff]
  exact notedPods_iff (number ∈ ·) (· = number)
    (fun pods other => mem_alter pods other number) turns matchedPods

/-! ## What a turn finds in the table -/

variable (translation)

/-- A turn finds a number: it was in the table, the turn enters it itself, or a turn before
it did. -/
def Finds (turns : List (Resource × List (Pod × PortNumber))) (matchedPods : PodsOfPorts)
    (turn : Resource × List (Pod × PortNumber)) (number : Nat) : Prop :=
  (turn ∈ turns ∧ (number ∈ matchedPods.keys ∨ translation.Notes turn number)) ∨
    ∃ earlier, [earlier, turn].Sublist turns ∧ translation.Notes earlier number

variable {translation}

theorem finds_cons_iff (first turn : Resource × List (Pod × PortNumber))
    (rest : List (Resource × List (Pod × PortNumber))) (matchedPods : PodsOfPorts)
    (number : Nat) :
    translation.Finds (first :: rest) matchedPods turn number ↔
      (turn = first ∧ number ∈ (translation.notePods first.2 matchedPods).keys) ∨
        translation.Finds rest (translation.notePods first.2 matchedPods) turn number := by
  unfold Finds
  rw [mem_keys_notePods_iff]
  constructor
  · rintro (⟨listed, known⟩ | ⟨earlier, before, notes⟩)
    · rcases List.mem_cons.mp listed with rfl | later
      · exact .inl ⟨rfl, known⟩
      · rcases known with old | own
        · exact .inr (.inl ⟨later, .inl (.inl old)⟩)
        · exact .inr (.inl ⟨later, .inr own⟩)
    · rcases List.sublist_cons_iff.mp before with later | ⟨remaining, same, tail⟩
      · exact .inr (.inr ⟨earlier, later, notes⟩)
      · rcases List.cons.inj same with ⟨rfl, rfl⟩
        exact .inr (.inl ⟨List.singleton_sublist.mp tail, .inl (.inr notes)⟩)
  · rintro (⟨rfl, known⟩ | ⟨later, (old | first_) | own⟩ | ⟨earlier, before, notes⟩)
    · exact .inl ⟨List.mem_cons_self, known⟩
    · exact .inl ⟨List.mem_cons_of_mem _ later, .inl old⟩
    · exact .inr ⟨first, List.Sublist.cons_cons _ (List.singleton_sublist.mpr later), first_⟩
    · exact .inl ⟨List.mem_cons_of_mem _ later, .inr own⟩
    · exact .inr ⟨earlier, before.cons _, notes⟩

/-- What is made in the turns is made for the numbers that they find. -/
theorem mem_inTurns_iff {γ : Type} {made : Resource → Nat → Set γ}
    {turns : List (Resource × List (Pod × PortNumber))} {matchedPods : PodsOfPorts} {item : γ} :
    item ∈ translation.inTurns made turns matchedPods ↔
      ∃ turn number, translation.Finds turns matchedPods turn number ∧
        item ∈ made turn.1 number := by
  induction turns generalizing matchedPods with
  | nil => simp [inTurns, Finds]
  | cons first rest ih =>
      rcases first with ⟨resource, containerPorts⟩
      rw [inTurns, Set.mem_union, ih]
      simp only [finds_cons_iff, inTurn, Set.mem_ofPred_eq]
      constructor
      · rintro (⟨number, known, made⟩ | ⟨turn, number, finds, made⟩)
        · exact ⟨(resource, containerPorts), number, .inl ⟨rfl, known⟩, made⟩
        · exact ⟨turn, number, .inr finds, made⟩
      · rintro ⟨turn, number, ⟨rfl, known⟩ | finds, made⟩
        · exact .inl ⟨number, known, made⟩
        · exact .inr ⟨turn, number, finds, made⟩

/-! ## The turns -/

/-- The turn of a peer for `egress`. -/
def egressTurn (translation : Translation) (port : PolicyPort) (resource : Resource) :
    Option (Resource × List (Pod × PortNumber)) :=
  match resource with
  | .cidr _ => none
  | _ => some (resource, translation.getPortsOf port resource)

theorem textPortTurns_of_egress (egress : translation.direction = .egress) (port : PolicyPort)
    (resources : List Resource) :
    translation.textPortTurns port resources =
      resources.filterMap (translation.egressTurn port) := by
  rw [textPortTurns, egress]
  rfl

theorem egressTurn_eq_some_iff {port : PolicyPort} {resource : Resource}
    {turn : Resource × List (Pod × PortNumber)} :
    translation.egressTurn port resource = some turn ↔
      resource.hasPods = true ∧ turn = (resource, translation.getPortsOf port resource) := by
  cases resource <;> simp [egressTurn, Resource.hasPods, eq_comm]

theorem mem_textPortTurns_of_ingress (ingress : translation.direction = .ingress)
    {port : PolicyPort} {resources : List Resource}
    {turn : Resource × List (Pod × PortNumber)} :
    turn ∈ translation.textPortTurns port resources ↔
      ∃ pod ∈ translation.cluster.getPods translation.podSelector translation.policyNamespace,
        ∃ resource ∈ resources, turn = (resource, getPorts pod (portName port)) := by
  rw [textPortTurns, ingress]
  simp only [List.mem_flatMap, List.mem_map, eq_comm]

/-- A turn that finds a number is one of the turns. -/
theorem mem_of_finds {turns : List (Resource × List (Pod × PortNumber))}
    {matchedPods : PodsOfPorts} {turn : Resource × List (Pod × PortNumber)} {number : Nat}
    (finds : translation.Finds turns matchedPods turn number) : turn ∈ turns := by
  rcases finds with ⟨listed, _⟩ | ⟨earlier, before, _⟩
  · exact listed
  · exact before.subset (List.mem_cons_of_mem _ List.mem_cons_self)

/-- The turns for `egress` are over resources with pods, which all services can be compared
with. -/
theorem scannable_of_mem_textPortTurns {port : PolicyPort} {resources : List Resource}
    {turn : Resource × List (Pod × PortNumber)}
    (listed : turn ∈ translation.textPortTurns port resources)
    (egress : translation.direction = .egress) : translation.Scannable turn.1 := by
  rw [textPortTurns_of_egress egress] at listed
  rcases List.mem_filterMap.mp listed with ⟨resource, _, taken⟩
  rcases egressTurn_eq_some_iff.mp taken with ⟨served, rfl⟩
  cases resource with
  | cidr cidr => cases served
  | pod pod => trivial
  | namespaceObj namespaceObj => trivial

theorem pos_of_notes {turn : Resource × List (Pod × PortNumber)} {number : Nat}
    (notes : translation.Notes turn number) : 0 < number := by
  rcases notes with ⟨entry, _, _, rfl⟩
  exact entry.2.property.1

theorem lt_of_notes {turn : Resource × List (Pod × PortNumber)} {number : Nat}
    (notes : translation.Notes turn number) : number < 65536 := by
  rcases notes with ⟨entry, _, _, rfl⟩
  exact entry.2.property.2

/-- What is found in an empty table was noted in some turn. -/
theorem notes_of_finds {turns : List (Resource × List (Pod × PortNumber))}
    {turn : Resource × List (Pod × PortNumber)} {number : Nat}
    (finds : translation.Finds turns ∅ turn number) :
    ∃ noting ∈ turns, translation.Notes noting number := by
  rcases finds with ⟨listed, nothing | own⟩ | ⟨earlier, before, notes⟩
  · cases nothing
  · exact ⟨turn, listed, own⟩
  · exact ⟨earlier, before.subset List.mem_cons_self, notes⟩

end Translation

end KuryrKubernetes.Policy
