import KuryrKubernetes.Nested.AddressPairs

/-!
# What holds of the address pairs at any time

The ports of the pods, the threads and the list of the node fit together.  What changes one of
them keeps this: a port is created or deleted, a thread goes on, the list is written.
-/

namespace KuryrKubernetes.Nested

open KuryrKubernetes.Effect

/-! ## What holds at any time -/

/-- Nothing was written since the port of the node was read, or the revision is another. -/
def VmPort.Current (vmPort : VmPort) (node : NodePairs) : Prop :=
  vmPort.revisionNumber ≤ node.revision ∧
    (vmPort.revisionNumber = node.revision → vmPort.pairs = node.pairs)

/-- The port of a request is the only one with its id, and is there until its release begins. -/
structure Owned (node : NodePairs) (container : ContainerPort) : Prop where
  created : container.id ∈ node.created
  only : ∀ other ∈ node.containers, other.id = container.id → other = container
  there : container.id ∉ node.released → container ∈ node.containers

/-- The ports of the pods, the threads and the list of pairs fit together. -/
structure Kept (node : NodePairs) : Prop where
  known : ∀ container ∈ node.containers, container.id ∈ node.created
  apart : ∀ container ∈ node.containers, ∀ other ∈ node.containers, container.id ≠ other.id →
    ∀ pair ∈ container.pairs, pair ∉ other.pairs
  owned : ∀ thread container, (node.requests thread).container = some container →
    Owned node container
  own : ∀ thread another container other, (node.requests thread).container = some container →
    (node.requests another).container = some other → container.id = other.id → thread = another
  released : ∀ id ∈ node.released, ∃ thread container,
    node.requests thread = .served container ∧ container.id = id
  releasing : ∀ thread id, (node.releases thread).id = some id → id ∈ node.released
  ofServed : ∀ thread container, (node.releases thread).container = some container →
    ∃ request, node.requests request = .served container
  requestCurrent : ∀ thread vmPort, (node.requests thread).vmPort = some vmPort →
    vmPort.Current node
  releaseCurrent : ∀ thread vmPort, (node.releases thread).vmPort = some vmPort →
    vmPort.Current node
  once : ∀ thread container, node.requests thread = .served container →
    container.id ∉ node.released → ∀ pair ∈ container.pairs, node.pairs.count pair = 1
  atMostOnce : ∀ thread container, node.requests thread = .served container →
    container ∈ node.containers → ∀ pair ∈ container.pairs, node.pairs.count pair ≤ 1
  missed : ∀ thread vmPort container left,
    node.releases thread = .updating vmPort container left → container ∈ node.containers →
      ∀ pair ∈ container.pairs, pair ∉ vmPort.pairs → pair ∉ node.pairs
  gone : ∀ thread id container, node.releases thread = .deleting id (some container) →
    container ∈ node.containers → ∀ pair ∈ container.pairs, pair ∉ node.pairs

section

variable {node : NodePairs} {thread : Nat}

theorem container_of_served {container : ContainerPort}
    (served : node.requests thread = .served container) :
    (node.requests thread).container = some container := by
  rw [served]
  rfl

theorem container_of_updating {vmPort : VmPort} {container : ContainerPort} {left : Nat}
    (updates : node.releases thread = .updating vmPort container left) :
    (node.releases thread).container = some container := by
  rw [updates]
  rfl

theorem container_of_deleting {id : Nat} {container : ContainerPort}
    (deletes : node.releases thread = .deleting id (some container)) :
    (node.releases thread).container = some container := by
  rw [deletes]
  rfl

theorem current_of_shows {vmPort : VmPort} (shows_ : node.Shows vmPort) : vmPort.Current node :=
  ⟨Nat.le_of_eq shows_.2, fun _ => shows_.1⟩

/-- The list is written, and the pairs of the pods are those that were there, or fewer where the
pod is released. -/
theorem Kept.write (kept : Kept node) {pairs : List AddressPair}
    (live : ∀ thread container, node.requests thread = .served container →
      container.id ∉ node.released → ∀ pair ∈ container.pairs,
        pairs.count pair = node.pairs.count pair)
    (fewer : ∀ thread container, node.requests thread = .served container →
      container ∈ node.containers → ∀ pair ∈ container.pairs,
        pairs.count pair ≤ node.pairs.count pair) :
    Kept (node.write pairs) := by
  have older {vmPort : VmPort} (current : vmPort.Current node) :
      vmPort.Current (node.write pairs) := by
    constructor
    · exact Nat.le_succ_of_le current.1
    · intro same
      have impossible : vmPort.revisionNumber = node.revision + 1 := same
      have before := current.1
      omega
  have stillGone {another : Nat} {container : ContainerPort} {pair : AddressPair}
      (read : (node.releases another).container = some container)
      (there : container ∈ node.containers) (mine : pair ∈ container.pairs)
      (absent : pair ∉ node.pairs) : pair ∉ pairs := by
    rcases kept.ofServed another container read with ⟨request, served⟩
    have less := fewer request container served there pair mine
    rw [List.count_eq_zero_of_not_mem absent] at less
    exact List.count_eq_zero.mp (Nat.le_zero.mp less)
  constructor
  · exact kept.known
  · exact kept.apart
  · intro another container read
    rcases kept.owned another container read with ⟨created, only, there⟩
    exact ⟨created, only, there⟩
  · exact kept.own
  · exact kept.released
  · exact kept.releasing
  · exact kept.ofServed
  · intro another vmPort read
    exact older (kept.requestCurrent another vmPort read)
  · intro another vmPort read
    exact older (kept.releaseCurrent another vmPort read)
  · intro another container served alive pair mine
    exact (live another container served alive pair mine).trans
      (kept.once another container served alive pair mine)
  · intro another container served there pair mine
    exact (fewer another container served there pair mine).trans
      (kept.atMostOnce another container served there pair mine)
  · intro another vmPort container left updates there pair mine absent
    exact stillGone (container_of_updating updates) there mine
      (kept.missed another vmPort container left updates there pair mine absent)
  · intro another id container deletes there pair mine
    exact stillGone (container_of_deleting deletes) there mine
      (kept.gone another id container deletes there pair mine)

/-- A request goes on. -/
theorem Kept.moveRequest (kept : Kept node) {phase : RequestPhase}
    (unserved : ∀ container, node.requests thread ≠ .served container)
    (owned : ∀ container, phase.container = some container →
      (node.requests thread).container = some container ∨
        (Owned node container ∧ ∀ another other,
          (node.requests another).container = some other → other.id ≠ container.id))
    (current : ∀ vmPort, phase.vmPort = some vmPort → vmPort.Current node)
    (once : ∀ container, phase = .served container →
      ∀ pair ∈ container.pairs, node.pairs.count pair = 1) :
    Kept (node.moveRequest thread phase) := by
  have same : (node.moveRequest thread phase).requests thread = phase := Function.update_self ..
  have others {another : Nat} (different : another ≠ thread) :
      (node.moveRequest thread phase).requests another = node.requests another :=
    Function.update_of_ne different ..
  have stays {another : Nat} {container : ContainerPort}
      (served : node.requests another = .served container) :
      (node.moveRequest thread phase).requests another = .served container := by
    have different : another ≠ thread := by
      rintro rfl
      exact unserved container served
    rw [others different]
    exact served
  constructor
  · exact kept.known
  · exact kept.apart
  · intro another container read
    by_cases isThread : another = thread
    · subst isThread
      rw [same] at read
      rcases owned container read with before | ⟨⟨created, only, there⟩, _⟩
      · rcases kept.owned another container before with ⟨created, only, there⟩
        exact ⟨created, only, there⟩
      · exact ⟨created, only, there⟩
    · rw [others isThread] at read
      rcases kept.owned another container read with ⟨created, only, there⟩
      exact ⟨created, only, there⟩
  · intro first second container other readFirst readSecond sameId
    by_cases isFirst : first = thread
    · by_cases isSecond : second = thread
      · exact isFirst.trans isSecond.symm
      · subst isFirst
        rw [same] at readFirst
        rw [others isSecond] at readSecond
        rcases owned container readFirst with before | ⟨_, new⟩
        · exact kept.own first second container other before readSecond sameId
        · exact absurd sameId.symm (new second other readSecond)
    · rw [others isFirst] at readFirst
      by_cases isSecond : second = thread
      · subst isSecond
        rw [same] at readSecond
        rcases owned other readSecond with before | ⟨_, new⟩
        · exact kept.own first second container other readFirst before sameId
        · exact absurd sameId (new first container readFirst)
      · rw [others isSecond] at readSecond
        exact kept.own first second container other readFirst readSecond sameId
  · intro id listed
    rcases kept.released id listed with ⟨another, container, served, isId⟩
    exact ⟨another, container, stays served, isId⟩
  · exact kept.releasing
  · intro another container read
    rcases kept.ofServed another container read with ⟨request, served⟩
    exact ⟨request, stays served⟩
  · intro another vmPort read
    by_cases isThread : another = thread
    · subst isThread
      rw [same] at read
      exact current vmPort read
    · rw [others isThread] at read
      exact kept.requestCurrent another vmPort read
  · exact kept.releaseCurrent
  · intro another container served alive pair mine
    by_cases isThread : another = thread
    · subst isThread
      rw [same] at served
      exact once container served pair mine
    · rw [others isThread] at served
      exact kept.once another container served alive pair mine
  · intro another container served there pair mine
    by_cases isThread : another = thread
    · subst isThread
      rw [same] at served
      exact Nat.le_of_eq (once container served pair mine)
    · rw [others isThread] at served
      exact kept.atMostOnce another container served there pair mine
  · exact kept.missed
  · exact kept.gone

/-- A release goes on. -/
theorem Kept.moveRelease (kept : Kept node) {phase : ReleasePhase}
    (releasing : ∀ id, phase.id = some id → id ∈ node.released)
    (ofServed : ∀ container, phase.container = some container →
      ∃ request, node.requests request = .served container)
    (current : ∀ vmPort, phase.vmPort = some vmPort → vmPort.Current node)
    (missed : ∀ vmPort container left, phase = .updating vmPort container left →
      ∀ pair ∈ container.pairs, pair ∉ vmPort.pairs → pair ∉ node.pairs)
    (gone : ∀ id container, phase = .deleting id (some container) →
      container ∈ node.containers → ∀ pair ∈ container.pairs, pair ∉ node.pairs) :
    Kept (node.moveRelease thread phase) := by
  have same : (node.moveRelease thread phase).releases thread = phase := Function.update_self ..
  have others {another : Nat} (different : another ≠ thread) :
      (node.moveRelease thread phase).releases another = node.releases another :=
    Function.update_of_ne different ..
  constructor
  · exact kept.known
  · exact kept.apart
  · intro another container read
    rcases kept.owned another container read with ⟨created, only, there⟩
    exact ⟨created, only, there⟩
  · exact kept.own
  · exact kept.released
  · intro another id read
    by_cases isThread : another = thread
    · subst isThread
      rw [same] at read
      exact releasing id read
    · rw [others isThread] at read
      exact kept.releasing another id read
  · intro another container read
    by_cases isThread : another = thread
    · subst isThread
      rw [same] at read
      exact ofServed container read
    · rw [others isThread] at read
      exact kept.ofServed another container read
  · exact kept.requestCurrent
  · intro another vmPort read
    by_cases isThread : another = thread
    · subst isThread
      rw [same] at read
      exact current vmPort read
    · rw [others isThread] at read
      exact kept.releaseCurrent another vmPort read
  · exact kept.once
  · exact kept.atMostOnce
  · intro another vmPort container left updates there pair mine absent
    by_cases isThread : another = thread
    · subst isThread
      rw [same] at updates
      exact missed vmPort container left updates pair mine absent
    · rw [others isThread] at updates
      exact kept.missed another vmPort container left updates there pair mine absent
  · intro another id container deletes there pair mine
    by_cases isThread : another = thread
    · subst isThread
      rw [same] at deletes
      exact gone id container deletes there pair mine
    · rw [others isThread] at deletes
      exact kept.gone another id container deletes there pair mine

end

/-! ## Ports come and go -/

section

variable {node : NodePairs}

/-- Neutron creates a port. -/
theorem Kept.grow (kept : Kept node) {new : ContainerPort} (givesOut : node.GivesOut new) :
    Kept { node with
      containers := new :: node.containers
      created := new.id :: node.created } := by
  have old {container : ContainerPort} (created : container.id ∈ node.created)
      (there : container ∈ new :: node.containers) : container ∈ node.containers := by
    rcases List.mem_cons.mp there with rfl | before
    · exact absurd created givesOut.1
    · exact before
  have servedOld {container : ContainerPort} {request : Nat}
      (served : node.requests request = .served container)
      (there : container ∈ new :: node.containers) : container ∈ node.containers :=
    old (kept.owned request container (container_of_served served)).created there
  have releasedOld {container : ContainerPort} {thread : Nat}
      (read : (node.releases thread).container = some container)
      (there : container ∈ new :: node.containers) : container ∈ node.containers := by
    rcases kept.ofServed thread container read with ⟨request, served⟩
    exact servedOld served there
  constructor
  · intro container there
    rcases List.mem_cons.mp there with rfl | before
    · exact List.mem_cons_self
    · exact List.mem_cons_of_mem _ (kept.known container before)
  · intro container there other otherThere different pair mine its
    rcases List.mem_cons.mp there with rfl | before
    · rcases List.mem_cons.mp otherThere with rfl | otherBefore
      · exact different rfl
      · exact givesOut.2 other otherBefore pair mine its
    · rcases List.mem_cons.mp otherThere with rfl | otherBefore
      · exact givesOut.2 container before pair its mine
      · exact kept.apart container before other otherBefore different pair mine its
  · intro thread container read
    rcases kept.owned thread container read with ⟨created, only, there⟩
    constructor
    · exact List.mem_cons_of_mem _ created
    · intro other otherThere sameId
      rcases List.mem_cons.mp otherThere with rfl | before
      · rw [← sameId] at created
        exact absurd created givesOut.1
      · exact only other before sameId
    · exact fun alive => List.mem_cons_of_mem _ (there alive)
  · exact kept.own
  · exact kept.released
  · exact kept.releasing
  · exact kept.ofServed
  · exact kept.requestCurrent
  · exact kept.releaseCurrent
  · exact kept.once
  · intro thread container served there
    exact kept.atMostOnce thread container served (servedOld served there)
  · intro thread vmPort container left updates there
    exact kept.missed thread vmPort container left updates
      (releasedOld (container_of_updating updates) there)
  · intro thread id container deletes there
    exact kept.gone thread id container deletes (releasedOld (container_of_deleting deletes) there)

/-- A port is deleted whose release has begun. -/
theorem Kept.shrink (kept : Kept node) {id : Nat} (released : id ∈ node.released) :
    Kept { node with containers := node.containers.filter (·.id ≠ id) } := by
  have before {container : ContainerPort} (there : container ∈ node.containers.filter (·.id ≠ id)) :
      container ∈ node.containers := List.mem_of_mem_filter there
  constructor
  · exact fun container there => kept.known container (before there)
  · exact fun container there other otherThere =>
      kept.apart container (before there) other (before otherThere)
  · intro thread container read
    rcases kept.owned thread container read with ⟨created, only, there⟩
    constructor
    · exact created
    · exact fun other otherThere => only other (before otherThere)
    · intro alive
      apply List.mem_filter.mpr
      refine ⟨there alive, decide_eq_true ?_⟩
      rintro rfl
      exact alive released
  · exact kept.own
  · exact kept.released
  · exact kept.releasing
  · exact kept.ofServed
  · exact kept.requestCurrent
  · exact kept.releaseCurrent
  · exact kept.once
  · exact fun thread container served there =>
      kept.atMostOnce thread container served (before there)
  · exact fun thread vmPort container left updates there =>
      kept.missed thread vmPort container left updates (before there)
  · exact fun thread id container deletes there =>
      kept.gone thread id container deletes (before there)

/-- A release begins. -/
theorem Kept.beginRelease (kept : Kept node) {request : Nat} {container : ContainerPort}
    (served : node.requests request = .served container) :
    Kept { node with released := container.id :: node.released } := by
  have alive {id : Nat} (still : id ∉ container.id :: node.released) : id ∉ node.released :=
    fun before => still (List.mem_cons_of_mem _ before)
  constructor
  · exact kept.known
  · exact kept.apart
  · intro thread other read
    rcases kept.owned thread other read with ⟨created, only, there⟩
    exact ⟨created, only, fun still => there (alive still)⟩
  · exact kept.own
  · intro id listed
    rcases List.mem_cons.mp listed with rfl | before
    · exact ⟨request, container, served, rfl⟩
    · exact kept.released id before
  · exact fun thread id read => List.mem_cons_of_mem _ (kept.releasing thread id read)
  · exact kept.ofServed
  · exact kept.requestCurrent
  · exact kept.releaseCurrent
  · exact fun thread other isServed still => kept.once thread other isServed (alive still)
  · exact kept.atMostOnce
  · exact kept.missed
  · exact kept.gone

/-- Others change the list. -/
theorem Kept.edit (kept : Kept node) {pairs : List AddressPair} (spares : node.Spares pairs) :
    Kept (node.write pairs) := by
  apply kept.write
  · intro thread container served alive pair mine
    exact spares container
      ((kept.owned thread container (container_of_served served)).there alive) pair mine
  · intro thread container served there pair mine
    exact Nat.le_of_eq (spares container there pair mine)

end

/-! ## Writing the list -/

section

variable {node : NodePairs} {thread : Nat} {vmPort : VmPort} {container : ContainerPort}
  {left : Nat} {sent : List AddressPair}

/-- What `update_port` does: nothing, or the list is written as it was sent. -/
theorem updatePort_cases (node : NodePairs) (vmPort : VmPort) (sent : List AddressPair)
    (ending : Ending PyException) :
    ((node.updatePort vmPort sent ending).1 = node ∧
      (node.updatePort vmPort sent ending).2 ≠ none) ∨
    vmPort.revisionNumber = node.revision ∧
      (node.updatePort vmPort sent ending).1 = node.write sent := by
  unfold NodePairs.updatePort
  by_cases fresh : vmPort.revisionNumber = node.revision
  · rw [if_pos fresh]
    cases ending with
    | served | cut _ => exact .inr ⟨fresh, rfl⟩
    | refused exception =>
        refine .inl ⟨rfl, ?_⟩
        rintro ⟨⟩
  · rw [if_neg fresh]
    refine .inl ⟨rfl, ?_⟩
    rintro ⟨⟩

/-- The port of a request that is not served yet is there, and no release has it. -/
theorem Kept.container_there (kept : Kept node)
    (unserved : ∀ other, node.requests thread ≠ .served other)
    (read : (node.requests thread).container = some container) :
    container ∈ node.containers := by
  apply (kept.owned thread container read).there
  intro released
  rcases kept.released container.id released with ⟨another, other, served, sameId⟩
  have same := kept.own another thread other container (container_of_served served) read sameId
  rw [same] at served
  exact unserved other served

/-- A pair is added. -/
theorem Kept.add (kept : Kept node)
    (updates : node.requests thread = .updating vmPort container left)
    (fresh : vmPort.revisionNumber = node.revision)
    (added : addToAllowedAddressPairs vmPort container.ips container.macAddress = .ok sent) :
    Kept (node.write sent) := by
  have unserved (other : ContainerPort) : node.requests thread ≠ .served other := by
    rw [updates]
    rintro ⟨⟩
  have read : (node.requests thread).container = some container := by
    rw [updates]
    rfl
  have current : vmPort.Current node := by
    apply kept.requestCurrent thread
    rw [updates]
    rfl
  have mineThere := kept.container_there unserved read
  have unchanged {another : Nat} {other : ContainerPort}
      (served : node.requests another = .served other) (there : other ∈ node.containers)
      {pair : AddressPair} (its : pair ∈ other.pairs) :
      sent.count pair = node.pairs.count pair := by
    have different : other.id ≠ container.id := by
      intro sameId
      have same := kept.own another thread other container (container_of_served served) read sameId
      rw [same] at served
      exact unserved other served
    have notMine : pair ∉ container.pairs :=
      kept.apart other there container mineThere different pair its
    rw [count_of_add_of_not_mem added notMine, current.2 fresh]
  apply kept.write
  · intro another other served alive pair its
    exact unchanged served
      ((kept.owned another other (container_of_served served)).there alive) its
  · intro another other served there pair its
    exact Nat.le_of_eq (unchanged served there its)

/-- The pairs of a port are removed that no other port has. -/
theorem Kept.remove (kept : Kept node)
    (updates : node.releases thread = .updating vmPort container left)
    (fresh : vmPort.revisionNumber = node.revision)
    (free : ∀ other ∈ node.containers, other.id ≠ container.id →
      ∀ pair ∈ container.pairs, pair ∉ other.pairs) :
    Kept (node.write
      (removePairs container.macAddress.text container.ips vmPort.pairs false).1) := by
  have current : vmPort.Current node := by
    apply kept.releaseCurrent thread
    rw [updates]
    rfl
  have isReleased : container.id ∈ node.released := by
    apply kept.releasing thread
    rw [updates]
    rfl
  apply kept.write
  · intro another other served alive pair its
    have different : other.id ≠ container.id := by
      intro sameId
      exact alive (sameId ▸ isReleased)
    have notMine : pair ∉ container.pairs := by
      intro mine
      exact free other ((kept.owned another other (container_of_served served)).there alive)
        different pair mine its
    rw [removePairs_count_of_not_mem notMine, current.2 fresh]
  · intro another other served there pair its
    rw [← current.2 fresh]
    exact removePairs_count_le _ _ _ _ pair

end

end KuryrKubernetes.Nested
