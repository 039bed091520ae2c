import KuryrKubernetes.Lbaas.Passes

/-!
# The passes that add

What the synchronization adds to the listeners, pools and members that are left.
-/

namespace KuryrKubernetes.Lbaas

open KuryrKubernetes.Data
open KuryrKubernetes.Effect

variable {Address W : Type} {knows : W → Resource → Prop} {mayRaise : Prop}
  {supports : String → Bool}

/-! ## Listeners -/

/-- Protocol and port. -/
def Listener.key (listener : Listener) : String × Nat :=
  (listener.protocol, listener.port)

def PortSpec.key (port : PortSpec) : String × Nat :=
  (port.protocol, port.port)

theorem Listener.isFor_iff {listener : Listener} {port : PortSpec} :
    listener.isFor port ↔ listener.key = port.key := by
  rw [Listener.isFor, decide_eq_true_eq, Listener.key, PortSpec.key, Prod.mk.injEq, and_comm]

/-- The port has its listener, or its number is taken while only one protocol can have it. -/
def Offered (double : Bool) (listeners : List Listener) (port : PortSpec) : Prop :=
  (∃ listener ∈ listeners, listener.isFor port) ∨
    double = false ∧ ∃ listener ∈ listeners, listener.port = port.port

theorem Offered.mono {double : Bool} {listeners more : List Listener} {port : PortSpec}
    (offered : Offered double listeners port) (within : listeners ⊆ more) :
    Offered double more port := by
  rcases offered with ⟨listener, listed, isFor⟩ | ⟨single, listener, listed, same⟩
  · exact .inl ⟨listener, within listed, isFor⟩
  · exact .inr ⟨single, listener, within listed, same⟩

/-- What is added to the listeners: one for each port that is supported and not offered. -/
structure ListenersAdded (supports : String → Bool) (double : Bool) (ports : List PortSpec)
    (before added : List Listener) : Prop where
  wanted : ∀ listener ∈ added, supports listener.protocol ∧ ∃ port ∈ ports, listener.isFor port
  distinct : (added.map Listener.key).Nodup
  fresh : ∀ listener ∈ added, ∀ known ∈ before, known.key ≠ listener.key
  /-- Where one protocol can have a number, no listener had it, and it goes to the least. -/
  alone : double = false → ∀ listener ∈ added, ∀ known ∈ before, known.port ≠ listener.port
  least : double = false → ∀ listener ∈ added, ∀ port ∈ ports, supports port.protocol →
    port.port = listener.port → listener.protocol ≤ port.protocol
  offered : ∀ port ∈ ports, supports port.protocol → Offered double (before ++ added) port

/-- A port that needs no listener. -/
theorem ListenersAdded.skip {double : Bool} {port : PortSpec} {rest : List PortSpec}
    {before added : List Listener} (adds : ListenersAdded supports double rest before added)
    (settled : supports port.protocol → Offered double before port) :
    ListenersAdded supports double (port :: rest) before added := by
  constructor
  · intro listener member
    obtain ⟨supported, other, listed, isFor⟩ := adds.wanted listener member
    exact ⟨supported, other, List.mem_cons_of_mem port listed, isFor⟩
  · exact adds.distinct
  · exact adds.fresh
  · exact adds.alone
  · intro single listener member other listed supported sameNumber
    rcases List.mem_cons.mp listed with rfl | listed
    · -- its number was taken before
      rcases settled supported with ⟨known_, old, isFor⟩ | ⟨_, known_, old, taken⟩
      · exact absurd ((congrArg Prod.snd (Listener.isFor_iff.mp isFor)).trans sameNumber)
          (adds.alone single listener member known_ old)
      · exact absurd (taken.trans sameNumber) (adds.alone single listener member known_ old)
    · exact adds.least single listener member other listed supported sameNumber
  · intro other listed supported
    rcases List.mem_cons.mp listed with rfl | listed
    · exact (settled supported).mono (List.subset_append_left _ _)
    · exact adds.offered other listed supported

/-- A port whose number nobody has gets a listener; of the ports that are left none has a
lesser protocol. -/
theorem ListenersAdded.add {double : Bool} {port : PortSpec} {rest : List PortSpec}
    {before added : List Listener} {listener : Listener}
    (adds : ListenersAdded supports double rest (before ++ [listener]) added)
    (key : listener.key = port.key) (supported : supports port.protocol)
    (least : ∀ other ∈ rest, port.protocol ≤ other.protocol)
    (absent : ∀ known ∈ before, known.key ≠ listener.key)
    (free : double = false → ∀ known ∈ before, known.port ≠ listener.port) :
    ListenersAdded supports double (port :: rest) before (listener :: added) := by
  have sameProtocol : listener.protocol = port.protocol := congrArg Prod.fst key
  have samePort : listener.port = port.port := congrArg Prod.snd key
  have mine : listener ∈ before ++ [listener] := List.mem_append_right _ List.mem_cons_self
  constructor
  · intro other member
    rcases List.mem_cons.mp member with rfl | member
    · exact ⟨by rw [sameProtocol]; exact supported, port, List.mem_cons_self,
        Listener.isFor_iff.mpr key⟩
    · obtain ⟨supportedToo, wanted, listed, isFor⟩ := adds.wanted other member
      exact ⟨supportedToo, wanted, List.mem_cons_of_mem port listed, isFor⟩
  · rw [List.map_cons, List.nodup_cons]
    constructor
    · intro repeated
      obtain ⟨other, member, sameKey⟩ := List.mem_map.mp repeated
      exact adds.fresh other member listener mine sameKey.symm
    · exact adds.distinct
  · intro other member known old sameKey
    rcases List.mem_cons.mp member with rfl | member
    · exact absent known old sameKey
    · exact adds.fresh other member known (List.mem_append_left _ old) sameKey
  · intro single other member known old sameNumber
    rcases List.mem_cons.mp member with rfl | member
    · exact free single known old sameNumber
    · exact adds.alone single other member known (List.mem_append_left _ old) sameNumber
  · intro single other member wanted listed supportedToo sameNumber
    rcases List.mem_cons.mp member with rfl | member
    · rw [sameProtocol]
      rcases List.mem_cons.mp listed with rfl | listed
      · exact le_refl _
      · exact least wanted listed
    · rcases List.mem_cons.mp listed with rfl | listed
      · exact absurd (samePort.trans sameNumber) (adds.alone single other member listener mine)
      · exact adds.least single other member wanted listed supportedToo sameNumber
  · intro other listed supportedToo
    rcases List.mem_cons.mp listed with rfl | listed
    · exact .inl ⟨listener, List.mem_append_right _ List.mem_cons_self,
        Listener.isFor_iff.mpr key⟩
    · have offered := adds.offered other listed supportedToo
      rw [List.append_assoc] at offered
      exact offered

section

variable {handler : LoadBalancerHandler Address W}
  (answers : handler.Answers mayRaise knows supports)
include answers

theorem addListeners_completes (spec : ServiceSpec Address) (ports : List PortSpec)
    (sorted : ports.Pairwise fun port other => port.protocol ≤ other.protocol)
    (state : LbaasState Address) (changed : Bool)
    (addressed : state.loadbalancer ≠ none ∨ ports = [] ∨ mayRaise) :
    (knowledge knows).Completes mayRaise (state.Known knows)
      (handler.addListeners spec ports state changed) fun result world =>
        result.1.Known knows world ∧ (ports = [] ∨ state.loadbalancer ≠ none) ∧ ∃ added,
          result.1 = { state with listeners := state.listeners ++ added } ∧
            ListenersAdded supports handler.drvLbaas.doubleListenersSupported ports
              state.listeners added := by
  induction ports generalizing state changed with
  | nil =>
      apply Frame.completes_pure
      intro world known
      refine ⟨known, .inl rfl, [], by simp, ?_⟩
      constructor <;> simp
  | cons port rest ih =>
      unfold LoadBalancerHandler.addListeners
      split
      · rename_i missing
        apply Frame.completes_throw
        simpa [missing] using addressed
      · rename_i lb given
        have present : state.loadbalancer ≠ none := by
          rw [given]
          exact Option.some_ne_none lb
        have later (next : LbaasState Address) (same : next.loadbalancer = state.loadbalancer)
            (flag : Bool) := ih sorted.of_cons next flag (.inl (by rw [same]; exact present))
        -- a port that needs no listener
        have skip (settled : supports port.protocol →
            Offered handler.drvLbaas.doubleListenersSupported state.listeners port) :
            (knowledge knows).Completes mayRaise (state.Known knows)
              (handler.addListeners spec rest state changed) fun result world =>
                result.1.Known knows world ∧ (port :: rest = [] ∨ state.loadbalancer ≠ none) ∧
                  ∃ added, result.1 = { state with listeners := state.listeners ++ added } ∧
                    ListenersAdded supports handler.drvLbaas.doubleListenersSupported
                      (port :: rest) state.listeners added := by
          apply (later state rfl changed).mono
          rintro result world ⟨known, _, added, same, adds⟩
          exact ⟨known, .inr present, added, same, adds.skip settled⟩
        split
        · rename_i served
          obtain ⟨listener, listed, isFor⟩ := List.any_eq_true.mp served
          exact skip fun _ => .inl ⟨listener, listed, isFor⟩
        · rename_i absent
          split
          · rename_i taken
            obtain ⟨listener, listed, same⟩ := List.any_eq_true.mp taken.1
            exact skip fun _ => .inr ⟨by simpa using taken.2, listener, listed,
              of_decide_eq_true same⟩
          · rename_i taken
            by_cases supported : supports port.protocol
            · apply ((answers.ensureListener lb port.protocol port.port spec.type
                supported).keeping fun _ _ kept known => LbaasState.Known.mono known kept).weaken
                (fun _ known => ⟨trivial, known⟩) |>.bind
              intro answer before holds
              obtain ⟨⟨listener, rfl, sameProtocol, samePort, knownListener⟩, known⟩ := holds
              have key : listener.key = port.key := by
                rw [Listener.key, sameProtocol, samePort, PortSpec.key]
              have knownNext : LbaasState.Known knows
                  { state with listeners := state.listeners ++ [listener] } before := by
                constructor
                · intro other member
                  rcases List.mem_append.mp member with old | new
                  · exact known.listeners other old
                  · rw [List.mem_singleton.mp new]
                    exact knownListener
                · exact known.pools
              apply (later { state with listeners := state.listeners ++ [listener] } rfl
                true).mono _ before knownNext
              rintro result world ⟨knownResult, _, added, same, adds⟩
              refine ⟨knownResult, .inr present, listener :: added,
                by rw [same, List.append_assoc]; rfl, ?_⟩
              apply adds.add key supported (fun _ listed => List.rel_of_pairwise_cons sorted listed)
              · intro old member sameKey
                apply absent
                rw [List.any_eq_true]
                exact ⟨old, member, Listener.isFor_iff.mpr (sameKey.trans key)⟩
              · intro single old member sameNumber
                apply taken
                rw [single]
                refine ⟨List.any_eq_true.mpr ⟨old, member, ?_⟩, rfl⟩
                rw [decide_eq_true_eq, sameNumber, samePort]
            · intro before known
              have refused := answers.unsupported lb port.protocol port.port spec.type
                (by simpa using supported) before
              rw [exec_bind_of_ok refused]
              exact skip (fun supportedToo => absurd supportedToo supported) before known

/-! ## Pools -/

theorem ensurePools_completes (listeners : List Listener) (state : LbaasState Address) :
    (knowledge knows).Completes mayRaise (state.Known knows)
      (handler.ensurePools listeners state) fun result world =>
        result.Known knows world ∧ ∃ added, result = { state with pools := state.pools ++ added } ∧
          added.map (·.listenerId) = listeners.map (·.id) := by
  induction listeners generalizing state with
  | nil =>
      apply Frame.completes_pure
      intro world known
      exact ⟨known, [], by simp, rfl⟩
  | cons listener rest ih =>
      unfold LoadBalancerHandler.ensurePools
      apply ((answers.ensurePool state.loadbalancer listener).keeping
        fun _ _ kept known => LbaasState.Known.mono known kept).weaken
        (fun _ known => ⟨trivial, known⟩) |>.bind
      rintro pool before ⟨⟨sameListener, knownPool⟩, known⟩
      have knownNext : LbaasState.Known knows { state with pools := state.pools ++ [pool] }
          before := by
        constructor
        · exact known.listeners
        · intro other member
          rcases List.mem_append.mp member with old | new
          · exact known.pools other old
          · rw [List.mem_singleton.mp new]
            exact knownPool
      apply (ih { state with pools := state.pools ++ [pool] }).mono _ before knownNext
      rintro result world ⟨knownResult, added, same, forListeners⟩
      refine ⟨knownResult, pool :: added, by rw [same, List.append_assoc]; rfl, ?_⟩
      rw [List.map_cons, List.map_cons, sameListener, forListeners]

theorem addNewPools_completes (state : LbaasState Address) :
    (knowledge knows).Completes mayRaise (state.Known knows)
      (handler.addNewPools state) fun result world =>
        result.1.Known knows world ∧
          ∃ added, result.1 = { state with pools := state.pools ++ added } ∧
            added.map (·.listenerId) = (state.listeners.filter fun listener =>
              !(state.pools.map (·.listenerId)).contains listener.id).map (·.id) := by
  unfold LoadBalancerHandler.addNewPools
  apply (ensurePools_completes answers _ state).bind
  intro result
  apply Frame.completes_pure
  intro world holds
  exact holds

/-! ## Members -/

end

/-- The namespace of the pod is gone, so that there is no subnet for a member. -/
def LoadBalancerHandler.Skips (handler : LoadBalancerHandler Address W) (target : PodTarget) :
    Prop :=
  ∃ podSubnet, handler.memberMode = .l2 podSubnet ∧
    podSubnet target = .error .k8sResourceNotFound

/-- What is added to the members: the pods of the pools by name that are not there. -/
structure MembersAdded (handler : LoadBalancerHandler Address W)
    (pools : Dict (Option String) Pool) (current : List (String × Nat × Nat))
    (targets : List PodTarget) (added : List (Member Address)) : Prop where
  wanted : ∀ member ∈ added, ∃ target ∈ targets, ∃ pool,
    pools.get? target.port.name = some pool ∧ member.poolId = pool.id ∧
      member.ip = handler.format.read target.ip ∧ member.port = target.port.port ∧
      member.name.podName = target.name ∧ ¬handler.Skips target ∧
      (target.ip, target.port.port, pool.id) ∉ current
  served : ∀ target ∈ targets, ∀ pool, pools.get? target.port.name = some pool →
    handler.Skips target ∨ (target.ip, target.port.port, pool.id) ∈ current ∨
      ∃ member ∈ added, member.poolId = pool.id ∧
        member.ip = handler.format.read target.ip ∧ member.port = target.port.port ∧
        member.name.podName = target.name

/-- A target that needs no member. -/
theorem MembersAdded.cons_of_served {handler : LoadBalancerHandler Address W}
    {pools : Dict (Option String) Pool} {current : List (String × Nat × Nat)}
    {target : PodTarget} {targets : List PodTarget} {added : List (Member Address)}
    (adds : MembersAdded handler pools current targets added)
    (settled : ∀ pool, pools.get? target.port.name = some pool →
      handler.Skips target ∨ (target.ip, target.port.port, pool.id) ∈ current) :
    MembersAdded handler pools current (target :: targets) added := by
  constructor
  · intro member listed
    obtain ⟨other, among, wanted⟩ := adds.wanted member listed
    exact ⟨other, List.mem_cons_of_mem target among, wanted⟩
  · intro other among pool found
    rcases List.mem_cons.mp among with rfl | among
    · rcases settled pool found with skipped | there
      · exact .inl skipped
      · exact .inr (.inl there)
    · exact adds.served other among pool found

/-- A target that gets a member. -/
theorem MembersAdded.cons_of_added {handler : LoadBalancerHandler Address W}
    {pools : Dict (Option String) Pool} {current : List (String × Nat × Nat)}
    {target : PodTarget} {rest : List PodTarget} {added : List (Member Address)}
    {member : Member Address} {pool : Pool}
    (adds : MembersAdded handler pools current rest added)
    (found : pools.get? target.port.name = some pool) (inPool : member.poolId = pool.id)
    (sameIp : member.ip = handler.format.read target.ip)
    (samePort : member.port = target.port.port) (sameName : member.name.podName = target.name)
    (stays : ¬handler.Skips target) (missing : (target.ip, target.port.port, pool.id) ∉ current) :
    MembersAdded handler pools current (target :: rest) (member :: added) := by
  constructor
  · intro other listed
    rcases List.mem_cons.mp listed with rfl | listed
    · exact ⟨target, List.mem_cons_self, pool, found, inPool, sameIp, samePort, sameName, stays,
        missing⟩
    · obtain ⟨wanted, among, more⟩ := adds.wanted other listed
      exact ⟨wanted, List.mem_cons_of_mem target among, more⟩
  · intro other among otherPool foundOther
    rcases List.mem_cons.mp among with rfl | among
    · rw [found] at foundOther
      cases foundOther
      exact .inr (.inr ⟨member, List.mem_cons_self, inPool, sameIp, samePort, sameName⟩)
    · rcases adds.served other among otherPool foundOther with
        skipped | there | ⟨added_, listedAdded, served⟩
      · exact .inl skipped
      · exact .inr (.inl there)
      · exact .inr (.inr ⟨added_, List.mem_cons_of_mem member listedAdded, served⟩)

section

variable {handler : LoadBalancerHandler Address W}
  (answers : handler.Answers mayRaise knows supports)
include answers

theorem memberSubnetId_cases (state : LbaasState Address) (target : PodTarget)
    (addressed : state.loadbalancer ≠ none ∨ mayRaise) :
    (∀ exception, handler.memberSubnetId state target = .error exception → mayRaise) ∧
      (handler.memberSubnetId state target = .ok none ↔ handler.Skips target) := by
  unfold LoadBalancerHandler.memberSubnetId
  split
  · rename_i podSubnet mode
    split
    · rename_i subnetId given
      constructor
      · rintro _ ⟨⟩
      · constructor
        · rintro ⟨⟩
        · rintro ⟨other, same, gone⟩
          rw [mode] at same
          cases same
          rw [given] at gone
          cases gone
    · rename_i gone
      constructor
      · rintro _ ⟨⟩
      · constructor
        · intro _
          exact ⟨podSubnet, mode, gone⟩
        · intro _
          rfl
    · rename_i exception other raised
      constructor
      · intro _ _
        exact (answers.podSubnet podSubnet mode target exception raised).resolve_left other
      · constructor
        · rintro ⟨⟩
        · rintro ⟨known, same, gone⟩
          rw [mode] at same
          cases same
          rw [raised] at gone
          exact absurd (Except.error.inj gone) other
  · rename_i mode _
    constructor
    · rintro _ ⟨⟩
    · constructor
      · rintro ⟨⟩
      · rintro ⟨podSubnet, same, _⟩
        rw [mode] at same
        cases same
  · rename_i mode missing
    constructor
    · intro _ _
      exact addressed.resolve_left (not_not_intro missing)
    · constructor
      · rintro ⟨⟩
      · rintro ⟨podSubnet, same, _⟩
        rw [mode] at same
        cases same

theorem addMembers_completes {lsnrById : Dict Nat Listener} {pools : Dict (Option String) Pool}
    (current : List (String × Nat × Nat)) (targets : List PodTarget)
    (state : LbaasState Address) (changed : Bool)
    (attached : ∀ name pool, pools.get? name = some pool →
      (lsnrById.get? pool.listenerId).isSome ∧ (state.loadbalancer ≠ none ∨ mayRaise)) :
    (knowledge knows).Completes mayRaise (state.Known knows)
      (handler.addMembers lsnrById pools current targets state changed) fun result world =>
        result.1.Known knows world ∧ ∃ added,
          result.1 = { state with members := state.members ++ added } ∧
            MembersAdded handler pools current targets added := by
  induction targets generalizing state changed with
  | nil =>
      apply Frame.completes_pure
      intro world known
      refine ⟨known, [], by simp, ?_⟩
      constructor <;> simp
  | cons target rest ih =>
      -- a target that needs no member
      have skip (settled : ∀ pool, pools.get? target.port.name = some pool →
          handler.Skips target ∨ (target.ip, target.port.port, pool.id) ∈ current) :
          (knowledge knows).Completes mayRaise (state.Known knows)
            (handler.addMembers lsnrById pools current rest state changed) fun result world =>
              result.1.Known knows world ∧ ∃ added,
                result.1 = { state with members := state.members ++ added } ∧
                  MembersAdded handler pools current (target :: rest) added := by
        apply (ih state changed attached).mono
        rintro result world ⟨known, added, same, adds⟩
        exact ⟨known, added, same, adds.cons_of_served settled⟩
      unfold LoadBalancerHandler.addMembers
      split
      · rename_i unknown
        apply skip
        intro pool found
        rw [unknown] at found
        cases found
      · rename_i pool found
        split
        · rename_i there
          apply skip
          intro other same
          rw [found] at same
          cases same
          exact .inr (by simpa using there)
        · rename_i missing
          obtain ⟨listed, addressed⟩ := attached target.port.name pool found
          have subnets := memberSubnetId_cases answers state target addressed
          apply Frame.Completes.settle_bind subnets.1
          intro subnet found_
          split
          · apply skip
            intro _ _
            exact .inl (subnets.2.mp found_)
          · have stays : ¬handler.Skips target := by
              intro skipped
              rw [subnets.2.mpr skipped] at found_
              cases found_
            apply Frame.Completes.settle_bind
            · intro exception raised
              unfold LoadBalancerHandler.listenerPort at raised
              split at raised
              · cases raised
              · obtain ⟨listener, byId⟩ := Option.isSome_iff_exists.mp listed
                rw [byId] at raised
                cases raised
            · intro listenerPort _
              apply ((answers.ensureMember state.loadbalancer _).keeping
                fun _ _ kept known => LbaasState.Known.mono known kept).weaken
                (fun _ known => ⟨trivial, known⟩) |>.bind
              rintro member before ⟨⟨inPool, sameIp, samePort, sameName⟩, known⟩
              have knownNext : LbaasState.Known knows
                  { state with members := state.members ++ [member] } before :=
                ⟨known.listeners, known.pools⟩
              apply (ih { state with members := state.members ++ [member] } true
                attached).mono _ before knownNext
              rintro result world ⟨knownResult, added, same, adds⟩
              exact ⟨knownResult, member :: added, by rw [same, List.append_assoc]; rfl,
                adds.cons_of_added found inPool sameIp samePort sameName stays
                  (by simpa using missing)⟩

end

end KuryrKubernetes.Lbaas
