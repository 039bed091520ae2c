import KuryrKubernetes.Lbaas.Settled

/-!
# Passes that find nothing to do

When the passes of the synchronization leave the state as it is, report no change and do
not work on the world.
-/

namespace KuryrKubernetes.Lbaas

open KuryrKubernetes.Data
open KuryrKubernetes.Effect

variable {Address W : Type} {knows : W → Resource → Prop} {supports : String → Bool}

/-! ## Pools, listeners and the load balancer -/

/-- The passes over pools, listeners and the load balancer have nothing to do. -/
structure LbaasState.Quiet (handler : LoadBalancerHandler Address W) (supports : String → Bool)
    (spec : ServiceSpec Address) (state : LbaasState Address) : Prop where
  addressed : state.Addressed spec
  present : spec.ports = [] ∨ state.loadbalancer ≠ none
  inSpec : ∀ pool ∈ state.pools, state.isPoolInSpec spec pool
  pooled : ∀ listener ∈ state.listeners, listener.id ∈ state.pools.map (·.listenerId)
  offered : ∀ port ∈ spec.ports, supports port.protocol →
    Offered handler.drvLbaas.doubleListenersSupported state.listeners port

section

variable {handler : LoadBalancerHandler Address W} {endpoints : Endpoints Address}
  {state : LbaasState Address} {spec : ServiceSpec Address}

theorem exec_removeUnusedMembers_of_targeted (complete : endpoints.Complete)
    (present : endpoints.subsets ≠ none)
    (targeted : ∀ member ∈ state.members,
      endpoints.Targets (state.specPorts spec) (member.target handler.format)) (world : W) :
    exec (handler.removeUnusedMembers endpoints state spec) world =
      (.ok (state, false), world) := by
  unfold LoadBalancerHandler.removeUnusedMembers
  unfold Endpoints.Complete at complete
  unfold Endpoints.Targets at targeted
  cases given : endpoints.subsets with
  | none => exact absurd given present
  | some subsets =>
      rw [given] at complete targeted
      rcases (currentTargets_isOk_iff (state.specPorts spec) subsets).mpr complete with
        ⟨targets, ran⟩
      have unused : (state.members.filter fun member =>
          !targets.contains (member.target handler.format)) = [] := by
        apply List.filter_eq_nil_iff.mpr
        intro member listed
        have among := (mem_currentTargets ran _).mpr (targeted member listed)
        simpa using among
      dsimp only
      rw [ran, settle_ok, exec_pure_bind, unused, exec_bind_of_ok (exec_forM_nil _ world)]
      simp

theorem exec_removeUnusedPools_of_inSpec
    (inSpec : ∀ pool ∈ state.pools, state.isPoolInSpec spec pool) (world : W) :
    exec (handler.removeUnusedPools state spec) world = (.ok (state, false), world) := by
  unfold LoadBalancerHandler.removeUnusedPools
  have unused : (state.pools.filter fun pool => !state.isPoolInSpec spec pool) = [] := by
    apply List.filter_eq_nil_iff.mpr
    intro pool listed
    simpa using inSpec pool listed
  rw [unused, exec_bind_of_ok (exec_forM_nil _ world)]
  simp

theorem exec_removeUnusedListeners_of_pooled
    (pooled : ∀ listener ∈ state.listeners, listener.id ∈ state.pools.map (·.listenerId))
    (world : W) :
    exec (handler.removeUnusedListeners state) world = (.ok (state, false), world) := by
  unfold LoadBalancerHandler.removeUnusedListeners
  have unused : (state.listeners.filter fun listener =>
      !(state.pools.map (·.listenerId)).contains listener.id) = [] := by
    apply List.filter_eq_nil_iff.mpr
    intro listener listed
    simpa using pooled listener listed
  dsimp only
  rw [unused, exec_bind_of_ok (exec_forM_nil _ world)]
  simp

theorem exec_syncLbaasLoadbalancer_of_addressed [DecidableEq Address]
    (addressed : state.Addressed spec) (world : W) :
    exec (handler.syncLbaasLoadbalancer endpoints state spec) world =
      (.ok (state, false), world) := by
  have released : exec (handler.releaseReplaced state spec) world =
      (.ok (state, false), world) := by
    unfold LoadBalancerHandler.releaseReplaced
    rcases addressed with ⟨lb, given, same⟩ | ⟨missing, _⟩
    · rw [given]
      dsimp only
      rw [if_pos same]
      rfl
    · rw [missing]
      rfl
  unfold LoadBalancerHandler.syncLbaasLoadbalancer
  rw [exec_bind_of_ok released]
  unfold LoadBalancerHandler.ensureLoadbalancer
  rcases addressed with ⟨lb, given, _⟩ | ⟨missing, unaddressed, private_⟩
  · rw [given]
    rfl
  · rw [missing, unaddressed, private_]
    rfl

/-- Ports that are offered need no listener, and others get none. -/
theorem exec_addListeners_of_offered {mayRaise : Prop}
    (answers : handler.Answers mayRaise knows supports) {ports : List PortSpec}
    (present : ports = [] ∨ state.loadbalancer ≠ none)
    (offered : ∀ port ∈ ports, supports port.protocol →
      Offered handler.drvLbaas.doubleListenersSupported state.listeners port)
    (changed : Bool) (world : W) :
    exec (handler.addListeners spec ports state changed) world =
      (.ok (state, changed), world) := by
  induction ports with
  | nil => rfl
  | cons port rest ih =>
      have there : state.loadbalancer ≠ none := present.resolve_left (List.cons_ne_nil port rest)
      have later := ih (.inr there) fun other listed =>
        offered other (List.mem_cons_of_mem port listed)
      unfold LoadBalancerHandler.addListeners
      split
      · rename_i missing
        exact absurd missing there
      · rename_i lb given
        split
        · exact later
        · rename_i absent
          split
          · exact later
          · rename_i free
            -- neither its listener nor another one with its number is there
            have refused : supports port.protocol = false := by
              rw [← Bool.not_eq_true]
              intro supported
              rcases offered port List.mem_cons_self supported with
                ⟨listener, listed, isFor⟩ | ⟨single, listener, listed, same⟩
              · apply absent
                rw [List.any_eq_true]
                exact ⟨listener, listed, isFor⟩
              · apply free
                rw [single]
                exact ⟨List.any_eq_true.mpr ⟨listener, listed, decide_eq_true same⟩, rfl⟩
            rw [exec_bind_of_ok (answers.unsupported lb _ _ spec.type refused world)]
            exact later

theorem exec_addNewPools_of_pooled
    (pooled : ∀ listener ∈ state.listeners, listener.id ∈ state.pools.map (·.listenerId))
    (world : W) : exec (handler.addNewPools state) world = (.ok (state, false), world) := by
  unfold LoadBalancerHandler.addNewPools
  have missing : (state.listeners.filter fun listener =>
      !(state.pools.map (·.listenerId)).contains listener.id) = [] := by
    apply List.filter_eq_nil_iff.mpr
    intro listener listed
    simpa using pooled listener listed
  dsimp only
  rw [missing]
  rfl

namespace LbaasState.Quiet

theorem exec_syncLbaasListeners [DecidableEq Address] {mayRaise : Prop}
    (quiet : LbaasState.Quiet handler supports spec state)
    (answers : handler.Answers mayRaise knows supports) (world : W) :
    exec (handler.syncLbaasListeners endpoints state spec) world =
      (.ok (state, false), world) := by
  unfold LoadBalancerHandler.syncLbaasListeners
  rw [exec_bind_of_ok (exec_removeUnusedListeners_of_pooled quiet.pooled world),
    exec_bind_of_ok (exec_syncLbaasLoadbalancer_of_addressed quiet.addressed world)]
  have sorted := List.mergeSort_perm spec.ports fun port other =>
    decide (port.protocol ≤ other.protocol)
  have added : exec (handler.addNewListeners spec state) world = (.ok (state, false), world) := by
    apply exec_addListeners_of_offered answers
    · apply quiet.present.imp_left
      intro none_
      rw [none_, List.mergeSort_nil]
    · intro port listed
      exact quiet.offered port (sorted.mem_iff.mp listed)
  rw [exec_bind_of_ok added]
  rfl

/-- The whole pass over the pools has nothing to do. -/
theorem exec_syncLbaasPools [DecidableEq Address] {mayRaise : Prop}
    (quiet : LbaasState.Quiet handler supports spec state)
    (answers : handler.Answers mayRaise knows supports) (world : W) :
    exec (handler.syncLbaasPools endpoints state spec) world = (.ok (state, false), world) := by
  unfold LoadBalancerHandler.syncLbaasPools
  rw [exec_bind_of_ok (exec_removeUnusedPools_of_inSpec quiet.inSpec world),
    exec_bind_of_ok (quiet.exec_syncLbaasListeners answers world),
    exec_bind_of_ok (exec_addNewPools_of_pooled quiet.pooled world)]
  rfl

end LbaasState.Quiet

/-! ## Members -/

/-- Targets that have their members, and those that are skipped, need none. -/
theorem exec_addMembers_of_served {lsnrById : Dict Nat Listener}
    {pools : Dict (Option String) Pool} {current : List (String × Nat × Nat)}
    {targets : List PodTarget}
    (served : ∀ target ∈ targets, ∀ pool, pools.get? target.port.name = some pool →
      handler.Skips target ∨ (target.ip, target.port.port, pool.id) ∈ current)
    (changed : Bool) (world : W) :
    exec (handler.addMembers lsnrById pools current targets state changed) world =
      (.ok (state, changed), world) := by
  induction targets with
  | nil => rfl
  | cons target rest ih =>
      have later := ih fun other among => served other (List.mem_cons_of_mem target among)
      unfold LoadBalancerHandler.addMembers
      split
      · exact later
      · rename_i pool found
        split
        · exact later
        · rename_i missing
          rcases served target List.mem_cons_self pool found with
            ⟨podSubnet, mode, gone⟩ | there
          · have skipped : handler.memberSubnetId state target = .ok none := by
              unfold LoadBalancerHandler.memberSubnetId
              rw [mode]
              dsimp only
              rw [gone]
            rw [skipped, settle_ok, exec_pure_bind]
            exact later
          · rw [List.contains_eq_mem, decide_eq_true_eq] at missing
            exact absurd there missing

/-- The answer about the security groups is the one that the load balancer has. -/
theorem exec_syncLbaasSgs_of_groups
    (answer : (∃ groups, handler.securityGroups = .ok groups ∧ ∃ lb,
        state.loadbalancer = some lb ∧ lb.securityGroups = groups) ∨
      handler.securityGroups = .error .k8sResourceNotFound) (world : W) :
    exec (handler.syncLbaasSgs state) world = (.ok state, world) := by
  unfold LoadBalancerHandler.syncLbaasSgs
  rcases answer with ⟨groups, found, lb, there, rfl⟩ | gone
  · rw [found, there]
    dsimp only
    rw [← there]
    rfl
  · rw [gone]
    rfl

theorem exec_addNewMembers_of_served {pools : Dict (String × Nat) Pool}
    (answer : (∃ groups, handler.securityGroups = .ok groups ∧ ∃ lb,
        state.loadbalancer = some lb ∧ lb.securityGroups = groups) ∨
      handler.securityGroups = .error .k8sResourceNotFound)
    (built : state.poolByLsnrPort = .ok pools)
    (served : ∀ target ∈ endpoints.podTargets, ∀ pool,
      (poolByTgtName pools spec.ports).get? target.port.name = some pool →
      handler.Skips target ∨ (target.ip, target.port.port, pool.id) ∈
        state.members.map fun member =>
          (handler.format.str member.ip, member.port, member.poolId)) (world : W) :
    exec (handler.addNewMembers endpoints state spec) world = (.ok (state, false), world) := by
  unfold LoadBalancerHandler.addNewMembers
  rw [exec_bind_of_ok (exec_syncLbaasSgs_of_groups answer world), built, settle_ok,
    exec_pure_bind]
  exact exec_addMembers_of_served served false world

/-- Where the removal pass reports no change, all members are targets. -/
theorem targets_of_removeUnusedMembers {world final : W} {result : LbaasState Address × Bool}
    (ran : exec (handler.removeUnusedMembers endpoints state spec) world = (.ok result, final))
    (unchanged : result.2 = false) : ∀ member ∈ state.members,
      endpoints.Targets (state.specPorts spec) (member.target handler.format) := by
  unfold LoadBalancerHandler.removeUnusedMembers at ran
  unfold Endpoints.Targets
  cases given : endpoints.subsets with
  | none =>
      rw [given] at ran
      cases ran
  | some subsets =>
      rw [given] at ran
      rcases exec_bind_eq_ok ran with ⟨targets, _, collecting, later⟩
      have collected : currentTargets (state.specPorts spec) subsets = .ok targets := by
        cases ended : currentTargets (state.specPorts spec) subsets with
        | ok found =>
            rw [ended, settle_ok, exec_pure] at collecting
            cases collecting
            rfl
        | error exception =>
            rw [ended] at collecting
            cases collecting
      rcases exec_bind_eq_ok later with ⟨_, _, _, ended⟩
      rw [exec_pure] at ended
      cases ended
      intro member listed
      apply (mem_currentTargets collected _).mp
      by_contra missing
      have unused : member ∈ state.members.filter fun member =>
          !targets.contains (member.target handler.format) :=
        List.mem_filter.mpr ⟨listed, by simpa using missing⟩
      rw [Bool.not_eq_false', List.isEmpty_iff, List.map_eq_nil_iff] at unchanged
      rw [unchanged] at unused
      cases unused

theorem podTargets_of_not_hasPods (none_ : ¬endpoints.hasPods) : endpoints.podTargets = [] := by
  apply List.eq_nil_iff_forall_not_mem.mpr
  intro target among
  apply none_
  rcases List.mem_flatMap.mp among with ⟨subset, inSubsets, inSubset⟩
  rcases List.mem_flatMap.mp inSubset with ⟨address, listed, atAddress⟩
  apply List.any_eq_true.mpr ⟨subset, inSubsets, _⟩
  apply List.any_eq_true.mpr ⟨address, listed, _⟩
  unfold EndpointAddress.podTargets at atAddress
  unfold EndpointAddress.isPod
  split at atAddress
  · rfl
  · cases atAddress

end

end KuryrKubernetes.Lbaas
