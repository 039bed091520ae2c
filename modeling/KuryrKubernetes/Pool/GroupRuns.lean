import KuryrKubernetes.Pool.Exclusive
import KuryrKubernetes.Pool.SecurityGroups

/-!
# Security groups over whole runs

A run keeps the pools truthful unless it updates the groups of a port that is
back in its pool, or releases such a port once more, so that it is listed twice.
-/

namespace KuryrKubernetes.Pool

open KuryrKubernetes.Data
open KuryrKubernetes.Effect
open KuryrKubernetes.Transition

/-- Two lists name the same groups. -/
def SameGroups (first second : List String) : Prop :=
  (∀ group ∈ first, group ∈ second) ∧ ∀ group ∈ second, group ∈ first

instance (first second : List String) : Decidable (SameGroups first second) :=
  inferInstanceAs (Decidable (_ ∧ _))

instance (defaults groups : List String) : Decidable (Promised defaults groups) :=
  inferInstanceAs (Decidable (_ ∨ _))

/-- Giving `groups` to a port agrees with a listing. -/
def Agrees (defaults : List String) (port : String) (groups : List String) :
    SgKey × String → Prop
  | (some key, listed) => listed = port → Promised defaults key → SameGroups groups key
  | (none, _) => True

instance (defaults : List String) (port : String) (groups : List String)
    (listing : SgKey × String) : Decidable (Agrees defaults port groups listing) :=
  match listing with
  | (some key, listed) =>
      inferInstanceAs (Decidable (listed = port → Promised defaults key → SameGroups groups key))
  | (none, _) => .isTrue trivial

/-- The actions that keep pooled ports and their groups together: no release of a
port that is back in its pool, no update of the groups of such a port to others,
and no recovery into pools that hold ports. -/
def KeepsGroups (defaults : List String) (state : State) : Action → Prop
  | .populatePool answers .. => answers.defaultGroups = defaults
  | .releaseVif _ _ vif _ => state.world.available vif.id = 0
  | .recoverPools _ => state.world.Emptied
  | .updateVifSgs _ pod securityGroups =>
      ∀ podState ∈ pod.podState, ∀ listing ∈ state.world.listings,
        Agrees defaults podState.defaultVif.id securityGroups listing
  | _ => True

instance (defaults : List String) (state : State) (action : Action) :
    Decidable (KeepsGroups defaults state action) :=
  match action with
  | .populatePool answers .. => inferInstanceAs (Decidable (answers.defaultGroups = defaults))
  | .releaseVif _ _ vif _ => inferInstanceAs (Decidable (state.world.available vif.id = 0))
  | .recoverPools _ => inferInstanceAs (Decidable state.world.Emptied)
  | .updateVifSgs _ pod _ =>
      inferInstanceAs (Decidable (∀ podState ∈ pod.podState, _))
  | .requestVif .. | .triggerReturnToPool .. | .restart | .syncPools
  | .removeSgFromPools .. | .changePort .. => .isTrue trivial

/-- The invariant of these runs. -/
structure GroupsKept (defaults : List String) (world : World) : Prop where
  once : ∀ port, world.pooled port ≤ 1
  truthful : Truthful defaults world

namespace GroupsKept

variable {defaults : List String} {world after : World}

theorem listedOnce (kept : GroupsKept defaults world) (port : String) :
    world.available port ≤ 1 :=
  (Nat.le_add_right _ _).trans (kept.once port)

/-- Without ports there is nothing to promise. -/
theorem of_emptied (empty : world.Emptied) : GroupsKept defaults world :=
  ⟨fun port => (empty.pooled_eq_zero port).le.trans (Nat.zero_le 1),
    fun _ _ listed => absurd listed (empty.unlisted _ _)⟩

theorem of_gains {ids : List String} (kept : GroupsKept defaults world)
    (distinct : ids.Nodup) (nowhere : ∀ port ∈ ids, world.pooled port = 0)
    (gains : ∀ port, Gains port (ids.count port) world after) (port : String) :
    after.pooled port ≤ 1 := by
  have bounded := kept.once port
  have more := (gains port).available
  have same := (gains port).recycling
  simp only [World.pooled] at *
  by_cases member : port ∈ ids
  · have free := nowhere port member
    have single := List.nodup_iff_count_le_one.mp distinct port
    omega
  · rw [List.count_eq_zero.mpr member] at more
    omega

theorem requestVif {driver : Driver} {options : Options} {answers : Answers} {pod : Pod}
    {projectId : String} {subnets : Dict String Network} {securityGroups : List String}
    {outcome : Except PyException (Option Vif)}
    (kept : GroupsKept defaults world)
    (ran : exec (Pool.requestVif driver options answers pod projectId subnets securityGroups)
      world = (outcome, after)) : GroupsKept defaults after := by
  refine ⟨fun port => ?_, (requestVif_truthful ran kept.truthful kept.listedOnce).1⟩
  obtain ⟨recycling, available⟩ := requestVif_accounts ran port
  have bounded := kept.once port
  simp only [World.pooled] at *
  omega

theorem releaseVif (driver : Driver) (answers : Answers) (pod : Pod) {vif : Vif}
    (projectId : String) (kept : GroupsKept defaults world)
    (free : world.available vif.id = 0) :
    GroupsKept defaults (exec (Pool.releaseVif driver answers pod vif projectId) world).2 := by
  constructor
  · intro port
    obtain ⟨available, recycling, _⟩ :=
      releaseVif_accounts driver answers pod vif projectId world port
    have bounded := kept.once port
    have waiting := (exec (Pool.releaseVif driver answers pod vif projectId) world).2
      |>.recycling_le_one port
    simp only [World.pooled] at *
    by_cases same : port = vif.id
    · subst port
      omega
    · rw [recycling same, available]
      exact bounded
  · exact kept.truthful.files (releaseVif_files driver answers pod vif projectId world)
      fun _ => False.elim

theorem updateVifSgs {answers : Answers} {pod : Pod} {securityGroups : List String}
    (kept : GroupsKept defaults world)
    (agrees : ∀ podState ∈ pod.podState, ∀ listing ∈ world.listings,
      Agrees defaults podState.defaultVif.id securityGroups listing) :
    GroupsKept defaults (exec (Pool.updateVifSgs answers pod securityGroups) world).2 := by
  refine ⟨fun port => (pooled_le_of_gains_zero (Gains.of_pools_eq 0
    (updateVifSgs_keepsPools answers pod securityGroups world))).trans (kept.once port), ?_⟩
  unfold Pool.updateVifSgs
  cases annotated : pod.podState with
  | none => exact kept.truthful
  | some podState =>
      have pools := updatePortGroups_keepsPools answers podState.defaultVif.id securityGroups
        world
      have groups := updatePortGroups_keepsGroups answers podState.defaultVif.id
        securityGroups world
      rcases ran : exec (updatePortGroups answers podState.defaultVif.id securityGroups)
        world with ⟨outcome, after⟩
      rw [ran] at pools groups
      cases outcome with
      | error exception =>
          have unchanged : after = world := updatePortGroups_error ran
          rw [unchanged]
          exact kept.truthful
      | ok value =>
          intro key port listed promised
          rw [World.listings_of_pools_eq pools] at listed
          by_cases same : port = podState.defaultVif.id
          · subst port
            have matching := agrees podState annotated _ listed rfl promised
            exact ⟨securityGroups, updatePortGroups_ok ran,
              fun group => ⟨matching.1 group, matching.2 group⟩⟩
          · exact (kept.truthful key port listed promised).of_groupsOf_eq (groups port same)

theorem changePort (port : String) (record : NeutronPort)
    (kept : GroupsKept defaults world) : GroupsKept defaults (world.changePort port record) := by
  refine ⟨kept.once, fun key other listed promised => ?_⟩
  obtain ⟨current, known, exactly⟩ := kept.truthful key other listed promised
  refine ⟨current, ?_, exactly⟩
  cases found : world.neutron.get? port with
  | none =>
      simp only [World.groupsOf, World.changePort, found, Dict.get?_set] at known ⊢
      split
      · rename_i same
        rw [same, found] at known
        cases known
      · exact known
  | some old =>
      simp only [World.groupsOf, World.changePort, found, Dict.get?_set] at known ⊢
      split
      · rename_i same
        rw [same, found] at known
        exact known
      · exact known

end GroupsKept

/-- One action keeps pooled ports and their groups together. -/
theorem groupsKept_preserved (driver : Driver) (options : Options) (defaults : List String) :
    PreservedBy (step driver options) (KeepsGroups defaults)
      fun state => GroupsKept defaults state.world := by
  intro source label target allowed kept taken
  cases label with
  | requestVif answers pod projectId subnets securityGroups =>
      cases taken
      exact kept.requestVif rfl
  | populatePool answers now poolKey pod subnets securityGroups =>
      simp only [step, Option.ite_none_right_eq_some, Option.some.injEq] at taken
      obtain ⟨⟨distinct, unused⟩, rfl⟩ := taken
      have nowhere (port : String) (member : port ∈ answers.newPortIds) :
          source.world.pooled port = 0 := by
        obtain ⟨_, available, recycling, _⟩ := unused port member
        rw [World.pooled, available, recycling]
      refine ⟨kept.of_gains distinct nowhere (populatePool_gains driver options answers now
        poolKey pod subnets securityGroups source.world), ?_⟩
      refine kept.truthful.files (populatePool_files allowed driver options now poolKey pod
        subnets securityGroups source.world) fun port member => ?_
      exact World.unlisted_of_available (unused port member).2.1
  | releaseVif answers pod vif projectId =>
      cases taken
      exact kept.releaseVif driver answers pod projectId allowed
  | triggerReturnToPool answers =>
      cases taken
      exact ⟨fun port => (triggerReturnToPool_accounts driver options answers source.world
        port).trans (kept.once port),
        triggerReturnToPool_truthful driver options answers kept.truthful kept.once⟩
  | restart =>
      cases taken
      exact GroupsKept.of_emptied ⟨rfl, rfl⟩
  | syncPools =>
      cases taken
      exact GroupsKept.of_emptied ⟨rfl, rfl⟩
  | recoverPools answers =>
      cases taken
      exact ⟨kept.of_gains (nodup_recoveredIds driver options answers source.world.neutron)
        (fun port _ => allowed.pooled_eq_zero port)
        (recoverPools_gains driver options answers source.world),
        recoverPools_truthful driver kept.truthful allowed⟩
  | removeSgFromPools answers sgId netId =>
      cases taken
      exact ⟨fun port => (pooled_le_of_gains_zero (removeSgFromPools_gains answers sgId netId
        source.world port)).trans (kept.once port),
        removeSgFromPools_truthful answers sgId netId kept.truthful kept.listedOnce⟩
  | updateVifSgs answers pod securityGroups =>
      cases taken
      exact kept.updateVifSgs allowed
  | changePort port record =>
      cases taken
      exact kept.changePort port record

/-- What the pools promise about security groups: a filed port carries its key, and a
request is answered with a port that carries the groups of the request. -/
structure CarriesGroups (driver : Driver) (options : Options) (defaults : List String)
    (world : World) : Prop where
  filed : Truthful defaults world
  requested : ∀ answers pod projectId subnets securityGroups vif after,
    exec (requestVif driver options answers pod projectId subnets securityGroups) world =
      (.ok (some vif), after) → Promised defaults securityGroups →
        after.Carries vif.id securityGroups

/-- In every run whose releases, updates and recoveries are proper, pooled ports and
the ports handed out carry the groups they should. -/
theorem pooled_ports_carry_groups {driver : Driver} {options : Options}
    {defaults : List String} {neutron : Dict String NeutronPort} {labels : List Action}
    {target : State}
    (guarded : GuardedRun (step driver options) (KeepsGroups defaults) (initial neutron)
      labels target) : CarriesGroups driver options defaults target.world := by
  have kept := guarded.invariant (groupsKept_preserved driver options defaults)
    (GroupsKept.of_emptied ⟨rfl, rfl⟩)
  refine ⟨kept.truthful, ?_⟩
  intro answers pod projectId subnets securityGroups vif after ran promised
  exact (requestVif_truthful ran kept.truthful kept.listedOnce).2 vif rfl promised

/-! ## A stale update -/

/-- Pod `a` with the only port in its annotation. -/
def annotatedPod : Pod :=
  { scheduledPod "a" with vifAnnotation := some { defaultVif := onlyVif } }

/-- A port is created for group `g`, handed to pod `a`, released and recycled.
The policy handler, which has read the pod before, then gives the port group `h`. -/
def staleUpdate : List Action :=
  [.syncPools, .recoverPools {},
    .populatePool { newPortIds := ["port"], defaultGroups := ["default"] } 100
      ⟨"node", "project", some "network"⟩ (scheduledPod "a") oneSubnet ["g"],
    .requestVif {} (scheduledPod "a") "project" oneSubnet ["g"],
    .releaseVif {} (scheduledPod "a") onlyVif "project", .triggerReturnToPool {},
    .updateVifSgs {} annotatedPod ["h"]]

/-- The next pod asks for group `g`. -/
def nextRequest (world : World) : Except PyException (Option Vif) × World :=
  exec (requestVif .neutron onePort {} (scheduledPod "b") "project" oneSubnet ["g"]) world

/-- Up to the recycling the run is proper, and the port returns under its group. -/
theorem pooled_ports_carry_groups_recycled :
    ∃ target, run (step .neutron onePort) (staleUpdate.take 6) (initial ∅) = some target ∧
      target.world.listings = [(some ["g"], "port")] ∧
      CarriesGroups .neutron onePort ["default"] target.world := by
  have executed : ((runIf (step .neutron onePort) (KeepsGroups ["default"])
      (staleUpdate.take 6) (initial ∅)).map fun target => target.world.listings) =
        some [(some ["g"], "port")] := by decide
  obtain ⟨target, reached, listed⟩ := Option.map_eq_some_iff.mp executed
  have guarded := guardedRun_of_runIf reached
  exact ⟨target, guarded.run_eq_some, listed, pooled_ports_carry_groups guarded⟩

theorem staleUpdate_nextRequest :
    (run (step .neutron onePort) staleUpdate (initial ∅)).map (fun target =>
      (handedPort (nextRequest target.world).1,
        (nextRequest target.world).2.groupsOf "port")) =
      some (some "port", some ["h"]) := by
  decide

/-- Not every run hands out ports with the groups of the request. -/
theorem pooled_ports_not_always_carry_groups :
    ¬ ∀ (driver : Driver) (options : Options) (neutron : Dict String NeutronPort)
      (labels : List Action) (target : State),
      run (step driver options) labels (initial neutron) = some target →
        CarriesGroups driver options ["default"] target.world := by
  intro always
  obtain ⟨target, reached, answered⟩ := Option.map_eq_some_iff.mp staleUpdate_nextRequest
  obtain ⟨handed, groups⟩ := Prod.mk.inj answered
  have promise := (always .neutron onePort ∅ staleUpdate target reached).requested
    {} (scheduledPod "b") "project" oneSubnet ["g"]
  rcases ran : nextRequest target.world with ⟨outcome, after⟩
  rw [ran] at handed groups
  match outcome, handed with
  | .ok (some vif), handed =>
      obtain ⟨current, known, exactly⟩ := promise vif after ran (.inl (by decide))
      rw [Option.some.inj handed, groups] at known
      cases known
      exact absurd ((exactly "g").mpr (by decide)) (by decide)

end KuryrKubernetes.Pool
