import KuryrKubernetes.Pool.System

/-!
# A port is in one place

A port is available once, waits for recycling, or is held by one pod, and only
one of these.  Every action keeps that, except a release of a port that is back
in its pool or with another pod already, and a recovery that finds ports which
are not free.
-/

namespace KuryrKubernetes.Pool

open KuryrKubernetes.Data
open KuryrKubernetes.Effect
open KuryrKubernetes.Transition

/-- How many pods hold a port. -/
def State.holders (state : State) (port : String) : Nat :=
  (state.handed.map Prod.fst).count port

/-- What a driver promises about the ports it manages. -/
structure Exclusive (state : State) : Prop where
  listedOnce : ∀ port, state.world.available port ≤ 1
  notHeld : ∀ port pod, (port, pod) ∈ state.handed → state.world.available port = 0
  onePod : ∀ port pod other, (port, pod) ∈ state.handed → (port, other) ∈ state.handed →
    pod = other

/-- The inductive form of the promise: all places of a port are counted. -/
def OnePlace (state : State) : Prop :=
  ∀ port, state.world.available port + state.world.recycling port + state.holders port ≤ 1

/-- The releases and recoveries that concern free or held ports only as they
should. -/
def KeepsPlaces (driver : Driver) (options : Options) (state : State) : Action → Prop
  | .releaseVif _ pod vif _ =>
      state.world.available vif.id = 0 ∧
        ∀ held ∈ state.handed, held.1 = vif.id → held.2 = pod.uid
  | .recoverPools answers =>
      ∀ port ∈ recoveredIds driver options answers state.world.neutron,
        state.world.available port = 0 ∧ state.world.recycling port = 0 ∧
          port ∉ state.handed.map Prod.fst
  | _ => True

instance (driver : Driver) (options : Options) (state : State) (action : Action) :
    Decidable (KeepsPlaces driver options state action) :=
  match action with
  | .releaseVif .. => inferInstanceAs (Decidable (_ ∧ ∀ held ∈ state.handed, _))
  | .recoverPools answers =>
      inferInstanceAs (Decidable
        (∀ port ∈ recoveredIds driver options answers state.world.neutron, _ ∧ _ ∧ _))
  | .requestVif .. | .populatePool .. | .triggerReturnToPool .. | .restart | .syncPools
  | .removeSgFromPools .. | .updateVifSgs .. | .changePort .. => .isTrue trivial

theorem holders_eq_zero_iff {state : State} {port : String} :
    state.holders port = 0 ↔ ∀ pod, (port, pod) ∉ state.handed := by
  rw [State.holders, List.count_eq_zero]
  constructor
  · intro absent pod member
    exact absent (List.mem_map.mpr ⟨(port, pod), member, rfl⟩)
  · intro absent member
    obtain ⟨⟨_, pod⟩, listed, rfl⟩ := List.mem_map.mp member
    exact absent pod listed

theorem eq_of_count_fst_le_one {handed : List (String × String)} {port pod other : String}
    (once : (handed.map Prod.fst).count port ≤ 1) (first : (port, pod) ∈ handed)
    (second : (port, other) ∈ handed) : pod = other := by
  induction handed with
  | nil => cases first
  | cons pair rest ih =>
      rw [List.map_cons, List.count_cons] at once
      have elsewhere {uid : String} (member : (port, uid) ∈ rest) :
          0 < (rest.map Prod.fst).count port :=
        List.count_pos_iff.mpr (List.mem_map.mpr ⟨_, member, rfl⟩)
      rcases List.mem_cons.mp first with rfl | first <;>
        rcases List.mem_cons.mp second with same | second
      · cases same
        rfl
      · have more := elsewhere second
        simp only [beq_self_eq_true, ite_true] at once
        omega
      · have more := elsewhere first
        simp only [← same, beq_self_eq_true, ite_true] at once
        omega
      · exact ih (by omega) first second

theorem OnePlace.exclusive {state : State} (places : OnePlace state) : Exclusive state := by
  constructor
  · intro port
    have bounded := places port
    omega
  · intro port pod member
    have bounded := places port
    have held : state.holders port ≠ 0 := fun none =>
      holders_eq_zero_iff.mp none pod member
    omega
  · intro port pod other first second
    have bounded := places port
    have once : state.holders port ≤ 1 := by omega
    exact eq_of_count_fst_le_one once first second

theorem onePlace_initial (neutron : Dict String NeutronPort) : OnePlace (initial neutron) :=
  fun _ => Nat.zero_le 1

/-- A step that changes no holder and gains nothing keeps every port in its place. -/
theorem OnePlace.of_pooled_le {state : State} {world : World} (places : OnePlace state)
    (fewer : ∀ port, world.pooled port ≤ state.world.pooled port) :
    OnePlace { state with world := world } := by
  intro port
  have bounded := places port
  have less := fewer port
  simp only [World.pooled, State.holders] at *
  omega

/-- A step that gains ports which were nowhere. -/
theorem OnePlace.of_gains {state : State} {world : World} {ids : List String}
    (places : OnePlace state) (distinct : ids.Nodup)
    (nowhere : ∀ port ∈ ids, state.world.available port + state.world.recycling port +
      state.holders port = 0)
    (gains : ∀ port, Gains port (ids.count port) state.world world) :
    OnePlace { state with world := world } := by
  intro port
  have bounded := places port
  have gained := gains port
  have more := gained.available
  rw [State.holders] at *
  simp only [gained.recycling]
  by_cases member : port ∈ ids
  · have free := nowhere port member
    have once := List.nodup_iff_count_le_one.mp distinct port
    rw [State.holders] at free
    omega
  · rw [List.count_eq_zero.mpr member] at more
    omega

theorem OnePlace.requestVif {state : State} {pod : Pod}
    {result : Except PyException (Option Vif) × World} (places : OnePlace state)
    (accounts : ∀ port, result.2.recycling port = state.world.recycling port ∧
      result.2.available port + (if handedPort result.1 = some port then 1 else 0) ≤
        state.world.available port) :
    OnePlace (state.handOut pod result) := by
  intro port
  have bounded := places port
  obtain ⟨recycling, available⟩ := accounts port
  cases handed : handedPort result.1 with
  | none =>
      simp only [State.handOut, State.holders, handed, recycling] at *
      simp only [reduceCtorEq, ite_false] at available
      omega
  | some taken =>
      simp only [State.handOut, State.holders, handed, recycling, List.map_cons,
        List.count_cons, beq_iff_eq, Option.some.injEq] at *
      omega

theorem OnePlace.releaseVif {state : State} {pod : Pod} {vif : Vif}
    {result : Except PyException Unit × World} (places : OnePlace state)
    (free : state.world.available vif.id = 0)
    (own : ∀ held ∈ state.handed, held.1 = vif.id → held.2 = pod.uid)
    (accounts : ∀ port, result.2.available port = state.world.available port ∧
      (port ≠ vif.id → result.2.recycling port = state.world.recycling port) ∧
      (∀ exception, result.1 = .error exception → result.2 = state.world)) :
    OnePlace (state.takeBack pod vif result) := by
  rcases result with ⟨outcome, world⟩
  cases outcome with
  | error exception =>
      have unchanged := (accounts vif.id).2.2 exception rfl
      simp only at unchanged
      subst unchanged
      exact places
  | ok value =>
      intro port
      have bounded := places port
      obtain ⟨available, recycling, _⟩ := accounts port
      have fewer : ((state.handed.filter (· ≠ (vif.id, pod.uid))).map Prod.fst).count port ≤
          state.holders port :=
        (List.Sublist.map Prod.fst List.filter_sublist).count_le port
      simp only [State.takeBack, State.holders] at *
      by_cases same : port = vif.id
      · subst port
        have gone : ((state.handed.filter (· ≠ (vif.id, pod.uid))).map Prod.fst).count
            vif.id = 0 := by
          rw [List.count_eq_zero]
          intro member
          obtain ⟨⟨id, other⟩, listed, rfl⟩ := List.mem_map.mp member
          have kept := List.mem_filter.mp listed
          have mine : other = pod.uid := own _ kept.1 rfl
          simp [mine] at kept
        have waiting := world.recycling_le_one vif.id
        omega
      · rw [recycling same]
        omega

theorem updateVifSgs_keepsPools (answers : Answers) (pod : Pod)
    (securityGroups : List String) :
    poolsFrame.Keeps (updateVifSgs answers pod securityGroups) := by
  unfold updateVifSgs
  cases pod.podState with
  | none => exact Frame.keeps_pure _
  | some state => exact updatePortGroups_keepsPools answers _ securityGroups

theorem pooled_le_of_gains_zero {port : String} {before after : World}
    (gains : Gains port 0 before after) : after.pooled port ≤ before.pooled port := by
  have available := gains.available
  have recycling := gains.recycling
  simp only [World.pooled]
  omega

/-- One action keeps every port in one place. -/
theorem onePlace_preserved (driver : Driver) (options : Options) :
    PreservedBy (step driver options) (KeepsPlaces driver options) OnePlace := by
  intro source label target allowed places taken
  cases label with
  | requestVif answers pod projectId subnets securityGroups =>
      cases taken
      exact places.requestVif fun port => requestVif_accounts rfl port
  | populatePool answers now poolKey pod subnets securityGroups =>
      simp only [step, Option.ite_none_right_eq_some, Option.some.injEq] at taken
      obtain ⟨⟨distinct, unused⟩, rfl⟩ := taken
      refine places.of_gains distinct (fun port member => ?_) fun port =>
        populatePool_gains driver options answers now poolKey pod subnets securityGroups
          source.world port
      obtain ⟨_, available, recycling, unheld⟩ := unused port member
      rw [available, recycling, State.holders, List.count_eq_zero.mpr unheld]
  | releaseVif answers pod vif projectId =>
      cases taken
      exact places.releaseVif allowed.1 allowed.2 fun port =>
        releaseVif_accounts driver answers pod vif projectId source.world port
  | triggerReturnToPool answers =>
      cases taken
      exact places.of_pooled_le fun port =>
        triggerReturnToPool_accounts driver options answers source.world port
  | restart =>
      cases taken
      exact places.of_pooled_le fun port => Nat.zero_le _
  | syncPools =>
      cases taken
      exact places.of_pooled_le fun port => Nat.zero_le _
  | recoverPools answers =>
      cases taken
      refine places.of_gains
        (nodup_recoveredIds driver options answers source.world.neutron)
        (fun port member => ?_) fun port =>
          recoverPools_gains driver options answers source.world port
      obtain ⟨available, recycling, unheld⟩ := allowed port member
      rw [available, recycling, State.holders, List.count_eq_zero.mpr unheld]
  | removeSgFromPools answers sgId netId =>
      cases taken
      exact places.of_pooled_le fun port => pooled_le_of_gains_zero
        (removeSgFromPools_gains answers sgId netId source.world port)
  | updateVifSgs answers pod securityGroups =>
      cases taken
      exact places.of_pooled_le fun port => pooled_le_of_gains_zero
        (Gains.of_pools_eq 0 (updateVifSgs_keepsPools answers pod securityGroups
          source.world))
  | changePort port record =>
      cases taken
      exact places.of_pooled_le fun port => le_refl _

/-- In every run whose releases and recoveries are proper, each port is listed at
most once, no held port is listed, and no port is held by two pods. -/
theorem ports_exclusive {driver : Driver} {options : Options}
    {neutron : Dict String NeutronPort} {labels : List Action} {target : State}
    (guarded : GuardedRun (step driver options) (KeepsPlaces driver options)
      (initial neutron) labels target) : Exclusive target :=
  (guarded.invariant (onePlace_preserved driver options) (onePlace_initial neutron)).exclusive

/-! ## A repeated release -/

/-- A scheduled pod. -/
def scheduledPod (uid : String) : Pod where
  name := uid
  namespaceName := "default"
  uid := uid
  nodeName := some "node"
  phase := some "Pending"

/-- One subnet. -/
def oneSubnet : Dict String Network :=
  (∅ : Dict String Network).set "subnet" ⟨"network"⟩

/-- Pools of one port. -/
def onePort : Options where
  portsPoolMin := 1
  portsPoolBatch := 1

/-- The VIF of the only port. -/
def onlyVif : Vif where
  id := "port"
  network := ⟨"network"⟩

/-- A port is created, handed to pod `a`, released and recycled.  The release of
`a` is retried, and after the next recycling pods `b` and `c` ask for ports. -/
def retriedRelease : List Action :=
  [.syncPools, .recoverPools {},
    .populatePool { newPortIds := ["port"] } 100 ⟨"node", "project", some "network"⟩
      (scheduledPod "a") oneSubnet ["group"],
    .requestVif {} (scheduledPod "a") "project" oneSubnet ["group"],
    .releaseVif {} (scheduledPod "a") onlyVif "project", .triggerReturnToPool {},
    .releaseVif {} (scheduledPod "a") onlyVif "project", .triggerReturnToPool {},
    .requestVif {} (scheduledPod "b") "project" oneSubnet ["group"],
    .requestVif {} (scheduledPod "c") "project" oneSubnet ["group"]]

/-- The two pods hold the same port. -/
theorem retriedRelease_handed :
    (run (step .neutron onePort) retriedRelease (initial ∅)).map State.handed =
      some [("port", "c"), ("port", "b")] := by
  decide

/-- Not every run keeps the ports exclusive. -/
theorem ports_not_always_exclusive :
    ¬ ∀ (driver : Driver) (options : Options) (neutron : Dict String NeutronPort)
      (labels : List Action) (target : State),
      run (step driver options) labels (initial neutron) = some target →
        Exclusive target := by
  intro always
  obtain ⟨target, reached, handed⟩ := Option.map_eq_some_iff.mp retriedRelease_handed
  have exclusive := always .neutron onePort ∅ retriedRelease target reached
  have same := exclusive.onePod "port" "c" "b" (by simp [handed]) (by simp [handed])
  exact absurd same (by decide)

/-- Up to the first recycling the releases are proper. -/
theorem ports_exclusive_once_released :
    ∃ target, run (step .neutron onePort) (retriedRelease.take 6) (initial ∅) = some target ∧
      target.world.available "port" = 1 ∧ Exclusive target := by
  have executed : ((runIf (step .neutron onePort) (KeepsPlaces .neutron onePort)
      (retriedRelease.take 6) (initial ∅)).map fun target =>
        target.world.available "port") = some 1 := by decide
  obtain ⟨target, reached, listed⟩ := Option.map_eq_some_iff.mp executed
  have guarded := guardedRun_of_runIf reached
  exact ⟨target, guarded.run_eq_some, listed, ports_exclusive guarded⟩

end KuryrKubernetes.Pool
