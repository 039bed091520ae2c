import KuryrKubernetes.Pool.Filing
import KuryrKubernetes.Pool.System

/-!
# Pooled ports carry the groups they are filed under

A pool is truthful when every port filed under a list of groups has exactly
these groups in Neutron.  Ports created without groups get the default groups of
their project, so nothing is promised for the empty list unless there are none.
-/

namespace KuryrKubernetes.Pool

open KuryrKubernetes.Data
open KuryrKubernetes.Effect
open KuryrKubernetes.Transition

/-- The keys that say which groups a port has, in a project with the given
default groups. -/
def Promised (defaults groups : List String) : Prop :=
  groups ≠ [] ∨ defaults = []

/-- Ports carry the groups they are filed under. -/
def Truthful (defaults : List String) (world : World) : Prop :=
  ∀ groups port, (some groups, port) ∈ world.listings → Promised defaults groups →
    world.Carries port groups

/-- A port is in no list of any pool. -/
def World.Unlisted (world : World) (port : String) : Prop :=
  ∀ group, (group, port) ∉ world.listings

theorem World.unlisted_of_available {world : World} {port : String}
    (none : world.available port = 0) : world.Unlisted port := by
  intro group listed
  have positive := World.available_pos_of_listed listed
  omega

theorem World.Carries.of_groupsOf_eq {before after : World} {port : String}
    {groups : List String} (carries : before.Carries port groups)
    (same : after.groupsOf port = before.groupsOf port) : after.Carries port groups := by
  obtain ⟨current, known, exactly⟩ := carries
  exact ⟨current, same.trans known, exactly⟩

/-! ## Filing -/

/-- How an operation may change the pools: a port that is filed anew is exempt
and carries the groups of its key, and the other ports keep their groups. -/
structure Files (defaults : List String) (exempt : String → Prop) (before after : World) :
    Prop where
  listed : ∀ group port, (group, port) ∈ after.listings →
    (group, port) ∈ before.listings ∨
      (exempt port ∧ ∀ groups, group = some groups → Promised defaults groups →
        after.Carries port groups)
  kept : (groupsFrame exempt).rel before after

theorem Files.of_listings_eq {defaults : List String} {exempt : String → Prop}
    {before after : World} (same : after.listings = before.listings)
    (kept : (groupsFrame exempt).rel before after) : Files defaults exempt before after :=
  ⟨fun _ _ listed => .inl (same ▸ listed), kept⟩

/-- A truthful pool stays so when the exempt ports were not listed. -/
theorem Truthful.files {defaults : List String} {exempt : String → Prop}
    {before after : World} (truthful : Truthful defaults before)
    (files : Files defaults exempt before after)
    (unlisted : ∀ port, exempt port → before.Unlisted port) : Truthful defaults after := by
  intro groups port listed promised
  rcases files.listed (some groups) port listed with old | ⟨_, carries⟩
  · have kept := files.kept port fun exempted => unlisted port exempted _ old
    exact (truthful groups port old promised).of_groupsOf_eq kept
  · exact carries groups rfl promised

theorem Files.unlisted {defaults : List String} {exempt : String → Prop}
    {before after : World} {port : String} (files : Files defaults exempt before after)
    (unlisted : before.Unlisted port) (other : ¬exempt port) : after.Unlisted port := by
  intro group listed
  rcases files.listed group port listed with old | ⟨exempted, _⟩
  · exact unlisted group old
  · exact other exempted

/-- Loop rule: every turn files its own port at most, whose groups are the ones
known from the start of the loop. -/
theorem Truthful.forM {ι : Type} {defaults : List String} {body : ι → PoolM Unit}
    (id : ι → String) (known : ι → Option (List String)) {items : List ι} {world : World}
    (turn : ∀ item ∈ items, ∀ world, world.groupsOf (id item) = known item →
      Files defaults (· = id item) world (exec (body item) world).2)
    (truthful : Truthful defaults world)
    (distinct : (items.map id).Nodup)
    (unlisted : ∀ item ∈ items, world.Unlisted (id item))
    (unchanged : ∀ item ∈ items, world.groupsOf (id item) = known item) :
    Truthful defaults (exec (items.forM body) world).2 := by
  induction items generalizing world with
  | nil => exact truthful
  | cons item rest ih =>
      rw [List.map_cons, List.nodup_cons] at distinct
      have files := turn item List.mem_cons_self world (unchanged item List.mem_cons_self)
      have next : Truthful defaults (exec (body item) world).2 := by
        refine truthful.files files fun port same => ?_
        exact same ▸ unlisted item List.mem_cons_self
      have different {other : ι} (member : other ∈ rest) : id other ≠ id item := by
        intro same
        exact distinct.1 (same ▸ List.mem_map_of_mem member)
      rw [forM_cons_eq, exec_bind]
      rcases ran : exec (body item) world with ⟨outcome, middle⟩
      rw [ran] at files next
      cases outcome with
      | error exception => exact next
      | ok value =>
          refine ih (fun other member => turn other (List.mem_cons_of_mem _ member)) next
            distinct.2 (fun other member => ?_) fun other member => ?_
          · exact files.unlisted (unlisted other (List.mem_cons_of_mem _ member))
              (different member)
          · rw [files.kept _ (different member)]
            exact unchanged other (List.mem_cons_of_mem _ member)

/-! ## Requests -/

theorem refreshGroups_keepsGroups (answers : Answers) (securityGroups : List String)
    (port : String) (reused : Bool) :
    (groupsFrame (· = port)).Keeps (refreshGroups answers securityGroups port reused) :=
  Frame.Keeps.ite (updatePortGroups_keepsGroups _ _ _) (Frame.keeps_pure _)

theorem refreshName_keepsGroups (driver : Driver) (options : Options) (answers : Answers)
    (pod : Pod) (port : String) :
    allGroupsFrame.Keeps (refreshName driver options answers pod port) := by
  refine Frame.Keeps.ite ?_ (Frame.keeps_pure _)
  cases driver <;> exact updatePortName_keepsGroups _ _ _ _

theorem spawnWhenLow_keepsGroups (options : Options) (population : Population) :
    allGroupsFrame.Keeps (spawnWhenLow options population) :=
  keepsGroups_of_keepsNeutron (Frame.Keeps.bind (getPools_keeps _) fun _ =>
    Frame.Keeps.ite (Frame.keeps_modify fun _ => rfl) (Frame.keeps_pure _))

theorem preparePort_keepsGroups (driver : Driver) (options : Options) (answers : Answers)
    (population : Population) (port : String) (reused : Bool) :
    (groupsFrame (· = port)).Keeps
      (preparePort driver options answers population port reused) :=
  Frame.Keeps.bind (refreshGroups_keepsGroups _ _ _ _) fun _ =>
    keepsGroups_of_all (Frame.Keeps.bind (refreshName_keepsGroups _ _ _ _ _) fun _ =>
      Frame.Keeps.bind (spawnWhenLow_keepsGroups _ _) fun _ => existingVif_keeps _ port)

theorem refreshGroups_ok {answers : Answers} {securityGroups : List String}
    {port : String} {reused : Bool} {before after : World}
    (ran : exec (refreshGroups answers securityGroups port reused) before = (.ok ⟨⟩, after))
    (carried : reused = false → before.Carries port securityGroups) :
    after.Carries port securityGroups := by
  cases reused with
  | false =>
      cases ran
      exact carried rfl
  | true => exact ⟨securityGroups, updatePortGroups_ok ran, fun _ => Iff.rfl⟩

/-- A prepared port has the groups of the request. -/
theorem preparePort_carries {driver : Driver} {options : Options} {answers : Answers}
    {population : Population} {port : String} {reused : Bool} {before after : World}
    {vif : Vif}
    (ran : exec (preparePort driver options answers population port reused) before =
      (.ok vif, after))
    (carried : reused = false → before.Carries port population.securityGroups) :
    after.Carries port population.securityGroups := by
  obtain ⟨_, middle, refreshed, rest⟩ := exec_bind_eq_ok ran
  have kept : allGroupsFrame.Keeps (do
      refreshName driver options answers population.pod port
      spawnWhenLow options population
      existingVif port) :=
    Frame.Keeps.bind (refreshName_keepsGroups _ _ _ _ _) fun _ =>
      Frame.Keeps.bind (spawnWhenLow_keepsGroups _ _) fun _ => existingVif_keeps _ port
  have same := kept middle port id
  rw [rest] at same
  exact (refreshGroups_ok refreshed carried).of_groupsOf_eq same

/-- What `_get_port_from_pool` returns carries the groups of the request, and the
pools stay truthful. -/
theorem getPortFromPool_truthful {defaults : List String} {driver : Driver}
    {options : Options} {answers : Answers} {poolKey : PoolKey} {pod : Pod}
    {subnets : Dict String Network} {securityGroups : List String} {before after : World}
    {outcome : Except PyException Vif}
    (ran : exec (getPortFromPool driver options answers poolKey pod subnets securityGroups)
      before = (outcome, after))
    (truthful : Truthful defaults before)
    (once : ∀ port, before.available port ≤ 1) :
    Truthful defaults after ∧
      ∀ vif, outcome = .ok vif → Promised defaults securityGroups →
        after.Carries vif.id securityGroups := by
  rcases takePort_cases poolKey (some securityGroups) before with
    raised | ⟨pools, poolPorts, taken, left, reused, present, pool, selected, took⟩
  · rw [getPortFromPool, exec_bind_of_error raised] at ran
    cases ran
    exact ⟨truthful, fun _ result => by cases result⟩
  · rw [getPortFromPool, exec_bind_of_ok took] at ran
    obtain ⟨source, pop, requested⟩ := selectPort_eq_some selected
    have gone := available_takePort pool selected taken
    have single := once taken
    rw [World.available_of_pools present] at single
    have truthfulLeft : Truthful defaults (before.withPools (pools.setPool poolKey left)) := by
      intro groups port listed promised
      refine truthful groups port ?_ promised
      rw [World.listings_of_pools present]
      exact Pools.mem_listings_takePort pool pop listed
    have unlisted : World.Unlisted (before.withPools (pools.setPool poolKey left)) taken := by
      refine World.unlisted_of_available ?_
      rw [World.available_of_pools rfl]
      simp only [ite_true] at gone
      omega
    have files : Files defaults (· = taken) (before.withPools (pools.setPool poolKey left)) after := by
      have keptPools := preparePort_keepsPools driver options answers
        ⟨poolKey, pod, subnets, securityGroups⟩ taken reused
        (before.withPools (pools.setPool poolKey left))
      have keptGroups := preparePort_keepsGroups driver options answers
        ⟨poolKey, pod, subnets, securityGroups⟩ taken reused
        (before.withPools (pools.setPool poolKey left))
      rw [ran] at keptPools keptGroups
      exact Files.of_listings_eq (World.listings_of_pools_eq keptPools) keptGroups
    refine ⟨truthfulLeft.files files fun port same => same ▸ unlisted, ?_⟩
    intro vif result promised
    subst outcome
    rw [preparePort_ok ran]
    refine preparePort_carries ran fun direct => ?_
    have fromRequested := requested direct
    subst source
    obtain ⟨ports, list, atEnd, _⟩ := popPort_eq_some pop
    have listed : (some securityGroups, taken) ∈ before.listings := by
      rw [World.listings_of_pools present]
      exact Pools.mem_listings.mpr
        ⟨poolKey, poolPorts, ports, pool, list, List.mem_of_getLast? atEnd⟩
    exact (truthful securityGroups taken listed promised).of_groupsOf_eq rfl

theorem promised_sorted {defaults securityGroups : List String} :
    Promised defaults (securityGroups.insertionSort (· ≤ ·)) ↔
      Promised defaults securityGroups := by
  have empty : securityGroups.insertionSort (· ≤ ·) = [] ↔ securityGroups = [] := by
    rw [← List.length_eq_zero_iff, List.length_insertionSort, List.length_eq_zero_iff]
  rw [Promised, Promised, ne_eq, ne_eq, empty]

theorem World.Carries.of_sorted {world : World} {port : String} {securityGroups : List String}
    (carries : world.Carries port (securityGroups.insertionSort (· ≤ ·))) :
    world.Carries port securityGroups := by
  obtain ⟨current, known, exactly⟩ := carries
  refine ⟨current, known, fun group => ?_⟩
  rw [exactly group, List.mem_insertionSort]

theorem requestFailed_keepsGroups (population : Population) (exception : PyException) :
    allGroupsFrame.Keeps (requestFailed population exception) :=
  Frame.Keeps.ite
    (Frame.Keeps.bind (Frame.keeps_modify fun _ _ _ => rfl) fun _ => Frame.keeps_throw _)
    (Frame.keeps_throw _)

/-- What `request_vif` returns carries the groups of the request, and the pools
stay truthful. -/
theorem requestVif_truthful {defaults : List String} {driver : Driver} {options : Options}
    {answers : Answers} {pod : Pod} {projectId : String} {subnets : Dict String Network}
    {securityGroups : List String} {before after : World}
    {outcome : Except PyException (Option Vif)}
    (ran : exec (requestVif driver options answers pod projectId subnets securityGroups)
      before = (outcome, after))
    (truthful : Truthful defaults before)
    (once : ∀ port, before.available port ≤ 1) :
    Truthful defaults after ∧
      ∀ vif, outcome = .ok (some vif) → Promised defaults securityGroups →
        after.Carries vif.id securityGroups := by
  unfold requestVif at ran
  split at ran
  · cases ran
    exact ⟨truthful, fun _ result => by cases result⟩
  · rename_i hostAddr _
    rw [exec_tryCatch, exec_bind] at ran
    rcases took : exec (getPortFromPool driver options answers
      (getPoolKey hostAddr projectId none subnets) pod subnets
      (securityGroups.insertionSort (· ≤ ·))) before with ⟨result, middle⟩
    obtain ⟨truthfulMiddle, carried⟩ := getPortFromPool_truthful took truthful once
    rw [took] at ran
    cases result with
    | ok vif =>
        cases ran
        refine ⟨truthfulMiddle, fun returned same promised => ?_⟩
        cases same
        exact (carried vif rfl (promised_sorted.mpr promised)).of_sorted
    | error exception =>
        have raised := requestFailed_raises
          ⟨getPoolKey hostAddr projectId none subnets, pod, subnets,
            securityGroups.insertionSort (· ≤ ·)⟩ exception middle
        have keptPools := requestFailed_keepsPools
          ⟨getPoolKey hostAddr projectId none subnets, pod, subnets,
            securityGroups.insertionSort (· ≤ ·)⟩ exception middle
        have keptGroups := requestFailed_keepsGroups
          ⟨getPoolKey hostAddr projectId none subnets, pod, subnets,
            securityGroups.insertionSort (· ≤ ·)⟩ exception middle
        change exec (requestFailed _ exception) middle = (outcome, after) at ran
        rw [ran] at raised keptPools keptGroups
        cases raised
        have files : Files defaults (fun _ => False) middle after :=
          Files.of_listings_eq (World.listings_of_pools_eq keptPools) keptGroups
        exact ⟨truthfulMiddle.files files fun _ => False.elim,
          fun _ result => by cases result⟩

/-! ## Populations -/

/-- The groups of a port that was created for a request. -/
def createdGroups (answers : Answers) (securityGroups : List String) : List String :=
  if securityGroups = [] then answers.defaultGroups else securityGroups

theorem get?_foldl_set {ports : List String} {record : String → NeutronPort}
    {neutron : Dict String NeutronPort} (port : String) :
    (ports.foldl (fun neutron port => neutron.set port (record port)) neutron).get? port =
      if port ∈ ports then some (record port) else neutron.get? port := by
  induction ports generalizing neutron with
  | nil => simp
  | cons first rest ih =>
      rw [List.foldl_cons, ih, Dict.get?_set]
      by_cases inRest : port ∈ rest
      · simp [inRest]
      · by_cases same : port = first <;> simp [inRest, same]

theorem createPorts_keepsGroups (options : Options) (answers : Answers)
    (record : NeutronPort) (count : Nat) :
    (groupsFrame (· ∈ answers.newPortIds)).Keeps
      (createPorts options answers record count) := by
  refine Frame.Keeps.bind (callNeutron_keeps _ _ _) fun _ => ?_
  refine Frame.Keeps.bind (Frame.keeps_modify fun world port old => ?_) fun _ =>
    Frame.keeps_pure _
  have notCreated : port ∉ answers.newPortIds.take count := fun created =>
    old (List.take_subset _ _ created)
  simp only [World.groupsOf]
  rw [get?_foldl_set, if_neg notCreated]

theorem createPorts_groups {options : Options} {answers : Answers} {record : NeutronPort}
    {count : Nat} {before after : World} {ports : List String}
    (ran : exec (createPorts options answers record count) before = (.ok ports, after))
    {port : String} (created : port ∈ ports) :
    after.groupsOf port = some record.securityGroupIds := by
  obtain ⟨_, world, _, modified⟩ := exec_bind_eq_ok ran
  cases modified
  simp only [World.groupsOf]
  rw [get?_foldl_set, if_pos created]
  rfl

theorem attachSubports_keepsGroups (answers : Answers) (network : String)
    (ports : List String) (vlanIds : List Nat) :
    (groupsFrame (· ∈ ports)).Keeps (attachSubports answers network ports vlanIds) := by
  refine Frame.Keeps.ite ?_ (Frame.keeps_pure _)
  refine Frame.Keeps.bind (Frame.Keeps.forM fun port member => ?_) fun _ =>
    Frame.keeps_pure _
  refine (deletePort_keepsGroups answers port).mono fun before after kept other outside => ?_
  exact kept other fun same => outside (same ▸ member)

/-- Attached ports are as they were created. -/
theorem attachSubports_unchanged {answers : Answers} {network : String}
    {ports : List String} {vlanIds : List Nat} {before after : World} {vifs : List Vif}
    (ran : exec (attachSubports answers network ports vlanIds) before = (.ok vifs, after))
    {vif : Vif} (attached : vif ∈ vifs) : after = before := by
  unfold attachSubports at ran
  split at ran
  · obtain ⟨_, _, _, done⟩ := exec_bind_eq_ok ran
    cases done
    cases attached
  · cases ran
    rfl

theorem requestVifs_keepsGroups (driver : Driver) (options : Options) (answers : Answers)
    (pod : Pod) (projectId : String) (subnets : Dict String Network)
    (securityGroups : List String) (numPorts : Nat) :
    (groupsFrame (· ∈ answers.newPortIds)).Keeps
      (requestVifs driver options answers pod projectId subnets securityGroups numPorts) := by
  cases driver with
  | neutron =>
      refine Frame.Keeps.bind (getNetworkId_keeps _ _) fun network => ?_
      refine Frame.Keeps.bind (getHostId_keeps _ _) fun _ => ?_
      refine Frame.Keeps.bind (createPorts_keepsGroups _ _ _ _) fun ports => ?_
      cases ports with
      | nil => exact Frame.keeps_throw _
      | cons port rest => exact Frame.keeps_pure _
  | nested =>
      refine Frame.Keeps.bind (getParentTrunk_keeps _ _ _) fun _ => ?_
      refine Frame.Keeps.bind (getNetworkId_keeps _ _) fun network => ?_
      refine Frame.Keeps.ite (Frame.keeps_pure _) ?_
      intro world
      have created := createPorts_keepsGroups options answers
        (portRequest .nested options answers pod projectId network subnets securityGroups)
        (answers.freeVlanIds.take numPorts).length world
      rw [exec_bind]
      rcases ran : exec (createPorts options answers
        (portRequest .nested options answers pod projectId network subnets securityGroups)
        (answers.freeVlanIds.take numPorts).length) world with ⟨outcome, middle⟩
      rw [ran] at created
      cases outcome with
      | error exception => exact created
      | ok ports =>
          refine (groupsFrame _).trans created ?_
          have attached := attachSubports_keepsGroups answers network ports
            (answers.freeVlanIds.take numPorts) middle
          intro port old
          refine attached port fun member => old ?_
          rw [createPorts_ok ran] at member
          exact List.take_subset _ _ member

/-- New VIFs have the groups of the request. -/
theorem requestVifs_carries {driver : Driver} {options : Options} {answers : Answers}
    {pod : Pod} {projectId : String} {subnets : Dict String Network}
    {securityGroups : List String} {numPorts : Nat} {before after : World}
    {vifs : List Vif}
    (ran : exec (requestVifs driver options answers pod projectId subnets securityGroups
      numPorts) before = (.ok vifs, after))
    {vif : Vif} (created : vif ∈ vifs) :
    after.groupsOf vif.id = some (createdGroups answers securityGroups) := by
  cases driver with
  | neutron =>
      obtain ⟨network, _, _, hosted⟩ := exec_bind_eq_ok ran
      obtain ⟨_, _, _, requested⟩ := exec_bind_eq_ok hosted
      obtain ⟨ports, middle, creation, described⟩ := exec_bind_eq_ok requested
      cases ports with
      | nil => cases described
      | cons port rest =>
          cases described
          obtain ⟨id, member, rfl⟩ := List.mem_map.mp created
          exact createPorts_groups creation member
  | nested =>
      obtain ⟨_, _, _, located⟩ := exec_bind_eq_ok ran
      obtain ⟨network, _, _, requested⟩ := exec_bind_eq_ok located
      simp only at requested
      split at requested
      · cases requested
        cases created
      · obtain ⟨ports, middle, creation, attached⟩ := exec_bind_eq_ok requested
        have member : vif.id ∈ ports :=
          (attachSubports_ok attached).subset (List.mem_map_of_mem created)
        rw [attachSubports_unchanged attached created]
        exact createPorts_groups creation member

theorem Pools.mem_listings_foldl_addVif {poolKey : PoolKey} {filed group : SgKey}
    {vifs : List Vif} {pools : Pools} {port : String}
    (listed : (group, port) ∈ (vifs.foldl (addVif poolKey filed) pools).listings) :
    (group = filed ∧ port ∈ vifs.map Vif.id) ∨ (group, port) ∈ pools.listings := by
  induction vifs generalizing pools with
  | nil => exact .inr listed
  | cons vif rest ih =>
      rcases ih listed with ⟨same, member⟩ | added
      · exact .inl ⟨same, List.mem_cons_of_mem _ member⟩
      · rcases Pools.mem_listings_filePort added with ⟨rfl, rfl⟩ | before
        · exact .inl ⟨rfl, List.mem_cons_self⟩
        · exact .inr before

theorem createdGroups_of_promised {defaults securityGroups : List String}
    {answers : Answers} (given : answers.defaultGroups = defaults)
    (promised : Promised defaults securityGroups) :
    createdGroups answers securityGroups = securityGroups := by
  unfold createdGroups
  split
  · rename_i empty
    rcases promised with nonempty | none
    · exact absurd empty nonempty
    · rw [given, none, empty]
  · rfl

/-- The lists of the pools stay the same. -/
abbrev listingsFrame : Frame World :=
  Frame.same World.listings

theorem keepsListings_of_keepsPools {α : Type} {program : PoolM α}
    (kept : poolsFrame.Keeps program) : listingsFrame.Keeps program :=
  kept.mono fun _ _ => World.listings_of_pools_eq

theorem changePools_keepsListings {change : Pools → Pools}
    (same : ∀ pools, (change pools).listings = pools.listings) :
    listingsFrame.Keeps (getPools >>= fun pools => setPools (change pools)) := by
  intro world
  rw [exec_changePools]
  cases present : world.pools with
  | none => rfl
  | some pools => simp [Frame.same, World.listings, present, same]

theorem recordUpdate_keepsListings (poolKey : PoolKey) (group : SgKey) (date : Int) :
    listingsFrame.Keeps (recordUpdate poolKey group date) :=
  changePools_keepsListings fun _ => rfl

theorem recordUpdate_keepsGroups (poolKey : PoolKey) (group : SgKey) (date : Int) :
    allGroupsFrame.Keeps (recordUpdate poolKey group date) :=
  keepsGroups_of_keepsNeutron (changePools_keepsNeutron _)

/-- Steps one after the other, where the first only changes groups of exempt ports. -/
theorem Files.after_frames {defaults : List String} {exempt : String → Prop}
    {first second third : World} (same : second.listings = first.listings)
    (kept : (groupsFrame exempt).rel first second)
    (files : Files defaults exempt second third) : Files defaults exempt first third where
  listed group port listed := same ▸ files.listed group port listed
  kept := (groupsFrame exempt).trans kept files.kept

/-- Steps one after the other, where the second changes no list and no groups. -/
theorem Files.before_frames {defaults : List String} {exempt : String → Prop}
    {first second third : World} (files : Files defaults exempt first second)
    (same : third.listings = second.listings)
    (kept : allGroupsFrame.rel second third) : Files defaults exempt first third where
  listed group port listed := by
    rcases files.listed group port (same ▸ listed) with old | ⟨exempted, carries⟩
    · exact .inl old
    · exact .inr ⟨exempted, fun groups key promised =>
        (carries groups key promised).of_groupsOf_eq (kept port id)⟩
  kept := (groupsFrame exempt).trans files.kept fun port _ => kept port id

theorem fileVifs_files {defaults : List String} {exempt : String → Prop}
    {poolKey : PoolKey} {securityGroups : List String} {lastUpdate : Int}
    {vifs : List Vif} {before : World}
    (exempted : ∀ vif ∈ vifs, exempt vif.id)
    (carries : ∀ vif ∈ vifs, Promised defaults securityGroups →
      before.Carries vif.id securityGroups) :
    Files defaults exempt before
      (exec (fileVifs poolKey (some securityGroups) lastUpdate vifs) before).2 := by
  cases present : before.pools with
  | none =>
      have unchanged : (exec (fileVifs poolKey (some securityGroups) lastUpdate vifs)
          before).2 = before := by simp [fileVifs, getPools, present]
      rw [unchanged]
      exact Files.of_listings_eq rfl ((groupsFrame exempt).refl before)
  | some pools =>
      have filed : Files defaults exempt before (before.withPools
          (vifs.foldl (addVif poolKey (some securityGroups)) pools)) := by
        refine ⟨fun group port listed => ?_, fun port _ => rfl⟩
        rw [World.listings_of_pools rfl] at listed
        rcases Pools.mem_listings_foldl_addVif listed with ⟨rfl, member⟩ | old
        · obtain ⟨vif, created, rfl⟩ := List.mem_map.mp member
          refine .inr ⟨exempted vif created, fun groups key promised => ?_⟩
          cases key
          exact (carries vif created promised).of_groupsOf_eq rfl
        · exact .inl ((World.listings_of_pools present).symm ▸ old)
      have listings : listingsFrame.Keeps (if vifs = [] then
          recordUpdate poolKey (some securityGroups) lastUpdate else pure ⟨⟩) :=
        Frame.Keeps.ite (recordUpdate_keepsListings _ _ _) (Frame.keeps_pure _)
      have groups : allGroupsFrame.Keeps (if vifs = [] then
          recordUpdate poolKey (some securityGroups) lastUpdate else pure ⟨⟩) :=
        Frame.Keeps.ite (recordUpdate_keepsGroups _ _ _) (Frame.keeps_pure _)
      rw [fileVifs, exec_bind_of_ok (exec_getPools present), setPools, exec_modify_bind]
      exact filed.before_frames (listings _) (groups _)

theorem fillPool_files {defaults : List String} {answers : Answers}
    (given : answers.defaultGroups = defaults) (driver : Driver) (options : Options)
    (poolKey : PoolKey) (pod : Pod) (subnets : Dict String Network)
    (securityGroups : List String) (lastUpdate : Int) (before : World) :
    Files defaults (· ∈ answers.newPortIds) before
      (exec (fillPool driver options answers poolKey pod subnets securityGroups
        lastUpdate) before).2 := by
  cases present : before.pools with
  | none =>
      have unchanged : (exec (fillPool driver options answers poolKey pod subnets
          securityGroups lastUpdate) before).2 = before := by
        simp [fillPool, getPools, present]
      rw [unchanged]
      exact Files.of_listings_eq rfl ((groupsFrame _).refl before)
  | some pools =>
      rw [fillPool, exec_bind_of_ok (exec_getPools present)]
      simp only
      split
      · have keptPools := requestVifs_keepsPools driver options answers pod
          poolKey.projectId subnets securityGroups
          (populationSize options (getPoolSize pools poolKey)) before
        have keptGroups := requestVifs_keepsGroups driver options answers pod
          poolKey.projectId subnets securityGroups
          (populationSize options (getPoolSize pools poolKey)) before
        rw [exec_bind]
        rcases ran : exec (requestVifs driver options answers pod poolKey.projectId subnets
          securityGroups (populationSize options (getPoolSize pools poolKey))) before with
          ⟨outcome, middle⟩
        rw [ran] at keptPools keptGroups
        have listings := World.listings_of_pools_eq keptPools
        cases outcome with
        | error exception => exact Files.of_listings_eq listings keptGroups
        | ok vifs =>
            refine Files.after_frames listings keptGroups (fileVifs_files ?_ ?_)
            · intro vif created
              exact (requestVifs_ok ran).subset (List.mem_map_of_mem created)
            · intro vif created promised
              refine ⟨_, requestVifs_carries ran created, fun group => ?_⟩
              rw [createdGroups_of_promised given promised]
      · exact Files.of_listings_eq rfl ((groupsFrame _).refl before)

theorem populateRecovered_files {defaults : List String} {answers : Answers}
    (given : answers.defaultGroups = defaults) (driver : Driver) (options : Options)
    (now : Int) (poolKey : PoolKey) (pod : Pod) (subnets : Dict String Network)
    (securityGroups : List String) (before : World) :
    Files defaults (· ∈ answers.newPortIds) before
      (exec (populateRecovered driver options answers now poolKey pod subnets
        securityGroups) before).2 := by
  cases present : before.pools with
  | none =>
      have unchanged : (exec (populateRecovered driver options answers now poolKey pod
          subnets securityGroups) before).2 = before := by
        simp [populateRecovered, getPools, present]
      rw [unchanged]
      exact Files.of_listings_eq rfl ((groupsFrame _).refl before)
  | some pools =>
      rw [populateRecovered, exec_bind_of_ok (exec_getPools present)]
      simp only
      split
      · exact Files.of_listings_eq rfl ((groupsFrame _).refl before)
      · have listings := recordUpdate_keepsListings poolKey (some securityGroups) now before
        have groups : (groupsFrame (· ∈ answers.newPortIds)).rel _ _ :=
          keepsGroups_of_all (recordUpdate_keepsGroups poolKey (some securityGroups) now)
            before
        rw [exec_bind]
        rcases ran : exec (recordUpdate poolKey (some securityGroups) now) before with
          ⟨outcome, middle⟩
        rw [ran] at listings groups
        cases outcome with
        | error exception => exact Files.of_listings_eq listings groups
        | ok value =>
            exact Files.after_frames listings groups
              (fillPool_files given driver options poolKey pod subnets securityGroups _
                middle)

/-- A population files its new ports under the groups they are created with. -/
theorem populatePool_files {defaults : List String} {answers : Answers}
    (given : answers.defaultGroups = defaults) (driver : Driver) (options : Options)
    (now : Int) (poolKey : PoolKey) (pod : Pod) (subnets : Dict String Network)
    (securityGroups : List String) (before : World) :
    Files defaults (· ∈ answers.newPortIds) before
      (exec (populatePool driver options answers now poolKey pod subnets
        securityGroups) before).2 := by
  rw [populatePool, exec_get_bind]
  split
  · exact populateRecovered_files given driver options now poolKey pod subnets
      securityGroups before
  · exact Files.of_listings_eq rfl ((groupsFrame _).refl before)

end KuryrKubernetes.Pool
