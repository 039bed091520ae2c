import KuryrKubernetes.Cni.NestedApart

/-!
# A pod gets its interface after all

However many tries to connect or disconnect a pod were cut short, a try that is not has what it
needs, and leaves one interface, configured and in the namespace of the pod.
-/

namespace KuryrKubernetes.Cni.Links

open KuryrKubernetes.Effect

variable {binding : Binding} {kernel : Kernel} {place : Place} {name : String}
  {ifaces : List Interface}

/-! ## The interfaces of the pod -/

/-- The request sees what there is of the pod. -/
theorem has_eq (named : Named binding place name) :
    kernel.has place name = (binding.own kernel).any (·.isAt place name) := by
  simp only [Kernel.has, Binding.own]
  induction kernel.interfaces with
  | nil => rfl
  | cons iface rest ih =>
      cases here : iface.isAt place name with
      | true =>
          have owned := (named_of_isAt here).mpr named
          simp [here, owned]
      | false =>
          cases owned : binding.owns iface with
          | true => simp [here, owned, ih]
          | false => simp [here, owned, ih]

theorem own_without :
    binding.own (kernel.without place name) =
      (binding.own kernel).filter fun iface => !iface.isAt place name := by
  simp only [Binding.own, Kernel.without, List.filter_filter, Bool.and_comm]

theorem own_add {iface : Interface} (owned : binding.owns iface) :
    binding.own (kernel.add iface) = binding.own kernel ++ [iface] := by
  simp [Binding.own, Kernel.add, owned]

theorem own_change {changed : Interface → Interface} (named : Named binding place name)
    (keeps : ∀ iface, iface.isAt place name →
      Named binding (changed iface).place (changed iface).name) :
    binding.own (kernel.change place name changed) =
      (binding.own kernel).map fun iface =>
        if iface.isAt place name then changed iface else iface := by
  simp only [Binding.own, Kernel.change]
  induction kernel.interfaces with
  | nil => rfl
  | cons iface rest ih =>
      cases here : iface.isAt place name with
      | true =>
          have before := (named_of_isAt here).mpr named
          have after := owns_iff.mpr (keeps iface here)
          simp [here, before, after, ih]
      | false =>
          cases owned : binding.owns iface with
          | true => simp [here, owned, ih]
          | false => simp [here, owned, ih]

/-! ## Requests for the pod -/

theorem clear_place (binding : Binding) (name : String) : Clear binding binding.place name :=
  fun same => by cases same.1

/-- The interface of the pod, once it is configured. -/
def Binding.configured (binding : Binding) : Interface where
  place := binding.place
  name := binding.ifname
  kind := binding.vif.createArgs
  link := some binding.linkIface
  mtu := binding.vif.mtu
  address := binding.vif.address
  up := true

/-- The pod is left with these interfaces, nothing is in the way of another one, and no request
fails any more. -/
structure Sits (environment : Environment) (binding : Binding) (ifaces : List Interface)
    (kernel : Kernel) : Prop where
  own : binding.own kernel = ifaces
  free : binding.Free kernel
  netns : binding.netns ∈ kernel.netns
  link : binding.linkMtu kernel = some binding.vif.mtu
  served : ∀ number, kernel.calls ≤ number → environment.endings number = .served

section

variable {environment : Environment}

theorem Sits.moved {after : Kernel} {calls : Nat} (sits : Sits environment binding ifaces kernel)
    (untouched : binding.Untouched kernel after) (later : kernel.calls ≤ calls) :
    Sits environment binding ifaces (after.called calls) where
  own := untouched.own.trans sits.own
  free := untouched.free sits.free
  netns := untouched.netns sits.netns
  link := untouched.link.trans sits.link
  served number reached := sits.served number (by
    have : calls + 1 ≤ number := reached
    omega)

/-- A program of the driver that returns. -/
def Brings {α : Type} (environment : Environment) (binding : Binding) (ifaces : List Interface)
    (program : KernelM α) (post : α → Kernel → Prop) : Prop :=
  Leads (Sits environment binding ifaces) program post fun _ _ => False

variable (moves : ∀ number kernel, binding.Untouched kernel (environment.moves number kernel))
include moves

theorem brings_request {α : Type} {operation : KernelM α} {post : α → Kernel → Prop}
    (brings : Brings environment binding ifaces operation post) :
    Brings environment binding ifaces (request environment operation) post := by
  intro kernel sits
  have later := sits.moved (moves kernel.calls kernel) (Nat.le_refl kernel.calls)
  have served := sits.served kernel.calls (Nat.le_refl _)
  rw [request, exec_get_bind, exec_set_bind]
  apply leads_serve_of brings _ _ _ later
  · intro ex _ refused _
    cases served.symm.trans refused
  · intro _ ex _ _ cut _ _
    cases served.symm.trans cut

theorem brings_getIpdb (mine : place = .host ∨ place = binding.place) :
    Brings environment binding ifaces (getIpdb environment place)
      fun _ => Sits environment binding ifaces := by
  apply brings_request moves
  intro kernel sits
  have reachable : kernel.reachable place := by
    rcases mine with rfl | rfl
    · rfl
    · exact decide_eq_true sits.netns
  rw [exec_get_bind, if_pos reachable]
  exact leads_pure (fun _ given => given) kernel sits

theorem brings_inInterfaces (named : Named binding place name) :
    Brings environment binding ifaces (inInterfaces environment place name)
      fun present kernel => present = ifaces.any (·.isAt place name) ∧
        Sits environment binding ifaces kernel := by
  apply brings_request moves
  intro kernel sits
  rw [exec_get_bind, has_eq named, sits.own]
  exact leads_pure (fun _ given => ⟨rfl, given⟩) kernel sits

theorem brings_remove (named : Named binding place name) (clear : Clear binding place name)
    (there : ifaces.any (·.isAt place name)) :
    Brings environment binding ifaces (remove environment place name)
      fun _ => Sits environment binding (ifaces.filter fun iface => !iface.isAt place name) := by
  apply brings_request moves
  intro kernel sits
  rw [exec_get_bind, has_eq named, sits.own, if_pos there]
  have usable := usable_without kernel clear
  constructor
  · rintro _ _ ⟨⟩
    refine ⟨?_, usable.free sits.free, sits.netns, usable.link.trans sits.link, sits.served⟩
    rw [own_without, sits.own]
  · rintro _ _ ⟨⟩

/-- Whether there is such an interface or not. -/
theorem brings_removeIface (named : Named binding place name) (clear : Clear binding place name) :
    Brings environment binding ifaces
      (do
        let present ← inInterfaces environment place name
        if present then remove environment place name else pure ⟨⟩)
      fun _ => Sits environment binding (ifaces.filter fun iface => !iface.isAt place name) := by
  apply (brings_inInterfaces moves named).bind
  intro present
  apply Leads.of_fact
  rintro rfl
  split
  · rename_i there
    exact brings_remove moves named clear there
  · rename_i absent
    have whole : (ifaces.filter fun iface => !iface.isAt place name) = ifaces := by
      apply List.filter_eq_self.mpr
      intro iface listed
      simp only [List.any_eq_true, not_exists, not_and, Bool.not_eq_true] at absent
      simp [absent iface listed]
    rw [whole]
    exact leads_pure fun _ given => given

theorem brings_removeIfaces {names : List String}
    (named : ∀ name ∈ names, Named binding place name)
    (clear : ∀ name ∈ names, Clear binding place name) :
    Brings environment binding ifaces (removeIfaces environment place names)
      fun _ => Sits environment binding
        (ifaces.filter fun iface => !names.any fun name => iface.isAt place name) := by
  induction names generalizing ifaces with
  | nil =>
      simp only [List.any_nil, Bool.not_false, List.filter_true]
      exact leads_pure fun _ given => given
  | cons name rest ih =>
      rw [removeIfaces, forM_cons_eq]
      apply (brings_removeIface moves (named name List.mem_cons_self)
        (clear name List.mem_cons_self)).bind
      intro _
      have both : Brings environment binding (ifaces.filter fun iface => !iface.isAt place name)
          (removeIfaces environment place rest)
          fun _ => Sits environment binding
            ((ifaces.filter fun iface => !iface.isAt place name).filter fun iface =>
              !rest.any fun name => iface.isAt place name) :=
        ih (fun other listed => named other (List.mem_cons_of_mem name listed))
          fun other listed => clear other (List.mem_cons_of_mem name listed)
      simp only [List.filter_filter] at both
      simp only [List.any_cons, Bool.not_or, Bool.and_comm] at both ⊢
      exact both

theorem brings_getMtu :
    Brings environment binding ifaces (getMtu environment .host binding.linkIface)
      fun mtu kernel => mtu = binding.vif.mtu ∧ Sits environment binding ifaces kernel := by
  apply brings_request moves
  intro kernel sits
  obtain ⟨lower, found, mtu⟩ := Option.map_eq_some_iff.mp sits.link
  rw [exec_get_bind, found]
  exact leads_pure (fun _ given => ⟨mtu, given⟩) kernel sits

theorem brings_create (fits : binding.vif.vifName ≠ binding.linkIface) :
    Brings environment binding []
      (create environment binding.vif.vifName binding.linkIface binding.vif.createArgs)
      fun _ => Sits environment binding [binding.created binding.vif.mtu] := by
  apply brings_request moves
  intro kernel sits
  have named : Named binding .host binding.vif.vifName := .inl ⟨rfl, rfl⟩
  have clear : Clear binding .host binding.vif.vifName := fun same => fits same.2
  obtain ⟨lower, found, mtu⟩ := Option.map_eq_some_iff.mp sits.link
  have absent : kernel.has .host binding.vif.vifName = false := by
    rw [has_eq named, sits.own]
    rfl
  -- whoever had the VLAN id would be an interface of the pod
  have unheld : kernel.interfaces.any (·.holds binding.vif.createArgs binding.linkIface) = false := by
    rw [List.any_eq_false]
    intro iface listed holds
    have mine : iface ∈ binding.own kernel := List.mem_filter.mpr ⟨listed, sits.free iface listed holds⟩
    rw [sits.own] at mine
    cases mine
  have owned : binding.owns (binding.created binding.vif.mtu) := owns_iff.mpr named
  have usable : binding.Usable kernel (kernel.add (binding.created binding.vif.mtu)) :=
    usable_add kernel clear fun _ => owned
  rw [exec_get_bind, found, absent, unheld]
  constructor
  · rintro _ _ ⟨⟩
    rw [mtu]
    refine ⟨?_, usable.free sits.free, sits.netns, usable.link.trans sits.link, sits.served⟩
    exact (own_add owned).trans (by rw [sits.own]; rfl)
  · rintro _ _ ⟨⟩

/-- A change of the only interface of the pod. -/
theorem brings_setLink {iface : Interface} {target : Place} {ifname : String}
    {changed : Interface → Interface} (here : iface.isAt place name)
    (named : Named binding place name) (clear : Clear binding place name)
    (goes : Named binding target ifname) (goesClear : Clear binding target ifname)
    (adjusts : Adjusts changed)
    (lands : ∀ other, other.isAt place name → (changed other).isAt target ifname) :
    Brings environment binding [iface] (setLink environment place name target ifname changed)
      fun _ => Sits environment binding [changed iface] := by
  apply brings_request moves
  intro kernel sits
  have present : kernel.has place name = true := by
    simp [has_eq named, sits.own, here]
  have free : ¬((target, ifname) ≠ (place, name) ∧ kernel.has target ifname = true) := by
    rintro ⟨differs, taken⟩
    rw [has_eq goes, sits.own] at taken
    simp only [List.any_cons, List.any_nil, Bool.or_false, isAt_iff] at taken here
    apply differs
    rw [← taken.1, ← taken.2, here.1, here.2]
  have keeps : ∀ other, other.isAt place name →
      Named binding (changed other).place (changed other).name := by
    intro other away
    have landed := isAt_iff.mp (lands other away)
    rw [landed.1, landed.2]
    exact goes
  have usable := usable_change kernel adjusts clear
    (fun other away => by
      have landed := isAt_iff.mp (lands other away)
      rw [landed.1, landed.2]
      exact goesClear)
    fun other away _ => owns_iff.mpr (keeps other away)
  rw [exec_get_bind, present, if_neg free]
  constructor
  · rintro _ _ ⟨⟩
    refine ⟨?_, usable.free sits.free, sits.netns, usable.link.trans sits.link, sits.served⟩
    rw [own_change named keeps, sits.own]
    simp [here]
  · rintro _ _ ⟨⟩

/-! ## The driver -/

theorem brings_createIface (fits : binding.vif.vifName ≠ binding.linkIface) :
    Brings environment binding [] (createIface environment binding)
      fun _ => Sits environment binding
        [{ binding.created binding.vif.mtu with place := binding.place }] := by
  apply (brings_getIpdb moves (.inl rfl)).bind
  intro _
  apply (brings_getMtu moves).bind
  intro mtu
  apply Leads.of_fact
  rintro rfl
  rw [if_neg (not_not_intro rfl)]
  apply (brings_create moves fits).bind
  intro _
  rw [moveTo]
  apply Leads.bind
  · exact brings_getIpdb moves (.inr rfl)
  · intro _
    apply brings_setLink moves
    · rw [isAt_iff]
      exact ⟨rfl, rfl⟩
    · exact .inl ⟨rfl, rfl⟩
    · exact fun same => fits same.2
    · exact .inr ⟨rfl, .inl rfl⟩
    · exact fun same => by cases same.1
    · exact ⟨fun _ => rfl, fun _ => rfl⟩
    · intro other away
      rw [isAt_iff] at away ⊢
      exact ⟨rfl, away.2⟩

/-- A change of the interface of the pod that leaves its name. -/
theorem brings_change {iface : Interface} {changed : Interface → Interface}
    (here : iface.isAt binding.place binding.ifname) (adjusts : Adjusts changed)
    (same : ∀ other, (changed other).place = other.place ∧ (changed other).name = other.name) :
    Brings environment binding [iface]
      (setLink environment binding.place binding.ifname binding.place binding.ifname changed)
      fun _ => Sits environment binding [changed iface] := by
  have final : Named binding binding.place binding.ifname := .inr ⟨rfl, .inr rfl⟩
  have clear := clear_place binding binding.ifname
  apply brings_setLink moves here final clear final clear adjusts
  intro other away
  rw [isAt_iff, (same other).1, (same other).2, ← isAt_iff]
  exact away

theorem brings_configureIface :
    Brings environment binding [{ binding.created binding.vif.mtu with place := binding.place }]
      (configureIface environment binding)
      fun _ => Sits environment binding [binding.configured] := by
  have temporary : Named binding binding.place binding.vif.vifName := .inr ⟨rfl, .inl rfl⟩
  apply (brings_getIpdb moves (.inr rfl)).bind
  intro _
  apply (brings_inInterfaces moves temporary).bind
  intro present
  apply Leads.of_fact
  intro there
  have found : present = true := by
    simp [there, Interface.isAt, Binding.created]
  rw [if_pos found]
  have named : Brings environment binding
      [{ binding.created binding.vif.mtu with place := binding.place }]
      (rename environment binding.place binding.vif.vifName binding.ifname)
      fun _ => Sits environment binding
        [{ binding.created binding.vif.mtu with
          place := binding.place
          name := binding.ifname }] := by
    rw [rename]
    apply brings_setLink moves
    · rw [isAt_iff]
      exact ⟨rfl, rfl⟩
    · exact temporary
    · exact clear_place binding _
    · exact .inr ⟨rfl, .inr rfl⟩
    · exact clear_place binding _
    · exact ⟨fun _ => rfl, fun _ => rfl⟩
    · intro other away
      rw [isAt_iff] at away ⊢
      exact ⟨away.1, rfl⟩
  have at_ {iface : Interface} (placed : iface.place = binding.place)
      (called : iface.name = binding.ifname) : iface.isAt binding.place binding.ifname :=
    isAt_iff.mpr ⟨placed, called⟩
  apply Leads.bind named
  intro _
  apply Leads.bind
  · exact brings_change moves (at_ rfl rfl) ⟨fun _ => rfl, fun _ => rfl⟩ fun _ => ⟨rfl, rfl⟩
  intro _
  apply Leads.bind
  · exact brings_change moves (at_ rfl rfl) ⟨fun _ => rfl, fun _ => rfl⟩ fun _ => ⟨rfl, rfl⟩
  intro _
  exact brings_change moves (at_ rfl rfl) ⟨fun _ => rfl, fun _ => rfl⟩ fun _ => ⟨rfl, rfl⟩

/-- Nothing of the pod is left but what is in the namespace of the node. -/
theorem brings_leftovers :
    Brings environment binding ifaces
      (removeIfaces environment binding.place [binding.vif.vifName, binding.ifname])
      fun _ => Sits environment binding (ifaces.filter fun iface =>
        !List.any [binding.vif.vifName, binding.ifname] fun name => iface.isAt binding.place name) := by
  apply brings_removeIfaces moves
  · intro name listed
    simp only [List.mem_cons, List.not_mem_nil, or_false] at listed
    exact .inr ⟨rfl, listed⟩
  · exact fun name _ => clear_place binding name

theorem brings_connect (fits : binding.vif.vifName ≠ binding.linkIface) :
    Brings environment binding (ifaces.filter binding.owns) (connect environment binding)
      fun _ => Sits environment binding [binding.configured] := by
  apply (brings_getIpdb moves (.inr rfl)).bind
  intro _
  apply (brings_leftovers moves).bind
  intro _
  apply (brings_getIpdb moves (.inl rfl)).bind
  intro _
  apply Leads.bind
  · apply brings_removeIfaces moves
    · intro name listed
      simp only [List.mem_cons, List.not_mem_nil, or_false] at listed
      exact .inl ⟨rfl, listed⟩
    · rintro name listed ⟨_, same⟩
      simp only [List.mem_cons, List.not_mem_nil, or_false] at listed
      exact fits (listed.symm.trans same)
  intro _
  -- no interface of the pod is left at any of its names
  have none : ((ifaces.filter binding.owns).filter fun iface =>
      !List.any [binding.vif.vifName, binding.ifname] fun name => iface.isAt binding.place name).filter
      (fun iface => !List.any [binding.vif.vifName] fun name => iface.isAt .host name) = [] := by
    simp only [List.filter_filter, List.filter_eq_nil_iff]
    intro iface _ left
    simp only [Binding.owns, List.any_cons, List.any_nil, Bool.or_false] at left
    revert left
    cases iface.isAt .host binding.vif.vifName <;>
      cases iface.isAt binding.place binding.vif.vifName <;>
        cases iface.isAt binding.place binding.ifname <;> simp
  rw [none]
  apply Leads.bind
  · apply (brings_createIface moves fits).tryCatch
    intro ex kernel impossible
    exact impossible.elim
  · intro _
    exact brings_configureIface moves

end

/-! ## Tries -/

/-- A try to connect or to disconnect the pod; its requests may end anyhow. -/
structure Attempt (binding : Binding) where
  environment : Environment
  moves : ∀ number kernel, binding.Untouched kernel (environment.moves number kernel)
  connects : Bool

/-- What the try leaves. -/
def Attempt.leaves (kernel : Kernel) (attempt : Attempt binding) : Kernel :=
  if attempt.connects then (exec (connect attempt.environment binding) kernel).2
  else (exec (disconnect attempt.environment binding) kernel).2

theorem bears_usable (fits : binding.vif.vifName ≠ binding.linkIface) :
    Bears (usable binding) binding := by
  have clear {place : Place} {name : String} (named : Named binding place name) :
      Clear binding place name := by
    rcases named with ⟨rfl, rfl⟩ | ⟨rfl, _⟩
    · exact fun same => fits same.2
    · exact clear_place binding name
  have created (mtu : Nat) : binding.owns (binding.created mtu) := owns_iff.mpr (.inl ⟨rfl, rfl⟩)
  constructor
  · intro place name named kernel
    exact usable_without kernel (clear named)
  · intro kernel mtu
    exact usable_add kernel (clear (owns_iff.mp (created mtu))) fun _ => created mtu
  · intro place name changed named adjusts keeps kernel
    exact usable_change kernel adjusts (clear named) (fun iface here => clear (keeps iface here))
      fun iface here _ => owns_iff.mpr (keeps iface here)

/-- Tries leave the pod as it needs it. -/
theorem usable_leaves (fits : binding.vif.vifName ≠ binding.linkIface) (attempt : Attempt binding)
    (kernel : Kernel) : binding.Usable kernel (attempt.leaves kernel) := by
  have within : Within (usable binding) attempt.environment :=
    ⟨fun number kernel => (attempt.moves number kernel).toUsable, fun _ _ => ⟨id, id, rfl⟩⟩
  rw [Attempt.leaves]
  split
  · exact keeps_connect within (bears_usable fits) kernel
  · exact keeps_disconnect within (bears_usable fits) kernel

theorem usable_attempts (fits : binding.vif.vifName ≠ binding.linkIface)
    (attempts : List (Attempt binding)) (kernel : Kernel) :
    binding.Usable kernel (attempts.foldl Attempt.leaves kernel) := by
  induction attempts generalizing kernel with
  | nil => exact .refl binding kernel
  | cons attempt rest ih => exact (usable_leaves fits attempt kernel).trans (ih _)

/-- A program that brings something about returns. -/
theorem Brings.returns {environment : Environment} {program : KernelM PUnit} {post : PUnit → Kernel → Prop}
    (brings : Brings environment binding ifaces program post)
    (sits : Sits environment binding ifaces kernel) :
    ∃ after, exec program kernel = (.ok ⟨⟩, after) ∧ post ⟨⟩ after := by
  rcases ran : exec program kernel with ⟨outcome, after⟩
  cases outcome with
  | ok value => exact ⟨after, rfl, (brings kernel sits).1 value after ran⟩
  | error ex => exact ((brings kernel sits).2 ex after ran).elim

/-- A try none of whose requests fails. -/
structure Unhindered (binding : Binding) (environment : Environment) : Prop where
  moves : ∀ number kernel, binding.Untouched kernel (environment.moves number kernel)
  served : ∀ number, environment.endings number = .served

section

variable {environment : Environment} (unhindered : Unhindered binding environment)
include unhindered

/-- A try starts from what is left of others. -/
theorem Unhindered.sits (usable : binding.Free kernel) (netns : binding.netns ∈ kernel.netns)
    (link : binding.linkMtu kernel = some binding.vif.mtu) :
    Sits environment binding (kernel.interfaces.filter binding.owns) kernel where
  own := rfl
  free := usable
  netns := netns
  link := link
  served number _ := unhindered.served number

end

/-- Where nobody else has the VLAN id and the link has the MTU of the network: however many
tries to connect and disconnect the pod were cut short, wherever that was, the next one to
connect that is not returns, and leaves one interface of the pod, configured.  A later one to
disconnect leaves none, and frees the VLAN id. -/
theorem nested_recovers (binding : Binding) (fits : binding.vif.vifName ≠ binding.linkIface)
    (kernel : Kernel) (free : binding.Free kernel) (netns : binding.netns ∈ kernel.netns)
    (link : binding.linkMtu kernel = some binding.vif.mtu) (attempts : List (Attempt binding))
    (environment : Environment) (unhindered : Unhindered binding environment) :
    ∃ after,
      exec (connect environment binding) (attempts.foldl Attempt.leaves kernel) =
        (.ok ⟨⟩, after) ∧
      binding.own after = [binding.configured] ∧
      ∀ later environment', binding.Untouched after later → Unhindered binding environment' →
        ∃ ended, exec (disconnect environment' binding) later = (.ok ⟨⟩, ended) ∧
          binding.own ended = [] ∧
          ∀ iface ∈ ended.interfaces,
            ¬iface.holds binding.vif.createArgs binding.linkIface := by
  have usable := usable_attempts fits attempts kernel
  have start := unhindered.sits (usable.free free) (usable.netns netns) (usable.link.trans link)
  obtain ⟨after, ran, connected⟩ := (brings_connect unhindered.moves fits).returns start
  refine ⟨after, ran, connected.own, ?_⟩
  intro later environment' untouched quiet
  have waits : Sits environment' binding [binding.configured] later := by
    refine ⟨untouched.own.trans connected.own, untouched.free connected.free,
      untouched.netns connected.netns, untouched.link.trans connected.link, ?_⟩
    exact fun number _ => quiet.served number
  have brings : Brings environment' binding [binding.configured] (disconnect environment' binding)
      fun _ => Sits environment' binding [] := by
    apply (brings_getIpdb quiet.moves (.inr rfl)).bind
    intro _
    have nothing : ([binding.configured].filter fun iface =>
        !List.any [binding.vif.vifName, binding.ifname] fun name =>
          iface.isAt binding.place name) = [] := by
      simp [Interface.isAt, Binding.configured]
    have gone : Brings environment' binding [binding.configured]
        (removeIfaces environment' binding.place [binding.vif.vifName, binding.ifname])
        fun _ => Sits environment' binding ([binding.configured].filter fun iface =>
          !List.any [binding.vif.vifName, binding.ifname] fun name => iface.isAt binding.place name) :=
      brings_leftovers quiet.moves
    rw [nothing] at gone
    exact gone
  obtain ⟨ended, finished, left⟩ := brings.returns waits
  refine ⟨ended, finished, left.own, ?_⟩
  intro iface listed holds
  have mine : iface ∈ binding.own ended :=
    List.mem_filter.mpr ⟨listed, left.free iface listed holds⟩
  rw [left.own] at mine
  cases mine

/-! ## A pod whose first try is cut short -/

def webPod : Binding where
  vif := { vifName := "tap5f3c2a1d-0e", vlanId := some 100, address := "fa:16:3e:5d:01:0c", mtu := 1450 }
  ifname := "eth0"
  netns := "/proc/4711/ns/net"
  linkIface := "ens3"

def dbPod : Binding where
  vif := { vifName := "tap77aa01be-c2", vlanId := some 101, address := "fa:16:3e:5d:01:0d", mtu := 1450 }
  ifname := "eth0"
  netns := "/proc/4712/ns/net"
  linkIface := "ens3"

/-- A node with the namespaces of two pods. -/
def node : Kernel where
  netns := [webPod.netns, dbPod.netns]
  interfaces :=
    [{ place := .host, name := "ens3", kind := .device, link := none, mtu := 1450
       address := "fa:16:3e:00:00:01", up := true }]

theorem apart_web_db : Apart webPod dbPod where
  netns := by decide
  vifName := by decide
  link := by decide
  vlan := by decide

theorem attempts_apart_web_db :
    (untouched webPod).Keeps (connect {} dbPod) ∧ (untouched webPod).Keeps (disconnect {} dbPod) :=
  attempts_apart apart_web_db {} fun _ kernel => (untouched webPod).refl kernel

/-- The daemon is stopped once the interface is created. -/
def stopped : Environment where
  endings number := if number < 8 then .served else .refused (.other "SIGTERM")

theorem nested_recovers_web :
    ∃ after,
      exec (connect {} webPod) (exec (connect stopped webPod) node).2 = (.ok ⟨⟩, after) ∧
        webPod.own after = [webPod.configured] := by
  have still (kernel : Kernel) : webPod.Untouched kernel kernel := (untouched webPod).refl kernel
  have free : webPod.Free node := by
    intro iface listed holds
    simp only [node, List.mem_singleton] at listed
    subst listed
    cases holds
  obtain ⟨after, ran, configured, _⟩ := nested_recovers webPod (by decide) node free (by decide)
    (by decide) [{ environment := stopped, moves := fun _ => still, connects := true }] {}
    ⟨fun _ => still, fun _ => rfl⟩
  exact ⟨after, ran, configured⟩

end KuryrKubernetes.Cni.Links
