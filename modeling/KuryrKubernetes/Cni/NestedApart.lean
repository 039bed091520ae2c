import KuryrKubernetes.Cni.Nested

/-!
# Pods do not touch one another

The names, namespaces and VLAN ids of pods differ, so that whatever is requested for one of them,
however it ends, leaves the interfaces of the other as they are and its VLAN id free.
-/

namespace KuryrKubernetes.Cni.Links

open KuryrKubernetes.Effect

/-! ## What belongs to a pod -/

namespace Binding

variable (binding : Binding)

/-- The driver uses the name for the pod. -/
def owns (iface : Interface) : Bool :=
  iface.isAt .host binding.vif.vifName || iface.isAt binding.place binding.vif.vifName ||
    iface.isAt binding.place binding.ifname

/-- The interfaces of the pod, finished or not. -/
def own (kernel : Kernel) : List Interface :=
  kernel.interfaces.filter binding.owns

/-- Nobody else has the VLAN id. -/
def Free (kernel : Kernel) : Prop :=
  ∀ iface ∈ kernel.interfaces, iface.holds binding.vif.createArgs binding.linkIface →
    binding.owns iface

/-- The MTU of the link. -/
def linkMtu (kernel : Kernel) : Option Nat :=
  (kernel.find? .host binding.linkIface).map (·.mtu)

/-- The pod can have its interface as long as it could before. -/
structure Usable (before after : Kernel) : Prop where
  free : binding.Free before → binding.Free after
  netns : binding.netns ∈ before.netns → binding.netns ∈ after.netns
  link : binding.linkMtu after = binding.linkMtu before

/-- That, and what is there of it stays as it is. -/
structure Untouched (before after : Kernel) : Prop extends binding.Usable before after where
  own : binding.own after = binding.own before

end Binding

variable {binding other : Binding} {kernel : Kernel} {place : Place} {name : String}

theorem Binding.Usable.refl (binding : Binding) (kernel : Kernel) :
    binding.Usable kernel kernel :=
  ⟨id, id, rfl⟩

theorem Binding.Usable.trans {first second third : Kernel} (left : binding.Usable first second)
    (right : binding.Usable second third) : binding.Usable first third :=
  ⟨right.free ∘ left.free, right.netns ∘ left.netns, right.link.trans left.link⟩

/-- The frame of `Usable`. -/
def usable (binding : Binding) : Frame Kernel where
  rel := binding.Usable
  refl := .refl binding
  trans := .trans

/-- The frame of `Untouched`. -/
def untouched (binding : Binding) : Frame Kernel where
  rel := binding.Untouched
  refl kernel := ⟨.refl binding kernel, rfl⟩
  trans left right := ⟨left.toUsable.trans right.toUsable, right.own.trans left.own⟩

/-! ## Changes of the kernel -/

theorem isAt_iff {iface : Interface} :
    iface.isAt place name ↔ iface.place = place ∧ iface.name = name := by
  simp [Interface.isAt]

theorem find?_add {iface : Interface} (clear : ¬iface.isAt place name) :
    (kernel.add iface).find? place name = kernel.find? place name := by
  simp [Kernel.find?, Kernel.add, List.find?_append, clear]

theorem find?_without {at_ : Place} {removed : String}
    (clear : ∀ iface : Interface, iface.isAt at_ removed → ¬iface.isAt place name) :
    (kernel.without at_ removed).find? place name = kernel.find? place name := by
  simp only [Kernel.find?, Kernel.without]
  induction kernel.interfaces with
  | nil => rfl
  | cons iface rest ih =>
      cases away : iface.isAt at_ removed with
      | true =>
          have other := clear iface away
          simp [away, other, ih]
      | false =>
          cases found : iface.isAt place name with
          | true => simp [away, found]
          | false => simp [away, found, ih]

theorem find?_change {at_ : Place} {changedName : String} {changed : Interface → Interface}
    (clear : ∀ iface : Interface, iface.isAt at_ changedName →
      ¬iface.isAt place name ∧ ¬(changed iface).isAt place name) :
    (kernel.change at_ changedName changed).find? place name = kernel.find? place name := by
  simp only [Kernel.find?, Kernel.change]
  induction kernel.interfaces with
  | nil => rfl
  | cons iface rest ih =>
      cases here : iface.isAt at_ changedName with
      | true =>
          obtain ⟨before, after⟩ := clear iface here
          simp [here, before, after, ih]
      | false =>
          cases found : iface.isAt place name with
          | true => simp [here, found]
          | false => simp [here, found, ih]

/-- A change of interfaces that leaves their kinds and links. -/
structure Adjusts (changed : Interface → Interface) : Prop where
  kind : ∀ iface, (changed iface).kind = iface.kind
  link : ∀ iface, (changed iface).link = iface.link

theorem Adjusts.holds {changed : Interface → Interface} (adjusts : Adjusts changed)
    (iface : Interface) (kind : Kind) (link : String) :
    (changed iface).holds kind link = iface.holds kind link := by
  simp [Interface.holds, adjusts.kind, adjusts.link]

/-- It is not the link. -/
def Clear (binding : Binding) (place : Place) (name : String) : Prop :=
  ¬(place = .host ∧ name = binding.linkIface)

theorem Clear.not_isAt {iface : Interface} (clear : Clear binding iface.place iface.name) :
    ¬iface.isAt .host binding.linkIface := by
  rw [isAt_iff]
  exact clear

theorem Clear.not_isAt_of {iface : Interface} (clear : Clear binding place name)
    (here : iface.isAt place name) : ¬iface.isAt .host binding.linkIface := by
  apply Clear.not_isAt
  rw [isAt_iff] at here
  rw [here.1, here.2]
  exact clear

theorem usable_add (kernel : Kernel) {iface : Interface} (clear : Clear binding iface.place iface.name)
    (fits : iface.holds binding.vif.createArgs binding.linkIface → binding.owns iface) :
    binding.Usable kernel (kernel.add iface) where
  free free new listed := by
    rcases List.mem_append.mp listed with old | added
    · exact free new old
    · rw [List.mem_singleton.mp added]
      exact fits
  netns := id
  link := by rw [Binding.linkMtu, find?_add clear.not_isAt, Binding.linkMtu]

theorem usable_without (kernel : Kernel) (clear : Clear binding place name) :
    binding.Usable kernel (kernel.without place name) where
  free free iface listed := free iface (List.mem_filter.mp listed).1
  netns := id
  link := by rw [Binding.linkMtu, find?_without fun _ => clear.not_isAt_of, Binding.linkMtu]

theorem usable_change (kernel : Kernel) {changed : Interface → Interface} (adjusts : Adjusts changed)
    (before : Clear binding place name)
    (after : ∀ iface, iface.isAt place name →
      Clear binding (changed iface).place (changed iface).name)
    (keeps : ∀ iface, iface.isAt place name → binding.owns iface → binding.owns (changed iface)) :
    binding.Usable kernel (kernel.change place name changed) where
  free free new listed holds := by
    obtain ⟨iface, old, rfl⟩ := List.mem_map.mp listed
    cases here : iface.isAt place name with
    | true =>
        simp only [here, if_true, adjusts.holds] at holds ⊢
        exact keeps iface here (free iface old holds)
    | false =>
        simp only [here] at holds ⊢
        exact free iface old holds
  netns := id
  link := by
    rw [Binding.linkMtu, find?_change, Binding.linkMtu]
    intro iface here
    exact ⟨before.not_isAt_of here, (after iface here).not_isAt⟩

/-! ## Names -/

/-- A name that the driver uses for a pod. -/
def Named (binding : Binding) (place : Place) (name : String) : Prop :=
  place = .host ∧ name = binding.vif.vifName ∨
    place = binding.place ∧ (name = binding.vif.vifName ∨ name = binding.ifname)

theorem owns_iff {iface : Interface} :
    binding.owns iface ↔ Named binding iface.place iface.name := by
  simp only [Binding.owns, Bool.or_eq_true, isAt_iff, Named]
  tauto

theorem named_of_isAt {iface : Interface} (here : iface.isAt place name) :
    binding.owns iface ↔ Named binding place name := by
  rw [isAt_iff] at here
  rw [owns_iff, here.1, here.2]

theorem untouched_add {iface : Interface} (clear : Clear binding iface.place iface.name)
    (foreign : ¬Named binding iface.place iface.name)
    (differs : ¬iface.holds binding.vif.createArgs binding.linkIface) :
    binding.Untouched kernel (kernel.add iface) where
  toUsable := usable_add kernel clear fun holds => absurd holds differs
  own := by
    rw [← owns_iff] at foreign
    simp [Binding.own, Kernel.add, foreign]

theorem untouched_without (clear : Clear binding place name) (foreign : ¬Named binding place name) :
    binding.Untouched kernel (kernel.without place name) where
  toUsable := usable_without kernel clear
  own := by
    rw [Binding.own, Kernel.without, List.filter_filter]
    apply List.filter_congr
    intro iface _
    cases here : iface.isAt place name with
    | true =>
        rw [← named_of_isAt here] at foreign
        simp [foreign]
    | false => simp

theorem untouched_change {changed : Interface → Interface} (adjusts : Adjusts changed)
    (before : Clear binding place name) (foreign : ¬Named binding place name)
    (after : ∀ iface, iface.isAt place name →
      Clear binding (changed iface).place (changed iface).name ∧
        ¬Named binding (changed iface).place (changed iface).name) :
    binding.Untouched kernel (kernel.change place name changed) where
  toUsable := by
    apply usable_change kernel adjusts before fun iface here => (after iface here).1
    intro iface here owned
    exact absurd ((named_of_isAt here).mp owned) foreign
  own := by
    simp only [Binding.own, Kernel.change]
    induction kernel.interfaces with
    | nil => rfl
    | cons iface rest ih =>
        cases here : iface.isAt place name with
        | true =>
            have old : ¬binding.owns iface := fun owned => foreign ((named_of_isAt here).mp owned)
            have new : ¬binding.owns (changed iface) := fun owned =>
              (after iface here).2 (owns_iff.mp owned)
            simp [here, old, new, ih]
        | false => simp [here, List.filter_cons, ih]

/-! ## Requests for another pod -/

/-- Neither the names nor the VLAN id of the other pod are those of this one, nor is its link
called so. -/
structure Apart (binding other : Binding) : Prop where
  netns : other.netns ≠ binding.netns
  vifName : other.vif.vifName ≠ binding.vif.vifName
  link : other.vif.vifName ≠ binding.linkIface
  vlan : ¬(other.vif.createArgs.clashes binding.vif.createArgs ∧
    other.linkIface = binding.linkIface)

section

variable (apart : Apart binding other)
include apart

theorem Apart.not_named (named : Named other place name) : ¬Named binding place name := by
  rcases named with ⟨rfl, rfl⟩ | ⟨rfl, _⟩
  · rintro (⟨_, same⟩ | ⟨same, _⟩)
    · exact apart.vifName same
    · cases same
  · rintro (⟨same, _⟩ | ⟨same, _⟩)
    · cases same
    · exact apart.netns (Place.netns.inj same)

theorem Apart.clear (named : Named other place name) : Clear binding place name := by
  rcases named with ⟨rfl, rfl⟩ | ⟨rfl, _⟩
  · exact fun same => apart.link same.2
  · rintro ⟨same, _⟩
    cases same

end

/-! ## Attempts -/

/-- Others' moves are in the frame, and the number of requests does not count. -/
structure Within (frame : Frame Kernel) (environment : Environment) : Prop where
  moves : ∀ number kernel, frame.rel kernel (environment.moves number kernel)
  counts : ∀ (kernel : Kernel) calls, frame.rel kernel (kernel.called calls)

/-- The interface that `connect` creates. -/
def Binding.created (binding : Binding) (mtu : Nat) : Interface where
  place := .host
  name := binding.vif.vifName
  kind := binding.vif.createArgs
  link := some binding.linkIface
  mtu := mtu
  address := ""
  up := false

/-- What the driver changes for a pod is in the frame. -/
structure Bears (frame : Frame Kernel) (binding : Binding) : Prop where
  without : ∀ place name, Named binding place name → ∀ kernel : Kernel,
    frame.rel kernel (kernel.without place name)
  add : ∀ (kernel : Kernel) mtu, frame.rel kernel (kernel.add (binding.created mtu))
  change : ∀ place name changed, Named binding place name → Adjusts changed →
    (∀ iface, iface.isAt place name →
      Named binding (changed iface).place (changed iface).name) → ∀ kernel : Kernel,
    frame.rel kernel (kernel.change place name changed)

section

variable {environment : Environment} {frame : Frame Kernel} (within : Within frame environment)
include within

theorem keeps_request {α : Type} {operation : KernelM α} (kept : frame.Keeps operation) :
    frame.Keeps (request environment operation) := by
  intro kernel
  rw [request, exec_get_bind, exec_set_bind]
  apply frame.trans (within.moves kernel.calls kernel)
  apply frame.trans (within.counts _ kernel.calls)
  exact Frame.Keeps.serve kept _

theorem keeps_getIpdb (place : Place) : frame.Keeps (getIpdb environment place) := by
  apply keeps_request within
  apply Frame.keeps_get.bind
  intro kernel
  exact (Frame.keeps_pure _).ite (Frame.keeps_throw _)

theorem keeps_inInterfaces (place : Place) (name : String) :
    frame.Keeps (inInterfaces environment place name) :=
  keeps_request within fun kernel => frame.refl kernel

theorem keeps_getMtu (place : Place) (name : String) :
    frame.Keeps (getMtu environment place name) := by
  apply keeps_request within
  apply Frame.keeps_get.bind
  intro kernel
  split
  · exact Frame.keeps_pure _
  · exact Frame.keeps_throw _

variable (bears : Bears frame binding)
include bears

theorem keeps_remove (named : Named binding place name) :
    frame.Keeps (remove environment place name) := by
  apply keeps_request within
  intro kernel
  rw [exec_get_bind]
  split
  · exact bears.without place name named kernel
  · exact frame.refl kernel

theorem keeps_create :
    frame.Keeps
      (create environment binding.vif.vifName binding.linkIface binding.vif.createArgs) := by
  apply keeps_request within
  intro kernel
  rw [exec_get_bind]
  split
  · exact frame.refl kernel
  · split
    · exact frame.refl kernel
    · exact bears.add kernel _

theorem keeps_setLink {target : Place} {ifname : String} {changed : Interface → Interface}
    (named : Named binding place name) (adjusts : Adjusts changed)
    (keeps : ∀ iface, iface.isAt place name →
      Named binding (changed iface).place (changed iface).name) :
    frame.Keeps (setLink environment place name target ifname changed) := by
  apply keeps_request within
  intro kernel
  rw [exec_get_bind]
  split
  · exact frame.refl kernel
  · split
    · exact frame.refl kernel
    · exact bears.change place name changed named adjusts keeps kernel

theorem keeps_removeIfaces {names : List String} (named : ∀ name ∈ names, Named binding place name) :
    frame.Keeps (removeIfaces environment place names) := by
  apply Frame.Keeps.forM
  intro name listed
  apply (keeps_inInterfaces within place name).bind
  intro present
  apply Frame.Keeps.ite
  · exact keeps_remove within bears (named name listed)
  · exact Frame.keeps_pure _

theorem keeps_disconnect : frame.Keeps (disconnect environment binding) := by
  apply (keeps_getIpdb within binding.place).bind
  intro _
  apply keeps_removeIfaces within bears
  intro name listed
  simp only [List.mem_cons, List.not_mem_nil, or_false] at listed
  exact .inr ⟨rfl, listed⟩

theorem keeps_moveTo :
    frame.Keeps (moveTo environment binding.vif.vifName binding.netns) := by
  rw [moveTo]
  apply (keeps_getIpdb within _).bind
  intro _
  apply keeps_setLink within bears
  · exact .inl ⟨rfl, rfl⟩
  · exact ⟨fun _ => rfl, fun _ => rfl⟩
  · intro iface here
    rw [isAt_iff] at here
    exact .inr ⟨rfl, .inl here.2⟩

theorem keeps_createIface : frame.Keeps (createIface environment binding) := by
  apply (keeps_getIpdb within .host).bind
  intro _
  apply (keeps_getMtu within .host binding.linkIface).bind
  intro mtu
  apply Frame.Keeps.ite
  · exact Frame.keeps_throw _
  · apply (keeps_create within bears).bind
    exact fun _ => keeps_moveTo within bears

theorem keeps_rename :
    frame.Keeps
      (rename environment binding.place binding.vif.vifName binding.ifname) := by
  rw [rename]
  apply keeps_setLink within bears
  · exact .inr ⟨rfl, .inl rfl⟩
  · exact ⟨fun _ => rfl, fun _ => rfl⟩
  · intro iface here
    rw [isAt_iff] at here
    exact .inr ⟨here.1, .inr rfl⟩

/-- A change that leaves the name. -/
theorem keeps_change {changed : Interface → Interface} (adjusts : Adjusts changed)
    (same : ∀ iface, (changed iface).place = iface.place ∧ (changed iface).name = iface.name) :
    frame.Keeps (setLink environment binding.place binding.ifname binding.place binding.ifname
      changed) := by
  have final : Named binding binding.place binding.ifname := .inr ⟨rfl, .inr rfl⟩
  apply keeps_setLink within bears final adjusts
  intro iface here
  rw [isAt_iff] at here
  rw [(same iface).1, (same iface).2, here.1, here.2]
  exact final

theorem keeps_configureIface : frame.Keeps (configureIface environment binding) := by
  have mtu : frame.Keeps (setMtu environment binding.place binding.ifname binding.vif.mtu) :=
    keeps_change within bears ⟨fun _ => rfl, fun _ => rfl⟩ fun _ => ⟨rfl, rfl⟩
  have address :
      frame.Keeps (setAddress environment binding.place binding.ifname binding.vif.address) :=
    keeps_change within bears ⟨fun _ => rfl, fun _ => rfl⟩ fun _ => ⟨rfl, rfl⟩
  have up : frame.Keeps (setUp environment binding.place binding.ifname) :=
    keeps_change within bears ⟨fun _ => rfl, fun _ => rfl⟩ fun _ => ⟨rfl, rfl⟩
  apply (keeps_getIpdb within binding.place).bind
  intro _
  apply (keeps_inInterfaces within _ _).bind
  intro present
  apply Frame.Keeps.ite
  · apply (keeps_rename within bears).bind
    intro _
    apply mtu.bind
    intro _
    apply address.bind
    intro _
    exact up
  · exact Frame.keeps_throw _

theorem keeps_connect : frame.Keeps (connect environment binding) := by
  apply (keeps_getIpdb within binding.place).bind
  intro _
  apply Frame.Keeps.bind
  · apply keeps_removeIfaces within bears
    intro name listed
    simp only [List.mem_cons, List.not_mem_nil, or_false] at listed
    exact .inr ⟨rfl, listed⟩
  · intro _
    apply (keeps_getIpdb within .host).bind
    intro _
    apply Frame.Keeps.bind
    · apply keeps_removeIfaces within bears
      intro name listed
      simp only [List.mem_cons, List.not_mem_nil, or_false] at listed
      exact .inl ⟨rfl, listed⟩
    · intro _
      apply Frame.Keeps.bind
      · apply (keeps_createIface within bears).tryCatch
        intro ex
        apply Frame.Keeps.ite
        · apply (keeps_getIpdb within .host).bind
          intro _
          apply (keeps_getIpdb within binding.place).bind
          exact fun _ => Frame.keeps_throw ex
        · exact Frame.keeps_throw ex
      · exact fun _ => keeps_configureIface within bears

end

theorem counts_untouched (binding : Binding) (kernel : Kernel) (calls : Nat) :
    (untouched binding).rel kernel (kernel.called calls) :=
  ⟨⟨id, id, rfl⟩, rfl⟩

/-- What the driver changes for another pod leaves this one alone. -/
theorem Apart.bears (apart : Apart binding other) : Bears (untouched binding) other where
  without _ _ named _ := untouched_without (apart.clear named) (apart.not_named named)
  add _ mtu := by
    have named : Named other .host other.vif.vifName := .inl ⟨rfl, rfl⟩
    apply untouched_add (apart.clear named) (apart.not_named named)
    intro holds
    apply apart.vlan
    simpa [Interface.holds, Binding.created] using holds
  change _ _ _ named adjusts keeps _ :=
    untouched_change adjusts (apart.clear named) (apart.not_named named) fun iface here =>
      ⟨apart.clear (keeps iface here), apart.not_named (keeps iface here)⟩

/-- Whatever requests for the other pod end with, and whatever else happens meanwhile that
leaves this pod alone, the interfaces of this pod stay as they are, and its VLAN id stays free:
be it connected or disconnected. -/
theorem attempts_apart (apart : Apart binding other) (environment : Environment)
    (moves : ∀ number kernel, binding.Untouched kernel (environment.moves number kernel)) :
    (untouched binding).Keeps (connect environment other) ∧
      (untouched binding).Keeps (disconnect environment other) := by
  have within : Within (untouched binding) environment := ⟨moves, counts_untouched binding⟩
  exact ⟨keeps_connect within apart.bears, keeps_disconnect within apart.bears⟩

end KuryrKubernetes.Cni.Links
