import KuryrKubernetes.Policy.Allowed
import KuryrKubernetes.Policy.Driver

/-!
# What the event of a pod opens

`create_sg_rules` creates only rules that a policy allows as long as the peers of the
policies are read as they are written.  They are not read so where named ports of a block
fall back to everyone, although the block has peers and the pod is none of them.
-/

namespace KuryrKubernetes.Policy

open KuryrKubernetes.Data
open KuryrKubernetes.Effect

universe u

/-- Only rules of a kind are created at Neutron, whatever happens to the resources. -/
def creatingIn (allowed : SgRule → Prop) : Frame World where
  rel before after := (creating allowed).rel { neutron := before.neutron }
    { neutron := after.neutron }
  refl _ := (creating allowed).refl _
  trans first second := (creating allowed).trans first second

variable {snapshot : Snapshot} {allowed : SgRule → Prop}

theorem parseCrdRules_creates {subject : Subject} {direction : Direction} {crd : Crd}
    (kept : (creating allowed).Keeps (parseRules snapshot direction crd subject)) :
    (creatingIn allowed).Keeps (parseCrdRules snapshot subject direction crd) := by
  intro world
  have parsed := kept { neutron := world.neutron, crdRules := crd.sgRules direction }
  rw [parseCrdRules, exec_get_bind, exec_set_bind]
  split
  · exact parsed
  · exact parsed

theorem patchKuryrnetworkpolicyCrd_creates {crd : Crd} {iRules eRules : List CrdRule} :
    (creatingIn allowed).Keeps (patchKuryrnetworkpolicyCrd snapshot crd iRules eRules) := by
  unfold patchKuryrnetworkpolicyCrd
  split
  · exact Frame.keeps_pure _
  · exact Frame.keeps_throw _
  · exact Frame.keeps_modify fun world => (creating allowed).refl _

theorem updateCrd_creates {parse : Direction → Crd → DriverM (Bool × List CrdRule)} {crd : Crd}
    (kept : ∀ direction, (creatingIn allowed).Keeps (parse direction crd)) :
    (creatingIn allowed).Keeps (updateCrd snapshot parse crd) := by
  apply (kept .ingress).bind
  rintro ⟨iMatched, iRules⟩
  apply (kept .egress).bind
  rintro ⟨eMatched, eRules⟩
  apply Frame.Keeps.ite
  · exact patchKuryrnetworkpolicyCrd_creates.bind fun _ => Frame.keeps_pure _
  · exact Frame.keeps_pure _

theorem overCrds_creates {turn : Crd → DriverM (List LabelSelector)} {crds : List Crd}
    (each : ∀ crd ∈ crds, (creatingIn allowed).Keeps (turn crd)) :
    (creatingIn allowed).Keeps (overCrds turn crds) := by
  induction crds with
  | nil => exact Frame.keeps_pure _
  | cons crd rest ih =>
      apply (each crd List.mem_cons_self).bind
      intro selectors
      have later := ih fun other member => each other (List.mem_cons_of_mem crd member)
      exact later.bind fun _ => Frame.keeps_pure _

/-- Every rule that `create_sg_rules` creates for a pod is allowed by a policy, if the
peers of all policies are read as they are written. -/
theorem create_sg_rules_opens_allowed {Address : Type u} (covers : String → Address → Prop)
    (snapshot : Snapshot) (world : World) (pod : Pod)
    (reads : ∀ crd ∈ world.crds, ∀ direction, ReadsPeers snapshot crd direction pod)
    (id : Nat) (rule : SgRule)
    (present : (exec (NetworkPolicySecurityGroupsDriver.createSgRules snapshot pod) world).2.neutron.get? id =
      some rule) :
    world.neutron.get? id = some rule ∨
      ∃ crd ∈ world.crds, AllowedRule covers snapshot pod crd rule := by
  have kept : (creatingIn fun rule => ∃ crd ∈ world.crds, AllowedRule covers snapshot pod crd rule).Keeps
      (overCrds (updateCrd snapshot (parseCrdRules snapshot (.pod pod))) world.crds) := by
    apply overCrds_creates
    intro crd listed
    apply updateCrd_creates
    intro direction
    apply parseCrdRules_creates
    apply Frame.Keeps.mono (parseRules_allowed (reads crd listed direction))
    intro before after created id rule found
    rcases created id rule found with earlier | allowed
    · exact .inl earlier
    · exact .inr ⟨crd, listed, allowed⟩
  exact kept world id rule present

/-! ## A shop with a policy

Its pods accept clients at a port named `http`. -/

namespace Shop

/-- A pod of the shop with an address. -/
def pod (name ip app : String) (ports : List ContainerPort) : Pod :=
  { name, namespaceName := "shop", uid := name
    labels := some ((∅ : Labels).set "app" app)
    vifAnnotation := some { defaultVif := { id := name, network := ⟨"net"⟩, ipAddress := ip } }
    containers := [{ ports }] }

def server : Pod :=
  pod "server" "10.0.0.1" "server" [{ name := some "http", containerPort := ⟨8080, by decide⟩ }]

def client : Pod :=
  pod "client" "10.0.0.2" "client" []

def stranger : Pod :=
  pod "stranger" "10.0.0.3" "stranger" []

def policy : Crd :=
  { namespaceName := "shop", name := "clients", securityGroupId := "group"
    podSelector := { matchLabels := (∅ : Labels).set "app" "server" }
    spec :=
      { ingress :=
          [{ peers := [{ podSelector := some { matchLabels := (∅ : Labels).set "app" "client" } }]
             ports := some [{ port := some (.name "http") }] }] } }

def cluster : Snapshot :=
  { pods := [server, client, stranger], namespaces := [{ name := "shop" }] }

/-- The resources and Neutron before the first event. -/
def world : World :=
  { crds := [policy] }

/-- The rule for the client. -/
def rule : SgRule :=
  { securityGroupId := "group", direction := .ingress, protocol := .tcp
    portRangeMin := 8080, portRangeMax := 8080, remoteIpPrefix := some "10.0.0.2" }

end Shop

/-- The client has the port opened for its address. -/
theorem create_sg_rules_opens_allowed_for_client :
    Shop.world.neutron.get? 1 = some Shop.rule ∨ ∃ crd ∈ Shop.world.crds,
      AllowedRule (fun prefix_ address : String => prefix_ = address) Shop.cluster Shop.client crd
        Shop.rule :=
  create_sg_rules_opens_allowed _ Shop.cluster Shop.world Shop.client
    (by
      intro crd listed direction
      rw [List.mem_singleton.mp listed]
      cases direction <;> decide)
    1 Shop.rule (by decide)

/-- A stranger has the port opened for everyone. -/
theorem create_sg_rules_not_always_allowed :
    ¬∀ (snapshot : Snapshot) (world : World) (pod : Pod) (id : Nat) (rule : SgRule),
      (exec (NetworkPolicySecurityGroupsDriver.createSgRules snapshot pod) world).2.neutron.get? id =
        some rule →
      world.neutron.get? id = some rule ∨ ∃ crd ∈ world.crds,
        AllowedRule (fun prefix_ address : String => prefix_ = address) snapshot pod crd rule := by
  intro allowed
  have opened : (exec (NetworkPolicySecurityGroupsDriver.createSgRules Shop.cluster Shop.stranger)
      Shop.world).2.neutron.get? 1 = some { Shop.rule with remoteIpPrefix := none } := by
    decide
  rcases allowed Shop.cluster Shop.world Shop.stranger 1 _ opened with earlier | created
  · cases earlier
  · obtain ⟨crd, listed, _, block, written, _, everyone, _⟩ := created
    rw [List.mem_singleton.mp listed] at written
    rw [List.mem_singleton.mp written] at everyone
    exact absurd (everyone rfl) (by decide)

end KuryrKubernetes.Policy
