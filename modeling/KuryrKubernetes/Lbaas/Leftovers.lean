import KuryrKubernetes.Lbaas.Objects
import KuryrKubernetes.Transition.Run

/-!
# Load balancers left over

When the handler of load balancers starts, `_cleanup_leftover_lbaas` lists the services
and then the load balancers, and releases every load balancer whose address is not a
`clusterIP` of the first list.  Services come and go between the two lists, and until
the releases have been carried out; the second list is narrowed to the load balancers
of the controller by its resource tags, and not at all where there are none.
-/

namespace KuryrKubernetes.Lbaas.Leftovers

open KuryrKubernetes.Data
open KuryrKubernetes.Transition

/-! ## Tags -/

/-- What `add_tags` is called for. -/
inductive Resource where
  | loadbalancer
  | listener
  | pool
  | member
  deriving DecidableEq

/-- The part of a request that `add_tags` sets. -/
structure Request where
  tags : Option (List String) := none
  description : Option String := none
  deriving DecidableEq

/-- `resource_tags`, and whether Octavia supports tags. -/
structure Conf where
  resourceTags : List String
  octaviaTags : Bool

/-- `add_tags`. -/
def Conf.addTags (conf : Conf) (resource : Resource) (req : Request) : Request :=
  if conf.resourceTags = [] then
    req
  else if conf.octaviaTags then
    { req with tags := some conf.resourceTags }
  else if resource ∈ [.loadbalancer, .listener, .pool] then
    { req with description := some (",".intercalate conf.resourceTags) }
  else
    req

/-! ## Octavia -/

inductive Creator where
  | kuryr
  | other
  deriving DecidableEq

/-- A load balancer as Octavia has it, with who created it. -/
structure OctaviaLoadbalancer where
  vipAddress : String
  tags : List String
  description : String
  creator : Creator
  deriving DecidableEq

/-- The list operation: a load balancer has all tags asked for, and the description. -/
def Request.selects (req : Request) (lb : OctaviaLoadbalancer) : Bool :=
  (req.tags.all fun tags => tags.all (lb.tags.contains ·)) &&
    req.description.all (lb.description == ·)

/-- The load balancers under their ids, which are not used again. -/
structure Octavia where
  loadbalancers : Dict Nat OctaviaLoadbalancer := ∅
  nextId : Nat := 0
  below : ∀ id ∈ loadbalancers, id < nextId := by
    intro id present
    exact absurd present (Dict.not_mem_empty id)

namespace Octavia

/-- `create_load_balancer`. -/
def create (octavia : Octavia) (lb : OctaviaLoadbalancer) : Octavia where
  loadbalancers := octavia.loadbalancers.set octavia.nextId lb
  nextId := octavia.nextId + 1
  below := by
    intro id present
    rcases Dict.mem_set.mp present with rfl | old
    · exact Nat.lt_succ_self _
    · exact Nat.lt_succ_of_lt (octavia.below id old)

/-- `delete_load_balancer`. -/
def delete (octavia : Octavia) (id : Nat) : Octavia where
  loadbalancers := octavia.loadbalancers.erase id
  nextId := octavia.nextId
  below := by
    intro other present
    exact octavia.below other (Dict.mem_erase.mp present).2

end Octavia

/-! ## The cleanup -/

/-- How far `_cleanup_leftover_lbaas` is; while it goes through the load balancers it
holds `services_cluster_ip`. -/
inductive Cleanup where
  | spawned
  | listing (servicesClusterIp : List String)
  | finished
  deriving DecidableEq

/-- The cluster with the `clusterIP` of its services, Octavia, the cleanup, and the
load balancers that `_ensure_release_lbaas` has been spawned for. -/
structure Site where
  services : Dict ServiceName (Option String) := ∅
  octavia : Octavia := {}
  cleanup : Cleanup := .spawned
  releases : List Nat := []

/-- `services_cluster_ip`. -/
def servicesClusterIp (services : Dict ServiceName (Option String)) : List String :=
  services.values.filterMap fun clusterIp => clusterIp.filter (· != "")

/-- The turn of `_cleanup_leftover_lbaas` for one load balancer of the answer. -/
def Site.examine (site : Site) (servicesClusterIp : List String) (id : Nat)
    (lb : OctaviaLoadbalancer) : Site :=
  if lb.vipAddress ∈ servicesClusterIp then site
  else { site with releases := site.releases ++ [id] }

/-- How an attempt of `_ensure_release_lbaas` ends: Octavia deletes the load balancer
or has none, `ResourceNotReady` asks for another attempt, or the thread gives up. -/
inductive Outcome where
  | deleted
  | notFound
  | notReady
  | givesUp
  deriving DecidableEq

/-- One step of the cluster, of Octavia or of the cleanup.  Pages of load balancers
are fetched as they are gone through, so that other steps may come in between. -/
inductive Label where
  | setService (name : ServiceName) (clusterIp : Option String)
  | deleteService (name : ServiceName)
  | provision (ip : String)
  | createOther (vipAddress : String) (tags : List String) (description : String)
  | deleteLoadbalancer (id : Nat)
  | getServices
  | getServicesFails
  | nextLoadbalancer (id : Nat)
  | noLoadbalancer
  | release (id : Nat) (outcome : Outcome)
  deriving DecidableEq

namespace Site

/-- The handler creates a load balancer for the address of a specification. -/
def provision (conf : Conf) (site : Site) (ip : String) : Site :=
  let request := conf.addTags .loadbalancer {}
  { site with
    octavia := site.octavia.create
      { vipAddress := ip
        tags := request.tags.getD []
        description := request.description.getD ""
        creator := .kuryr } }

/-- An attempt of `_ensure_release_lbaas` ends. -/
def release (site : Site) (id : Nat) : Outcome → Option Site
  | .deleted =>
      if id ∈ site.octavia.loadbalancers then
        some
          { site with
            octavia := site.octavia.delete id
            releases := site.releases.erase id }
      else none
  | .notFound =>
      if id ∈ site.octavia.loadbalancers then none
      else some { site with releases := site.releases.erase id }
  | .notReady => some site
  | .givesUp => some { site with releases := site.releases.erase id }

/-- The cleanup goes on to a load balancer that Octavia answers with. -/
def nextLoadbalancer (conf : Conf) (site : Site) (id : Nat) : Option Site :=
  match site.cleanup, site.octavia.loadbalancers.get? id with
  | .listing servicesClusterIp, some lb =>
      if (conf.addTags .loadbalancer {}).selects lb then
        some (site.examine servicesClusterIp id lb)
      else none
  | _, _ => none

end Site

/-- One step. -/
def step (conf : Conf) (site : Site) : Label → Option Site
  | .setService name clusterIp =>
      some { site with services := site.services.set name clusterIp }
  | .deleteService name => some { site with services := site.services.erase name }
  | .provision ip => some (site.provision conf ip)
  | .createOther vipAddress tags description =>
      some { site with octavia := site.octavia.create ⟨vipAddress, tags, description, .other⟩ }
  | .deleteLoadbalancer id => some { site with octavia := site.octavia.delete id }
  | .getServices =>
      if site.cleanup = .spawned then
        some { site with cleanup := .listing (servicesClusterIp site.services) }
      else none
  | .getServicesFails =>
      if site.cleanup = .spawned then some { site with cleanup := .finished } else none
  | .nextLoadbalancer id => site.nextLoadbalancer conf id
  | .noLoadbalancer => some { site with cleanup := .finished }
  | .release id outcome => if id ∈ site.releases then site.release id outcome else none

/-! ## What is released -/

/-- A load balancer that may go: the controller created it and no service has its
address. -/
def Leftover (services : Dict ServiceName (Option String)) (lb : OctaviaLoadbalancer) : Prop :=
  lb.creator = .kuryr ∧ ∀ name, services.get? name ≠ some (some lb.vipAddress)

/-- The condition on a step: the cleanup goes on to no load balancer of somebody else
and to none of a service that has come since the services were listed, unless their
address was listed, and no service is given the address of a load balancer that is
about to be released. -/
def undisturbed (site : Site) : Label → Bool
  | .setService _ (some clusterIp) =>
      site.releases.all fun id =>
        (site.octavia.loadbalancers.get? id).all (·.vipAddress != clusterIp)
  | .nextLoadbalancer id =>
      match site.cleanup, site.octavia.loadbalancers.get? id with
      | .listing servicesClusterIp, some lb =>
          lb.vipAddress ∈ servicesClusterIp ||
            (lb.creator = .kuryr && !site.services.values.contains (some lb.vipAddress))
      | _, _ => true
  | _ => true

/-- What is about to be released is left over, unless it is gone. -/
def Site.Sorted (site : Site) : Prop :=
  ∀ id ∈ site.releases, id < site.octavia.nextId ∧
    ∀ lb, site.octavia.loadbalancers.get? id = some lb → Leftover site.services lb

section

variable {site : Site} {id : Nat} {lb : OctaviaLoadbalancer}

/-- A new load balancer is not about to be released. -/
theorem Site.Sorted.create (sorted : site.Sorted) (lb : OctaviaLoadbalancer) :
    { site with octavia := site.octavia.create lb }.Sorted := by
  intro id member
  obtain ⟨below, leftover⟩ := sorted id member
  constructor
  · exact Nat.lt_succ_of_lt below
  · intro found stored
    rw [Octavia.create, Dict.get?_set_of_ne _ _ (Nat.ne_of_lt below)] at stored
    exact leftover found stored

/-- A load balancer less. -/
theorem Site.Sorted.delete (sorted : site.Sorted) (id : Nat) :
    { site with octavia := site.octavia.delete id }.Sorted := by
  intro other member
  obtain ⟨below, leftover⟩ := sorted other member
  constructor
  · exact below
  · intro found stored
    rw [Octavia.delete, Dict.get?_erase] at stored
    split at stored
    · cases stored
    · exact leftover found stored

/-- A release less. -/
theorem Site.Sorted.erase (sorted : site.Sorted) (id : Nat) :
    { site with releases := site.releases.erase id }.Sorted :=
  fun other member => sorted other (List.mem_of_mem_erase member)

/-- A service is given an address that no pending release concerns. -/
theorem Site.Sorted.setService {name : ServiceName} {clusterIp : Option String}
    (sorted : site.Sorted)
    (allowed : undisturbed site (.setService name clusterIp) = true) :
    { site with services := site.services.set name clusterIp }.Sorted := by
  intro id member
  obtain ⟨below, leftover⟩ := sorted id member
  constructor
  · exact below
  · intro lb stored
    obtain ⟨created, unused⟩ := leftover lb stored
    constructor
    · exact created
    · intro other given
      rw [Dict.get?_set] at given
      split at given
      · cases Option.some.inj given
        have apart := List.all_eq_true.mp allowed id member
        rw [show site.octavia.loadbalancers.get? id = some lb from stored] at apart
        simp at apart
      · exact unused other given

theorem Site.Sorted.deleteService (sorted : site.Sorted) (name : ServiceName) :
    { site with services := site.services.erase name }.Sorted := by
  intro id member
  obtain ⟨below, leftover⟩ := sorted id member
  constructor
  · exact below
  · intro lb stored
    obtain ⟨created, unused⟩ := leftover lb stored
    constructor
    · exact created
    · intro other given
      rw [Dict.get?_erase] at given
      split at given
      · cases given
      · exact unused other given

/-- The cleanup goes on to a load balancer that is left over or has a listed address. -/
theorem Site.Sorted.nextLoadbalancer {conf : Conf} {after : Site} (sorted : site.Sorted)
    (allowed : undisturbed site (.nextLoadbalancer id) = true)
    (taken : site.nextLoadbalancer conf id = some after) : after.Sorted := by
  rw [Site.nextLoadbalancer] at taken
  rw [undisturbed] at allowed
  split at taken
  · rename_i servicesClusterIp lb listing stored
    rw [listing, stored] at allowed
    obtain ⟨_, same⟩ := Option.ite_none_right_eq_some.mp taken
    cases same
    rw [Site.examine]
    split
    · exact sorted
    · rename_i unlisted
      intro other member
      rcases List.mem_append.mp member with old | new
      · exact sorted other old
      · cases List.mem_singleton.mp new
        constructor
        · exact site.octavia.below id (Dict.mem_iff_exists_get?.mpr ⟨lb, stored⟩)
        · intro found same
          cases Option.some.inj (stored.symm.trans same)
          simp only [unlisted, decide_false, Bool.false_or, Bool.and_eq_true,
            decide_eq_true_eq, Bool.not_eq_true', List.contains_eq_mem,
            decide_eq_false_iff_not] at allowed
          constructor
          · exact allowed.1
          · intro name given
            exact allowed.2 (Dict.mem_values_iff.mpr ⟨name, given⟩)
  · cases taken

end

/-- An undisturbed step releases and will release left over load balancers only. -/
theorem sorted_step (conf : Conf) :
    PreservedBy (step conf) (fun site label => undisturbed site label = true) Site.Sorted := by
  intro site label after allowed sorted taken
  cases label with
  | setService name clusterIp =>
      cases taken
      exact sorted.setService allowed
  | deleteService name =>
      cases taken
      exact sorted.deleteService name
  | provision ip =>
      cases taken
      exact sorted.create _
  | createOther vipAddress tags description =>
      cases taken
      exact sorted.create _
  | deleteLoadbalancer id =>
      cases taken
      exact sorted.delete id
  | getServices =>
      obtain ⟨_, same⟩ := Option.ite_none_right_eq_some.mp taken
      cases same
      exact sorted
  | getServicesFails =>
      obtain ⟨_, same⟩ := Option.ite_none_right_eq_some.mp taken
      cases same
      exact sorted
  | nextLoadbalancer id => exact sorted.nextLoadbalancer allowed taken
  | noLoadbalancer =>
      cases taken
      exact sorted
  | release id outcome =>
      obtain ⟨_, released⟩ := Option.ite_none_right_eq_some.mp taken
      cases outcome with
      | deleted =>
          obtain ⟨_, same⟩ := Option.ite_none_right_eq_some.mp released
          cases same
          exact (sorted.delete id).erase id
      | notFound =>
          obtain ⟨_, same⟩ := Option.ite_none_left_eq_some.mp released
          cases same
          exact sorted.erase id
      | notReady =>
          cases released
          exact sorted
      | givesUp =>
          cases released
          exact sorted.erase id

/-- A controller with a resource tag. -/
def tagged : Conf where
  resourceTags := ["cluster"]
  octaviaTags := true

/-- A load balancer of a service, one of a service that is gone, and one of a tenant. -/
def restarted : Site where
  services := Dict.ofList [(⟨"default", "web"⟩, some "10.0.0.1")]
  octavia :=
    ((({} : Octavia).create ⟨"10.0.0.1", ["cluster"], "", .kuryr⟩).create
      ⟨"10.0.0.9", ["cluster"], "", .kuryr⟩).create ⟨"192.168.0.5", [], "", .other⟩

/-- What a release deletes in a run: the load balancer, and whether a service has its
address. -/
def Site.deletes (conf : Conf) (start : Site) (labels : List Label) (id : Nat) :
    Option (OctaviaLoadbalancer × Bool) :=
  (run (step conf) labels start).bind fun site =>
    (step conf site (.release id .deleted)).bind fun _ =>
      (site.octavia.loadbalancers.get? id).map fun lb =>
        (lb, site.services.values.contains (some lb.vipAddress))

end KuryrKubernetes.Lbaas.Leftovers
