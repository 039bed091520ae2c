import KuryrKubernetes.K8sClient.Annotate
import KuryrKubernetes.Lbaas.Settled

/-!
# Two writers of the state of a load balancer

`LoadBalancerHandler.on_present` and `LBaaSv2Driver.update_lbaas_sg` both change a copy of the
state and store it with `K8sClient.annotate`, which after a conflict writes its old value under
the new version.  They are followed from one Kubernetes call to the next.
-/

namespace KuryrKubernetes.Lbaas

open KuryrKubernetes.Data
open KuryrKubernetes.Effect
open KuryrKubernetes.K8sClient
open KuryrKubernetes.Transition

variable {Address W : Type} [DecidableEq Address]

/-! ## What the writers store -/

/-- `on_present` up to the write of the annotation. -/
def LoadBalancerHandler.prepareState (handler : LoadBalancerHandler Address W)
    (endpoints : Endpoints Address) : Program PyException W (Option (LbaasState Address)) := do
  let ignored ← settle (handler.shouldIgnore endpoints)
  match ignored, endpoints.lbaasSpec with
  | false, some spec => do
      let synced ← handler.syncLbaasMembers endpoints (endpoints.lbaasState.getD {}) spec
      if synced.2 then do
        let state ← handler.servePubIp synced.1 spec
        return some state
      else
        return none
  | _, _ => return none

/-- `on_present` prepares the state and stores it. -/
theorem LoadBalancerHandler.onPresent_eq (handler : LoadBalancerHandler Address W)
    (endpoints : Endpoints Address) :
    handler.onPresent endpoints =
      (do
        let prepared ← handler.prepareState endpoints
        match prepared with
        | some state => handler.storeState state
        | none => pure ⟨⟩) := by
  unfold onPresent prepareState
  rw [bind_assoc]
  congr 1
  funext ignored
  cases ignored with
  | true => rfl
  | false =>
      cases endpoints.lbaasSpec with
      | none => rfl
      | some spec =>
          dsimp only
          rw [bind_assoc]
          congr 1
          funext synced
          split
          · rw [bind_assoc]
            rfl
          · rfl

/-- The change that `update_lbaas_sg` makes; there has to be a load balancer. -/
def LbaasState.withGroups (state : LbaasState Address) (sgs : List String) :
    Option (LbaasState Address) :=
  state.loadbalancer.map fun lb =>
    { state with loadbalancer := some { lb with securityGroups := sgs } }

/-! ## Steps -/

/-- The endpoints object at the API server. -/
structure StoredEndpoints (Address : Type) where
  version : Nat
  lbaasState : Option (LbaasState Address)
  deriving DecidableEq

/-- A writer: before it has its value, in `set_lbaas_state`, and afterwards. -/
inductive Storing (Address : Type) where
  | waiting
  | patching (value : LbaasState Address) (resourceVersion : Nat)
  | getting (value : LbaasState Address)
  | stored (value : LbaasState Address)
  | ended
  deriving DecidableEq

/-- The value that the writer has and is not done with. -/
def Storing.openValue : Storing Address → Option (LbaasState Address)
  | .patching value _ | .getting value => some value
  | _ => none

/-- The value that the writer has. -/
def Storing.value : Storing Address → Option (LbaasState Address)
  | .patching value _ | .getting value | .stored value => some value
  | _ => none

inductive Writer where
  | onPresent
  | updateLbaasSg
  deriving DecidableEq

/-- The object and its two writers. -/
structure Writers (Address : Type) where
  endpoints : Option (StoredEndpoints Address)
  onPresent : Storing Address := .waiting
  updateLbaasSg : Storing Address := .waiting
  deriving DecidableEq

namespace Writers

variable (writers : Writers Address)

/-- Where a writer is. -/
def storing : Writer → Storing Address
  | .onPresent => writers.onPresent
  | .updateLbaasSg => writers.updateLbaasSg

/-- A writer goes on. -/
def move (writer : Writer) (storing : Storing Address) : Writers Address :=
  match writer with
  | .onPresent => { writers with onPresent := storing }
  | .updateLbaasSg => { writers with updateLbaasSg := storing }

end Writers

/-- What happens: a writer gets its value, a call of a writer is answered, or others write or
delete the object. -/
inductive StoreLabel (W : Type) where
  | prepare (world : W)
  | read (sgs : List String)
  | patch (writer : Writer)
  | get (writer : Writer)
  | fail (writer : Writer)
  | elsewhere
  | deleted

section

variable (handler : LoadBalancerHandler Address W) (event : Endpoints Address)
  (eventVersion : Nat)

/-- The steps.  `on_present` works on the copy of its event. -/
def storeStep : Step (Writers Address) (StoreLabel W)
  | writers, .prepare world =>
      match writers.onPresent, (exec (handler.prepareState event) world).1 with
      | .waiting, .ok (some state) =>
          some { writers with onPresent := .patching state eventVersion }
      | .waiting, _ => some { writers with onPresent := .ended }
      | _, _ => none
  | writers, .read sgs =>
      match writers.updateLbaasSg, writers.endpoints with
      | .waiting, some endpoints =>
          match endpoints.lbaasState.bind (·.withGroups sgs) with
          | some state =>
              some { writers with updateLbaasSg := .patching state endpoints.version }
          | none => some { writers with updateLbaasSg := .ended }
      | .waiting, none => some { writers with updateLbaasSg := .ended }
      | _, _ => none
  | writers, .patch writer =>
      match writers.storing writer, writers.endpoints with
      | .patching value version, some endpoints =>
          if version = endpoints.version then
            some { writers.move writer (.stored value) with
              endpoints := some ⟨endpoints.version + 1, some value⟩ }
          else
            some (writers.move writer (.getting value))
      | .patching _ _, none => some (writers.move writer .ended)
      | _, _ => none
  | writers, .get writer =>
      match writers.storing writer, writers.endpoints with
      | .getting value, some endpoints =>
          if endpoints.lbaasState = some value then
            some (writers.move writer (.stored value))
          else
            some (writers.move writer (.patching value endpoints.version))
      | .getting _, none => some (writers.move writer .ended)
      | _, _ => none
  | writers, .fail writer =>
      if (writers.storing writer).openValue.isSome then some (writers.move writer .ended) else none
  | writers, .elsewhere =>
      some { writers with
        endpoints := writers.endpoints.map fun endpoints =>
          { endpoints with version := endpoints.version + 1 } }
  | writers, .deleted => some { writers with endpoints := none }

end

/-! ## The calls are those of `annotate` -/

/-- The text of the annotation, written to the resource. -/
def lbaasStateRequest (key : String) (dumps : LbaasState Address → String)
    (value : LbaasState Address) : Annotate.Request :=
  (∅ : Annotate.Request).set key (some (dumps value))

/-- The resource holds the texts of the endpoints. -/
def Holds (key : String) (dumps : LbaasState Address → String) (resource : Annotate.Resource)
    (endpoints : StoredEndpoints Address) : Prop :=
  resource.version = endpoints.version ∧
    resource.annotations.get? key = endpoints.lbaasState.map dumps

/-- `annotate` looks for its value in the texts as the writers do in the objects. -/
theorem retrieved_of_holds {key : String} {dumps : LbaasState Address → String}
    (injective : Function.Injective dumps) {resource : Annotate.Resource}
    {endpoints : StoredEndpoints Address} (holds : Holds key dumps resource endpoints)
    (value : LbaasState Address) :
    Annotate.retrieved (lbaasStateRequest key dumps value) resource =
      if endpoints.lbaasState = some value then
        .returned (resource.shown.getD ∅)
      else
        .patching (some endpoints.version) := by
  have present_iff : (lbaasStateRequest key dumps value).present (resource.shown.getD ∅) = true ↔
      endpoints.lbaasState = some value := by
    rw [Annotate.present_iff]
    constructor
    · intro has
      have there := has key (some (dumps value)) (Dict.get?_set_self ∅ key _)
      rw [holds.2] at there
      cases known : endpoints.lbaasState with
      | none =>
          rw [known] at there
          cases there
      | some state =>
          rw [known] at there
          rw [injective (Option.some.inj there)]
    · intro same other text asked
      unfold lbaasStateRequest at asked
      rw [Dict.get?_set] at asked
      split at asked
      · rename_i isKey
        cases asked
        rw [isKey, holds.2, same]
        rfl
      · cases asked
  unfold Annotate.retrieved
  dsimp only
  by_cases same : endpoints.lbaasState = some value
  · rw [if_pos (present_iff.mpr same), if_pos same]
  · rw [if_neg fun present => same (present_iff.mp present), if_neg same, holds.1]

omit [DecidableEq Address] in
/-- A patch of `annotate` does to the texts what a patch of a writer does to the objects. -/
theorem patch_of_holds {key : String} {dumps : LbaasState Address → String}
    {resource : Annotate.Resource} {endpoints : StoredEndpoints Address}
    (holds : Holds key dumps resource endpoints) (value : LbaasState Address) (version : Nat)
    (site : Annotate.Site) (there : site.resource = some resource)
    (newest : site.newest = endpoints.version) :
    if version = endpoints.version then
      ∃ merged, (site.patch (lbaasStateRequest key dumps value) (some version)).resource =
        some merged ∧ Holds key dumps merged ⟨endpoints.version + 1, some value⟩
    else
      (site.patch (lbaasStateRequest key dumps value) (some version)).resource = some resource ∧
        (site.patch (lbaasStateRequest key dumps value) (some version)).call = .getting := by
  unfold Annotate.Site.patch
  rw [there]
  dsimp only
  have stale_iff : resource.stale (some version) = true ↔ version ≠ endpoints.version := by
    unfold Annotate.Resource.stale
    rw [holds.1]
    exact decide_eq_true_iff
  split
  · rename_i fresh
    rw [if_neg fun stale => (stale_iff.mp stale) fresh]
    refine ⟨_, rfl, ?_, ?_⟩
    · change site.newest + 1 = endpoints.version + 1
      rw [newest]
    · change (Annotate.merge resource.annotations _).get? key = some (dumps value)
      rw [Annotate.get?_merge]
      unfold lbaasStateRequest
      rw [Dict.get?_set_self]
      rfl
  · rename_i other
    rw [if_pos (stale_iff.mpr other)]
    exact ⟨rfl, rfl⟩

/-! ## Runs -/

/-- The states have the same listeners, pools and members. -/
structure SameParts (first second : LbaasState Address) : Prop where
  listeners : first.listeners = second.listeners
  pools : first.pools = second.pools
  members : first.members = second.members

omit [DecidableEq Address] in
theorem SameParts.refl (state : LbaasState Address) : SameParts state state :=
  ⟨rfl, rfl, rfl⟩

omit [DecidableEq Address] in
theorem sameParts_of_withGroups {state changed : LbaasState Address} {sgs : List String}
    (changes : state.withGroups sgs = some changed) : SameParts state changed := by
  rcases Option.map_eq_some_iff.mp changes with ⟨lb, _, rfl⟩
  exact ⟨rfl, rfl, rfl⟩

/-- The patch that the writer sends next is applied. -/
def Writers.applies (writers : Writers Address) (writer : Writer) : Bool :=
  match writers.storing writer, writers.endpoints with
  | .patching _ version, some endpoints => version == endpoints.version
  | _, _ => false

/-- No patch of `on_present` is applied while `update_lbaas_sg` has read the state and has not
stored its own. -/
def NoOverlap (writers : Writers Address) : StoreLabel W → Prop
  | .patch .onPresent =>
      writers.applies .onPresent = true → writers.updateLbaasSg.openValue = none
  | _ => True

instance (writers : Writers Address) (label : StoreLabel W) :
    Decidable (NoOverlap writers label) :=
  match label with
  | .patch .onPresent =>
      inferInstanceAs (Decidable (writers.applies .onPresent = true → _))
  | .patch .updateLbaasSg | .prepare _ | .read _ | .get _ | .fail _ | .elsewhere | .deleted =>
      .isTrue trivial

/-- The stored state is there, with the parts of another one. -/
def Writers.Stores (writers : Writers Address) (value : LbaasState Address) : Prop :=
  ∀ endpoints ∈ writers.endpoints, ∃ state,
    endpoints.lbaasState = some state ∧ SameParts state value

section

variable {handler : LoadBalancerHandler Address W} {event : Endpoints Address}
  {eventVersion : Nat}

/-- What holds at any time: the state of `on_present` was prepared from its event; once stored,
its parts stay; and while `update_lbaas_sg` is on its way the stored state has its parts. -/
structure Writers.Agree (handler : LoadBalancerHandler Address W) (event : Endpoints Address)
    (writers : Writers Address) : Prop where
  prepared : ∀ value ∈ writers.onPresent.value, ∃ world,
    (exec (handler.prepareState event) world).1 = .ok (some value)
  updating : ∀ value ∈ writers.updateLbaasSg.openValue, writers.Stores value
  presented : ∀ value, writers.onPresent = .stored value → writers.Stores value

/-- `on_present` works out a state, or ends without one. -/
theorem prepare_cases {writers after : Writers Address} {world : W}
    (taken : storeStep handler event eventVersion writers (.prepare world) = some after) :
    (∃ state, (exec (handler.prepareState event) world).1 = .ok (some state) ∧
      after = writers.move .onPresent (.patching state eventVersion)) ∨
    after = writers.move .onPresent .ended := by
  rcases writers with ⟨there, presenting, updating⟩
  cases presenting with
  | waiting =>
      unfold storeStep at taken
      dsimp only at taken
      rcases ran : (exec (handler.prepareState event) world).1 with exception | _ | state
      · rw [ran] at taken
        cases taken
        exact .inr rfl
      · rw [ran] at taken
        cases taken
        exact .inr rfl
      · rw [ran] at taken
        cases taken
        exact .inl ⟨state, rfl, rfl⟩
  | patching _ _ | getting _ | stored _ | ended => cases taken

/-- `update_lbaas_sg` changes the state that it reads, or ends without one. -/
theorem read_cases {writers after : Writers Address} {sgs : List String}
    (taken : storeStep handler event eventVersion writers (.read sgs) = some after) :
    (∃ endpoints state changed, writers.endpoints = some endpoints ∧
      endpoints.lbaasState = some state ∧ state.withGroups sgs = some changed ∧
      after = writers.move .updateLbaasSg (.patching changed endpoints.version)) ∨
    after = writers.move .updateLbaasSg .ended := by
  rcases writers with ⟨there, presenting, updating⟩
  cases updating with
  | waiting =>
      cases there with
      | none =>
          cases taken
          exact .inr rfl
      | some endpoints =>
          unfold storeStep at taken
          dsimp only at taken
          cases changes : endpoints.lbaasState.bind (·.withGroups sgs) with
          | none =>
              rw [changes] at taken
              cases taken
              exact .inr rfl
          | some changed =>
              rw [changes] at taken
              cases taken
              rcases Option.bind_eq_some_iff.mp changes with ⟨state, known, made⟩
              left
              exact ⟨endpoints, state, changed, rfl, known, made, rfl⟩
  | patching _ _ | getting _ | stored _ | ended => cases taken

/-- A patch is applied, or is answered with a conflict, or the object is gone. -/
theorem patch_cases {writers after : Writers Address} {writer : Writer}
    (taken : storeStep handler event eventVersion writers (.patch writer) = some after) :
    (∃ value endpoints, writers.endpoints = some endpoints ∧
      writers.storing writer = .patching value endpoints.version ∧
      after = { writers.move writer (.stored value) with
        endpoints := some ⟨endpoints.version + 1, some value⟩ }) ∨
    (∃ value version, writers.storing writer = .patching value version ∧
      after = writers.move writer (.getting value)) ∨
    after = writers.move writer .ended := by
  change (match writers.storing writer, writers.endpoints with
    | .patching value version, some endpoints => _
    | .patching _ _, none => _
    | _, _ => none) = some after at taken
  cases going : writers.storing writer with
  | patching value version =>
      rw [going] at taken
      cases there : writers.endpoints with
      | none =>
          rw [there] at taken
          cases taken
          exact .inr (.inr rfl)
      | some endpoints =>
          rw [there] at taken
          dsimp only at taken
          split at taken
          · rename_i fresh
            cases taken
            left
            exact ⟨value, endpoints, rfl, by rw [fresh], rfl⟩
          · cases taken
            right; left
            exact ⟨value, version, rfl, rfl⟩
  | waiting | getting _ | stored _ | ended =>
      rw [going] at taken
      cases taken

/-- After a conflict the value is there already, or is patched under the new version, or the
object is gone. -/
theorem get_cases {writers after : Writers Address} {writer : Writer}
    (taken : storeStep handler event eventVersion writers (.get writer) = some after) :
    (∃ value endpoints, writers.endpoints = some endpoints ∧
      writers.storing writer = .getting value ∧ endpoints.lbaasState = some value ∧
      after = writers.move writer (.stored value)) ∨
    (∃ value version, writers.storing writer = .getting value ∧
      after = writers.move writer (.patching value version)) ∨
    after = writers.move writer .ended := by
  change (match writers.storing writer, writers.endpoints with
    | .getting value, some endpoints => _
    | .getting _, none => _
    | _, _ => none) = some after at taken
  cases going : writers.storing writer with
  | getting value =>
      rw [going] at taken
      cases there : writers.endpoints with
      | none =>
          rw [there] at taken
          cases taken
          exact .inr (.inr rfl)
      | some endpoints =>
          rw [there] at taken
          dsimp only at taken
          split at taken
          · rename_i present
            cases taken
            left
            exact ⟨value, endpoints, rfl, rfl, present, rfl⟩
          · cases taken
            right; left
            exact ⟨value, endpoints.version, rfl, rfl⟩
  | waiting | patching _ _ | stored _ | ended =>
      rw [going] at taken
      cases taken

namespace Writers.Agree

variable {writers : Writers Address}

/-- A writer goes on with its value, or ends without having stored it. -/
theorem move (agree : writers.Agree handler event) {writer : Writer} {next : Storing Address}
    (values : ∀ value ∈ next.value, value ∈ (writers.storing writer).value)
    (opens : ∀ value ∈ next.openValue, value ∈ (writers.storing writer).openValue)
    (presented : ∀ value, next = .stored value → writers.Stores value) :
    (writers.move writer next).Agree handler event := by
  cases writer with
  | onPresent =>
      constructor
      · intro value held
        exact agree.prepared value (values value held)
      · exact agree.updating
      · exact presented
  | updateLbaasSg =>
      constructor
      · exact agree.prepared
      · intro value open_
        exact agree.updating value (opens value open_)
      · exact agree.presented

theorem end_ (agree : writers.Agree handler event) (writer : Writer) :
    (writers.move writer .ended).Agree handler event := by
  apply agree.move
  · rintro _ ⟨⟩
  · rintro _ ⟨⟩
  · rintro _ ⟨⟩

/-- A writer goes on with the value that it is not done with. -/
theorem goOn (agree : writers.Agree handler event) {writer : Writer} {value : LbaasState Address}
    {next : Storing Address} (open_ : value ∈ (writers.storing writer).openValue)
    (held : value ∈ (writers.storing writer).value) (nextOpen : next.openValue = some value)
    (nextHeld : next.value = some value) (unstored : ∀ other, next ≠ .stored other) :
    (writers.move writer next).Agree handler event := by
  apply agree.move
  · intro other member
    rw [nextHeld] at member
    cases member
    exact held
  · intro other member
    rw [nextOpen] at member
    cases member
    exact open_
  · intro other stored
    exact absurd stored (unstored other)

theorem prepare (agree : writers.Agree handler event) {world : W} {state : LbaasState Address}
    (ran : (exec (handler.prepareState event) world).1 = .ok (some state)) :
    (writers.move .onPresent (.patching state eventVersion)).Agree handler event := by
  constructor
  · rintro value ⟨⟩
    exact ⟨world, ran⟩
  · exact agree.updating
  · rintro _ ⟨⟩

theorem read (agree : writers.Agree handler event) {endpoints : StoredEndpoints Address}
    {state changed : LbaasState Address} {sgs : List String}
    (there : writers.endpoints = some endpoints) (known : endpoints.lbaasState = some state)
    (changes : state.withGroups sgs = some changed) :
    (writers.move .updateLbaasSg (.patching changed endpoints.version)).Agree handler event := by
  constructor
  · exact agree.prepared
  · rintro _ ⟨⟩ current same
    have isThere : writers.endpoints = some current := same
    rw [there] at isThere
    cases isThere
    exact ⟨state, known, sameParts_of_withGroups changes⟩
  · exact agree.presented

/-- `on_present` stores its value, while `update_lbaas_sg` has none. -/
theorem storePresent (agree : writers.Agree handler event) {value : LbaasState Address}
    {version : Nat} (going : writers.onPresent = .patching value version)
    (closed : writers.updateLbaasSg.openValue = none) (stored : StoredEndpoints Address)
    (holds : stored.lbaasState = some value) :
    Writers.Agree handler event
      { writers.move .onPresent (.stored value) with endpoints := some stored } := by
  constructor
  · rintro _ ⟨⟩
    apply agree.prepared
    rw [going]
    rfl
  · intro other open_
    change other ∈ writers.updateLbaasSg.openValue at open_
    rw [closed] at open_
    cases open_
  · rintro _ ⟨⟩ _ ⟨⟩
    exact ⟨value, holds, SameParts.refl value⟩

/-- `update_lbaas_sg` stores the parts that it has read. -/
theorem storeUpdate (agree : writers.Agree handler event) {value : LbaasState Address}
    {endpoints : StoredEndpoints Address} (there : writers.endpoints = some endpoints)
    (going : writers.updateLbaasSg = .patching value endpoints.version)
    (stored : StoredEndpoints Address) (holds : stored.lbaasState = some value) :
    Writers.Agree handler event
      { writers.move .updateLbaasSg (.stored value) with endpoints := some stored } := by
  have open_ : value ∈ writers.updateLbaasSg.openValue := by
    rw [going]
    rfl
  constructor
  · exact agree.prepared
  · rintro _ ⟨⟩
  · rintro presented isStored _ ⟨⟩
    rcases agree.updating value open_ endpoints there with ⟨state, known, parts⟩
    rcases agree.presented presented isStored endpoints there with
      ⟨sameState, knownToo, partsToo⟩
    rw [known] at knownToo
    cases knownToo
    exact ⟨value, holds, parts.listeners.symm.trans partsToo.listeners,
      parts.pools.symm.trans partsToo.pools, parts.members.symm.trans partsToo.members⟩

/-- The object is changed elsewhere, or deleted. -/
theorem of_endpoints (agree : writers.Agree handler event)
    {endpoints : Option (StoredEndpoints Address)}
    (same : ∀ changed ∈ endpoints, ∃ current ∈ writers.endpoints,
      changed.lbaasState = current.lbaasState) :
    Writers.Agree handler event { writers with endpoints } := by
  have stores {value : LbaasState Address} (before : writers.Stores value) :
      Writers.Stores { writers with endpoints } value := by
    intro changed there
    rcases same changed there with ⟨current, known, sameState⟩
    rw [sameState]
    exact before current known
  constructor
  · exact agree.prepared
  · exact fun value open_ => stores (agree.updating value open_)
  · exact fun value stored => stores (agree.presented value stored)

end Writers.Agree

theorem agree_preserved :
    PreservedBy (storeStep handler event eventVersion) NoOverlap
      (Writers.Agree handler event) := by
  intro writers label after apart agree taken
  cases label with
  | prepare world =>
      rcases prepare_cases taken with ⟨state, ran, rfl⟩ | rfl
      · exact agree.prepare ran
      · exact agree.end_ .onPresent
  | read sgs =>
      rcases read_cases taken with ⟨endpoints, state, changed, there, known, changes, rfl⟩ | rfl
      · exact agree.read there known changes
      · exact agree.end_ .updateLbaasSg
  | patch writer =>
      rcases patch_cases taken with ⟨value, endpoints, there, going, rfl⟩ |
        ⟨value, version, going, rfl⟩ | rfl
      · cases writer with
        | onPresent =>
            have applies : writers.applies .onPresent = true := by
              unfold Writers.applies
              rw [going, there]
              exact beq_self_eq_true _
            exact agree.storePresent going (apart applies) _ rfl
        | updateLbaasSg => exact agree.storeUpdate there going _ rfl
      · apply agree.goOn
        · rw [going]
          rfl
        · rw [going]
          rfl
        · rfl
        · rfl
        · rintro _ ⟨⟩
      · exact agree.end_ writer
  | get writer =>
      rcases get_cases taken with ⟨value, endpoints, there, going, present, rfl⟩ |
        ⟨value, version, going, rfl⟩ | rfl
      · apply agree.move
        · rintro _ ⟨⟩
          rw [going]
          rfl
        · rintro _ ⟨⟩
        · rintro _ ⟨⟩ current known
          rw [there] at known
          cases known
          exact ⟨value, present, SameParts.refl value⟩
      · apply agree.goOn
        · rw [going]
          rfl
        · rw [going]
          rfl
        · rfl
        · rfl
        · rintro _ ⟨⟩
      · exact agree.end_ writer
  | fail writer =>
      change (if (writers.storing writer).openValue.isSome then _ else none) = some after at taken
      split at taken
      · cases taken
        exact agree.end_ writer
      · cases taken
  | elsewhere =>
      cases taken
      apply agree.of_endpoints
      intro changed there
      rcases Option.map_eq_some_iff.mp there with ⟨current, known, rfl⟩
      exact ⟨current, known, rfl⟩
  | deleted =>
      cases taken
      apply agree.of_endpoints
      rintro _ ⟨⟩

end

/-- The list has what was added to another one, and nothing of what was taken from it. -/
def Follows {Part : Type} (before changed stored : List Part) : Prop :=
  (∀ part ∈ changed, part ∉ before → part ∈ stored) ∧
    ∀ part ∈ before, part ∉ changed → part ∉ stored

/-- Where no patch of `on_present` falls between the read and the write of `update_lbaas_sg`,
the stored state follows what `on_present` made of the state of its event. -/
theorem stored_state_follows {handler : LoadBalancerHandler Address W}
    {event : Endpoints Address} {eventVersion : Nat}
    {start final : Writers Address} {labels : List (StoreLabel W)} {value : LbaasState Address}
    {endpoints : StoredEndpoints Address}
    (run : GuardedRun (storeStep handler event eventVersion) NoOverlap start labels final)
    (first : start.onPresent = .waiting) (second : start.updateLbaasSg = .waiting)
    (presented : final.onPresent = .stored value) (there : final.endpoints = some endpoints) :
    (∃ world, (exec (handler.prepareState event) world).1 = .ok (some value)) ∧
      ∃ stored, endpoints.lbaasState = some stored ∧
        Follows (event.lbaasState.getD {}).listeners value.listeners stored.listeners ∧
        Follows (event.lbaasState.getD {}).pools value.pools stored.pools ∧
        Follows (event.lbaasState.getD {}).members value.members stored.members := by
  have initially : start.Agree handler event := by
    constructor
    · rw [first]
      rintro _ ⟨⟩
    · rw [second]
      rintro _ ⟨⟩
    · rw [first]
      rintro _ ⟨⟩
  have agree := run.invariant agree_preserved initially
  constructor
  · apply agree.prepared
    rw [presented]
    rfl
  · rcases agree.presented value presented endpoints there with ⟨stored, known, parts⟩
    have follows {Part : Type} {before changed kept : List Part} (same : kept = changed) :
        Follows before changed kept := by
      rw [same]
      exact ⟨fun _ made _ => made, fun _ _ gone => gone⟩
    exact ⟨stored, known, follows parts.listeners, follows parts.pools, follows parts.members⟩

/-! ## A service with one pod -/

namespace StateWriters

/-- The load balancer is there, without a listener. -/
def bare : LbaasState String where
  loadbalancer := some
    { id := 1
      projectId := ""
      name := ⟨"default", "web"⟩
      ip := "10.0.0.1"
      subnetId := ""
      portId := 1 }

/-- The event of the pod. -/
def event : Endpoints String where
  namespaceName := "default"
  name := "web"
  subsets := some [Recorder.ready]
  lbaasSpec := some Recorder.spec
  lbaasState := some bare

def handler : LoadBalancerHandler String Recorder.World :=
  { Recorder.handler Recorder.format with servicePorts := .ok Recorder.spec.ports }

def start : Writers String where
  endpoints := some ⟨1, some bare⟩

/-- The update begins when the handler has stored its state. -/
def inTurn : List (StoreLabel Recorder.World) :=
  [.prepare {}, .patch .onPresent, .read ["group"], .patch .updateLbaasSg]

/-- The handler stores its state after the update has read the old one. -/
def overlapping : List (StoreLabel Recorder.World) :=
  [.read ["group"], .prepare {}, .patch .onPresent, .patch .updateLbaasSg, .get .updateLbaasSg,
    .patch .updateLbaasSg]

/-- The state of the handler and the one that is there, once both have stored theirs. -/
def outcome (final : Writers String) : Option (LbaasState String × LbaasState String) :=
  match final.onPresent, final.updateLbaasSg, final.endpoints.bind (·.lbaasState) with
  | .stored value, .stored _, some stored => some (value, stored)
  | _, _, _ => none

theorem of_outcome {final : Writers String} {value stored : LbaasState String}
    (ended : outcome final = some (value, stored)) :
    final.onPresent = .stored value ∧ (∃ other, final.updateLbaasSg = .stored other) ∧
      ∃ endpoints, final.endpoints = some endpoints ∧ endpoints.lbaasState = some stored := by
  unfold outcome at ended
  split at ended
  · rename_i presented updated there
    cases ended
    exact ⟨presented, ⟨_, updated⟩, Option.bind_eq_some_iff.mp there⟩
  · cases ended

end StateWriters

theorem stored_state_follows_in_turn :
    ∃ (value stored : LbaasState String), value.listeners.length = 1 ∧
      Follows StateWriters.bare.listeners value.listeners stored.listeners ∧
      Follows StateWriters.bare.pools value.pools stored.pools ∧
      Follows StateWriters.bare.members value.members stored.members := by
  have executed : ((runIf (storeStep StateWriters.handler StateWriters.event 1) NoOverlap
      StateWriters.inTurn StateWriters.start).bind fun final =>
        (StateWriters.outcome final).map (·.1.listeners.length)) = some 1 := by
    decide +kernel
  rcases Option.bind_eq_some_iff.mp executed with ⟨final, ran, ended⟩
  rcases Option.map_eq_some_iff.mp ended with ⟨⟨value, last⟩, both, long⟩
  rcases StateWriters.of_outcome both with ⟨presented, _, endpoints, there, _⟩
  rcases stored_state_follows (guardedRun_of_runIf ran) rfl rfl presented there with
    ⟨_, stored, _, follows⟩
  exact ⟨value, stored, long, follows⟩

/-- The update reads the state before the handler stores its own, and writes what it has read:
the listener of the handler is lost. -/
theorem overlapping_update_loses_listener :
    ∃ (final : Writers String) (value stored : LbaasState String),
      run (storeStep StateWriters.handler StateWriters.event 1) StateWriters.overlapping
        StateWriters.start = some final ∧
      final.onPresent = .stored value ∧ (∃ other, final.updateLbaasSg = .stored other) ∧
      final.endpoints.bind (·.lbaasState) = some stored ∧
      ∃ listener ∈ value.listeners, listener ∉ StateWriters.bare.listeners ∧
        listener ∉ stored.listeners := by
  have executed : ((run (storeStep StateWriters.handler StateWriters.event 1)
      StateWriters.overlapping StateWriters.start).bind fun final =>
        (StateWriters.outcome final).map fun pair =>
          (pair.1.listeners.length, pair.2.listeners)) = some (1, []) := by
    decide +kernel
  rcases Option.bind_eq_some_iff.mp executed with ⟨final, ran, ended⟩
  rcases Option.map_eq_some_iff.mp ended with ⟨⟨value, stored⟩, both, same⟩
  rcases StateWriters.of_outcome both with ⟨presented, updated, endpoints, there, known⟩
  rcases Prod.ext_iff.mp same with ⟨long, lost⟩
  refine ⟨final, value, stored, ran, presented, updated, ?_, ?_⟩
  · exact Option.bind_eq_some_iff.mpr ⟨endpoints, there, known⟩
  · dsimp only at long lost
    rcases List.length_eq_one_iff.mp long with ⟨listener, made⟩
    rw [made, lost]
    exact ⟨listener, List.mem_cons_self, List.not_mem_nil, List.not_mem_nil⟩

end KuryrKubernetes.Lbaas
