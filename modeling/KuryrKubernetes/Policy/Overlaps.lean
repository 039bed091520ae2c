import KuryrKubernetes.Policy.Driver
import KuryrKubernetes.Transition.Run
import KuryrKubernetes.Transition.Serial
import Mathlib.Logic.Function.Basic

/-!
# Calls for several pods at once

`create_sg_rules` and `delete_sg_rules` list all `KuryrNetPolicy` resources, work through them
and replace the rules of each without looking whether they are still those that were read.  The
calls are followed from one access to the resources to the next; Neutron and the cluster may
answer each time as they please.
-/

namespace KuryrKubernetes.Policy

open KuryrKubernetes.Data
open KuryrKubernetes.Effect
open KuryrKubernetes.Transition

/-! ## The turn of a call for a resource -/

inductive PodCall where
  | createSgRules (pod : Pod)
  | deleteSgRules (pod : Pod)
  deriving DecidableEq

/-- What the cluster and Neutron answer while the rules of one direction are worked out. -/
structure Answers where
  snapshot : Snapshot := {}
  neutron : Dict Nat SgRule := ∅

/-- The rules of both directions. -/
abbrev Rules := List CrdRule × List CrdRule

/-- The rules that are in a resource. -/
def Crd.rules (crd : Crd) : Rules :=
  (crd.ingressSgRules, crd.egressSgRules)

/-- A resource with other rules. -/
def Crd.holding (crd : Crd) (rules : Rules) : Crd :=
  crd.withRules rules.1 rules.2

namespace PodCall

/-- The call is for the deletion of a pod without an address: nothing is listed. -/
def idle : PodCall → Bool
  | createSgRules _ => false
  | deleteSgRules pod => pod.podIp.isNone

/-- The part of the call that works out the rules of one direction. -/
def program (call : PodCall) (snapshot : Snapshot) (direction : Direction) (crd : Crd) :
    DriverM (Bool × List CrdRule) :=
  match call with
  | createSgRules pod => parseCrdRules snapshot (.pod pod) direction crd
  | deleteSgRules pod =>
      parseRulesOnDeletePod snapshot (pod.podIp.getD "") (crd.sgRules direction)

/-- The rules of one direction. -/
def parse (call : PodCall) (answers : Answers) (direction : Direction) (crd : Crd) :
    Except PyException (Bool × List CrdRule) :=
  (exec (call.program answers.snapshot direction crd) { neutron := answers.neutron }).1

/-- The rules that the resource is to have, if some matched. -/
def turn (call : PodCall) (ingress egress : Answers) (crd : Crd) :
    Except PyException (Option Rules) := do
  let (iMatched, iRules) ← call.parse ingress .ingress crd
  let (eMatched, eRules) ← call.parse egress .egress crd
  return if iMatched ∨ eMatched then some (iRules, eRules) else none

/-- What a call makes of the rules of a resource when nothing comes between. -/
def Makes (call : PodCall) (crd : Crd) (before after : Rules) : Prop :=
  (call.idle = true ∧ after = before) ∨
    ∃ ingress egress written, call.turn ingress egress (crd.holding before) = .ok written ∧
      after = written.getD before

end PodCall

/-! ## Steps -/

/-- Where a call is: what it has still to do, and what it is about to write. -/
inductive CallPhase where
  | waiting
  | working (pending : List Crd)
  | patching (crd : Crd) (rules : Rules) (pending : List Crd)
  | done
  | raised
  deriving DecidableEq

/-- The resources, and where each call is. -/
structure Overlap where
  crds : List Crd
  phases : Nat → CallPhase := fun _ => .waiting

/-- A call goes on. -/
def Overlap.move (overlap : Overlap) (caller : Nat) (phase : CallPhase) : Overlap :=
  { overlap with phases := Function.update overlap.phases caller phase }

/-- `patch_crd` with `replace`. -/
def patchCrds (crds : List Crd) (crd : Crd) (rules : Rules) : List Crd :=
  crds.map fun other => if crd.sameResource other then other.holding rules else other

/-- What happens: a call lists the resources, works out the rules of the next one, patches it,
or fails. -/
inductive CallLabel where
  | list (caller : Nat)
  | turn (caller : Nat) (ingress egress : Answers)
  | patch (caller : Nat)
  | fail (caller : Nat)

/-- The steps of the calls. -/
def overlapStep (calls : List PodCall) : Step Overlap CallLabel
  | overlap, .list caller =>
      match calls[caller]?, overlap.phases caller with
      | some call, .waiting =>
          some (overlap.move caller (if call.idle then .done else .working overlap.crds))
      | _, _ => none
  | overlap, .turn caller ingress egress =>
      match calls[caller]?, overlap.phases caller with
      | some _, .working [] => some (overlap.move caller .done)
      | some call, .working (crd :: pending) =>
          match call.turn ingress egress crd with
          | .ok (some rules) => some (overlap.move caller (.patching crd rules pending))
          | .ok none => some (overlap.move caller (.working pending))
          | .error _ => some (overlap.move caller .raised)
      | _, _ => none
  | overlap, .patch caller =>
      match overlap.phases caller with
      | .patching crd rules pending =>
          some { overlap.move caller (.working pending) with
            crds := patchCrds overlap.crds crd rules }
      | _ => none
  | overlap, .fail caller =>
      match overlap.phases caller with
      | .working _ | .patching _ _ _ => some (overlap.move caller .raised)
      | _ => none

/-- What each label does where it is possible. -/
inductive Goes (calls : List PodCall) (overlap : Overlap) : CallLabel → Overlap → Prop
  | list {caller : Nat} {call : PodCall} (known : calls[caller]? = some call)
      (waits : overlap.phases caller = .waiting) :
      Goes calls overlap (.list caller)
        (overlap.move caller (if call.idle then .done else .working overlap.crds))
  | ended {caller : Nat} (ingress egress : Answers)
      (works : overlap.phases caller = .working []) :
      Goes calls overlap (.turn caller ingress egress) (overlap.move caller .done)
  | worked {caller : Nat} {call : PodCall} {ingress egress : Answers} {crd : Crd}
      {pending : List Crd} {rules : Rules} (known : calls[caller]? = some call)
      (works : overlap.phases caller = .working (crd :: pending))
      (turned : call.turn ingress egress crd = .ok (some rules)) :
      Goes calls overlap (.turn caller ingress egress)
        (overlap.move caller (.patching crd rules pending))
  | skipped {caller : Nat} {call : PodCall} {ingress egress : Answers} {crd : Crd}
      {pending : List Crd} (known : calls[caller]? = some call)
      (works : overlap.phases caller = .working (crd :: pending))
      (turned : call.turn ingress egress crd = .ok none) :
      Goes calls overlap (.turn caller ingress egress) (overlap.move caller (.working pending))
  | refused {caller : Nat} (ingress egress : Answers) :
      Goes calls overlap (.turn caller ingress egress) (overlap.move caller .raised)
  | patch {caller : Nat} {crd : Crd} {rules : Rules} {pending : List Crd}
      (patches : overlap.phases caller = .patching crd rules pending) :
      Goes calls overlap (.patch caller)
        { overlap.move caller (.working pending) with
          crds := patchCrds overlap.crds crd rules }
  | fail (caller : Nat) : Goes calls overlap (.fail caller) (overlap.move caller .raised)

theorem goes_of_step {calls : List PodCall} {overlap after : Overlap} {label : CallLabel}
    (taken : overlapStep calls overlap label = some after) : Goes calls overlap label after := by
  cases label with
  | list caller =>
      simp only [overlapStep] at taken
      split at taken
      · cases taken
        exact .list ‹_› ‹_›
      · cases taken
  | turn caller ingress egress =>
      simp only [overlapStep] at taken
      split at taken
      · cases taken
        exact .ended ingress egress ‹_›
      · split at taken
        · cases taken
          exact .worked ‹_› ‹_› ‹_›
        · cases taken
          exact .skipped ‹_› ‹_› ‹_›
        · cases taken
          exact .refused ingress egress
      · cases taken
  | patch caller =>
      simp only [overlapStep] at taken
      split at taken
      · cases taken
        exact .patch ‹_›
      · cases taken
  | fail caller =>
      simp only [overlapStep] at taken
      split at taken
      · cases taken
        exact .fail caller
      · cases taken
        exact .fail caller
      · cases taken

/-- A patch finds the rules that its call has read. -/
def FindsRead (overlap : Overlap) : CallLabel → Prop
  | .patch caller =>
      match overlap.phases caller with
      | .patching crd _ _ =>
          ∀ other ∈ overlap.crds, crd.sameResource other = true → other.rules = crd.rules
      | _ => True
  | _ => True

/-! ## The driver -/

/-- The resources are neither read nor changed. -/
def Blind {β : Type} (program : DriverM β) : Prop :=
  ∀ world : World, exec program world =
    ((exec program { neutron := world.neutron }).1,
      { world with neutron := (exec program { neutron := world.neutron }).2.neutron })

section

variable {β γ : Type} {snapshot : Snapshot}

theorem blind_pure (value : β) : Blind (pure value) :=
  fun _ => rfl

theorem Blind.bind {first : DriverM β} {next : β → DriverM γ} (blind : Blind first)
    (then_ : ∀ value, Blind (next value)) : Blind (first >>= next) := by
  intro world
  rw [exec_bind, exec_bind, blind world]
  rcases ran : exec first { neutron := world.neutron } with ⟨outcome | value, middle⟩
  · rfl
  · have kept : middle = { neutron := middle.neutron } := by
      have there := blind { neutron := world.neutron }
      rw [ran] at there
      exact congrArg Prod.snd there
    dsimp only
    rw [then_ value, kept]

theorem blind_deleteSecurityGroupRule (id : Nat) :
    Blind (deleteSecurityGroupRule snapshot id) := by
  unfold deleteSecurityGroupRule
  cases snapshot.refusesDelete id with
  | some exception => exact fun _ => rfl
  | none => exact fun _ => rfl

theorem blind_parseRuleOnDeletePod (podIp : String) (entry : CrdRule) :
    Blind (parseRuleOnDeletePod snapshot podIp entry) := by
  unfold parseRuleOnDeletePod
  split
  · exact (blind_deleteSecurityGroupRule entry.id).bind fun _ => blind_pure _
  · split
    · exact blind_pure _
    · split
      · dsimp only
        split
        · exact blind_pure _
        · exact blind_pure _
      · exact blind_pure _

theorem blind_overCrdRules {turn : CrdRule → DriverM (Bool × List CrdRule)}
    (blind : ∀ entry, Blind (turn entry)) (entries : List CrdRule) :
    Blind (overCrdRules turn entries) := by
  induction entries with
  | nil => exact blind_pure _
  | cons entry rest ih =>
      exact (blind entry).bind fun _ => ih.bind fun _ => blind_pure _

theorem blind_parseCrdRules (subject : Subject) (direction : Direction) (crd : Crd) :
    Blind (parseCrdRules snapshot subject direction crd) := by
  intro world
  unfold parseCrdRules
  rw [exec_get_bind, exec_get_bind]
  dsimp only
  rw [exec_set_bind, exec_set_bind]
  cases (exec (parseRules snapshot direction crd subject)
    { neutron := world.neutron, crdRules := crd.sgRules direction }).1 with
  | ok matched => rfl
  | error exception => rfl

theorem PodCall.blind_program (call : PodCall) (direction : Direction) (crd : Crd) :
    Blind (call.program snapshot direction crd) := by
  cases call with
  | createSgRules pod => exact blind_parseCrdRules (.pod pod) direction crd
  | deleteSgRules pod =>
      exact blind_overCrdRules (blind_parseRuleOnDeletePod _) _

end

theorem createSgRules_eq (snapshot : Snapshot) (pod : Pod) :
    NetworkPolicySecurityGroupsDriver.createSgRules snapshot pod =
      overKnpCrds (updateCrd snapshot ((PodCall.createSgRules pod).program snapshot)) :=
  rfl

theorem deleteSgRules_eq (snapshot : Snapshot) {pod : Pod} {podIp : String}
    (address : pod.podIp = some podIp) :
    NetworkPolicySecurityGroupsDriver.deleteSgRules snapshot pod =
      some <$> overKnpCrds (updateCrd snapshot ((PodCall.deleteSgRules pod).program snapshot)) := by
  have podProgram : (PodCall.deleteSgRules pod).program snapshot = fun direction crd =>
      parseRulesOnDeletePod snapshot podIp (crd.sgRules direction) := by
    funext direction crd
    unfold PodCall.program
    dsimp only
    rw [address]
    rfl
  unfold NetworkPolicySecurityGroupsDriver.deleteSgRules
  rw [address, podProgram]
  rfl

/-- In the driver a resource gets the rules that a turn works out. -/
theorem exec_updateCrd_crds (call : PodCall) (snapshot : Snapshot) (crd : Crd) (world : World)
    (accepted : snapshot.refusesPatch crd = none) :
    (exec (updateCrd snapshot (call.program snapshot) crd) world).2.crds =
      match call.turn ⟨snapshot, world.neutron⟩
        ⟨snapshot, (exec (call.program snapshot .ingress crd) world).2.neutron⟩ crd with
      | .ok (some rules) => patchCrds world.crds crd rules
      | _ => world.crds := by
  unfold updateCrd PodCall.turn PodCall.parse
  rw [exec_bind, call.blind_program .ingress crd world]
  rcases exec (call.program snapshot .ingress crd) { neutron := world.neutron } with
    ⟨exception | ⟨iMatched, iRules⟩, middle⟩
  · rfl
  · dsimp only
    rw [exec_bind, call.blind_program .egress crd { world with neutron := middle.neutron }]
    rcases exec (call.program snapshot .egress crd) { neutron := middle.neutron } with
      ⟨exception | ⟨eMatched, eRules⟩, last⟩
    · rfl
    · dsimp only
      by_cases matched : iMatched = true ∨ eMatched = true
      · unfold patchKuryrnetworkpolicyCrd
        rw [if_pos matched, accepted]
        simp only [bind, Except.bind, if_pos matched]
        rfl
      · simp only [if_neg matched, bind, Except.bind]
        rfl

instance (overlap : Overlap) (label : CallLabel) : Decidable (FindsRead overlap label) := by
  unfold FindsRead
  cases label with
  | patch caller =>
      dsimp only
      cases overlap.phases caller with
      | patching crd rules pending => exact inferInstanceAs (Decidable (∀ other ∈ _, _))
      | waiting | working _ | done | raised => exact isTrue trivial
  | list _ | turn _ _ _ | fail _ => exact isTrue trivial

/-! ## One resource -/

section

variable {crd other : Crd} {rules : Rules}

theorem sameResource_eq_true_iff :
    crd.sameResource other = true ↔
      crd.namespaceName = other.namespaceName ∧ crd.name = other.name :=
  decide_eq_true_iff

/-- A patch of the resource. -/
theorem filter_patchCrds_of_same {crds : List Crd} {current value : Rules}
    (there : crds.filter crd.sameResource = [crd.holding current]) :
    (patchCrds crds (crd.holding value) rules).filter crd.sameResource = [crd.holding rules] := by
  have same (other : Crd) : crd.sameResource
      (if (crd.holding value).sameResource other then other.holding rules else other) =
        crd.sameResource other := by
    split
    · rfl
    · rfl
  have patched : (patchCrds crds (crd.holding value) rules).filter crd.sameResource =
      (crds.filter crd.sameResource).map fun other => other.holding rules := by
    unfold patchCrds
    rw [List.filter_map]
    have sameFilter : (crds.filter (crd.sameResource ∘ fun other =>
        if (crd.holding value).sameResource other then other.holding rules else other)) =
          crds.filter crd.sameResource :=
      List.filter_congr fun other _ => same other
    rw [sameFilter]
    apply List.map_congr_left
    intro other listed
    have isSame : (crd.holding value).sameResource other = true := List.of_mem_filter listed
    rw [if_pos isSame]
  rw [patched, there]
  rfl

/-- A patch of another resource. -/
theorem filter_patchCrds_of_other {crds : List Crd} (different : ¬crd.sameResource other = true) :
    (patchCrds crds other rules).filter crd.sameResource = crds.filter crd.sameResource := by
  induction crds with
  | nil => rfl
  | cons first rest ih =>
      have untouched : crd.sameResource first = true → ¬other.sameResource first = true := by
        intro isSame isOther
        rw [sameResource_eq_true_iff] at isSame isOther different
        exact different ⟨isSame.1.trans isOther.1.symm, isSame.2.trans isOther.2.symm⟩
      have step : patchCrds (first :: rest) other rules =
          (if other.sameResource first then first.holding rules else first) ::
            patchCrds rest other rules := rfl
      rw [step, List.filter_cons, List.filter_cons, ih]
      by_cases isSame : crd.sameResource first = true
      · rw [if_neg (untouched isSame)]
      · have stillOther : ¬crd.sameResource
            (if other.sameResource first then first.holding rules else first) = true := by
          split
          · exact isSame
          · exact isSame
        rw [if_neg isSame, if_neg stillOther]

end

/-! ## Where the calls stand -/

/-- A resource that is still to come, with rules that were there, or that is done with. -/
def Pending (crd : Crd) (values : List Rules) (handled : Prop) (pending : List Crd) : Prop :=
  (pending.filter crd.sameResource = [] ∧ handled) ∨
    ∃ value ∈ values, pending.filter crd.sameResource = [crd.holding value] ∧ ¬handled

/-- The rules are those that the call made for the copy. -/
def PodCall.Made (calls : List PodCall) (caller : Nat) (copy : Crd) (rules : Rules) : Prop :=
  ∃ call, calls[caller]? = some call ∧
    ∃ ingress egress, call.turn ingress egress copy = .ok (some rules)

/-- Where a call stands with a resource. -/
def OnTrack (calls : List PodCall) (crd : Crd) (values : List Rules) (handled : Prop)
    (caller : Nat) : CallPhase → Prop
  | .waiting => ¬handled
  | .working pending => Pending crd values handled pending
  | .patching copy rules pending =>
      Pending crd values handled (copy :: pending) ∧ PodCall.Made calls caller copy rules
  | .done => handled
  | .raised => True

/-- A call changes the rules of a resource as it does alone. -/
def MadeBy (calls : List PodCall) (crd : Crd) (caller : Nat) (before after : Rules) : Prop :=
  ∃ call, calls[caller]? = some call ∧ call.Makes crd before after

/-- The changes of a resource have a serial order, and every call stands somewhere in it. -/
structure Ordered (calls : List PodCall) (crd : Crd) (overlap : Overlap)
    (changes : List (Nat × Rules)) (current : Rules) : Prop where
  there : overlap.crds.filter crd.sameResource = [crd.holding current]
  serial : Serial (MadeBy calls crd) crd.rules changes current
  distinct : (changes.map Prod.fst).Nodup
  phases : ∀ caller, OnTrack calls crd (visited crd.rules changes)
    (caller ∈ changes.map Prod.fst) caller (overlap.phases caller)

section

variable {calls : List PodCall} {crd : Crd} {overlap : Overlap}
  {changes more : List (Nat × Rules)} {current next : Rules} {caller : Nat}

theorem OnTrack.mono {values wider : List Rules} {handled same : Prop} {phase : CallPhase}
    (track : OnTrack calls crd values handled caller phase)
    (grows : ∀ value ∈ values, value ∈ wider) (iff : handled ↔ same) :
    OnTrack calls crd wider same caller phase := by
  have pendingToo {pending : List Crd} (stands : Pending crd values handled pending) :
      Pending crd wider same pending := by
    rcases stands with ⟨none_, done⟩ | ⟨value, there, one, open_⟩
    · exact .inl ⟨none_, iff.mp done⟩
    · exact .inr ⟨value, grows value there, one, fun done => open_ (iff.mpr done)⟩
  cases phase with
  | waiting => exact fun done => track (iff.mpr done)
  | working pending => exact pendingToo track
  | patching copy rules pending => exact ⟨pendingToo track.1, track.2⟩
  | done => exact iff.mp track
  | raised => trivial

/-- A call goes on, and the order may have grown by it. -/
theorem Ordered.move (ordered : Ordered calls crd overlap changes current) {phase : CallPhase}
    {crds : List Crd}
    (there : crds.filter crd.sameResource = [crd.holding next])
    (serial : Serial (MadeBy calls crd) crd.rules more next)
    (distinct : (more.map Prod.fst).Nodup)
    (grows : ∀ value ∈ visited crd.rules changes, value ∈ visited crd.rules more)
    (others : ∀ other, other ≠ caller →
      (other ∈ changes.map Prod.fst ↔ other ∈ more.map Prod.fst))
    (track : OnTrack calls crd (visited crd.rules more) (caller ∈ more.map Prod.fst) caller
      phase) :
    Ordered calls crd { overlap.move caller phase with crds } more next := by
  constructor
  · exact there
  · exact serial
  · exact distinct
  · intro other
    change OnTrack calls crd _ _ other (Function.update overlap.phases caller phase other)
    by_cases same : other = caller
    · subst same
      rw [Function.update_self]
      exact track
    · rw [Function.update_of_ne same]
      exact (ordered.phases other).mono grows (others other same)

/-- A call goes on without a change of the resource. -/
theorem Ordered.stay (ordered : Ordered calls crd overlap changes current) {phase : CallPhase}
    {crds : List Crd} (there : crds.filter crd.sameResource = [crd.holding current])
    (track : OnTrack calls crd (visited crd.rules changes) (caller ∈ changes.map Prod.fst) caller
      phase) :
    Ordered calls crd { overlap.move caller phase with crds } changes current :=
  ordered.move there ordered.serial ordered.distinct (fun _ member => member)
    (fun _ _ => Iff.rfl) track

theorem mem_visited_append {value : Rules} (member : value ∈ visited crd.rules changes) :
    value ∈ visited crd.rules (changes ++ more) := by
  unfold visited at member ⊢
  rw [List.map_append]
  exact List.mem_append_left _ member

/-- A call puts its change at the end. -/
theorem Ordered.append (ordered : Ordered calls crd overlap changes current)
    {phase : CallPhase} {crds : List Crd}
    (there : crds.filter crd.sameResource = [crd.holding next])
    (makes : MadeBy calls crd caller current next) (new : caller ∉ changes.map Prod.fst)
    (track : OnTrack calls crd (visited crd.rules (changes ++ [(caller, next)])) True caller
      phase) :
    Ordered calls crd { overlap.move caller phase with crds } (changes ++ [(caller, next)])
      next := by
  have parties : (changes ++ [(caller, next)]).map Prod.fst =
      changes.map Prod.fst ++ [caller] := List.map_append
  apply ordered.move there (ordered.serial.append makes)
  · rw [parties]
    exact List.Nodup.append ordered.distinct (List.nodup_singleton caller)
      (List.disjoint_singleton.mpr new)
  · exact fun value member => mem_visited_append member
  · intro other different
    rw [parties, List.mem_append, List.mem_singleton]
    constructor
    · exact .inl
    · rintro (before | same)
      · exact before
      · exact absurd same different
  · apply track.mono (fun _ member => member)
    rw [parties, List.mem_append, List.mem_singleton]
    exact ⟨fun _ => .inr rfl, fun _ => trivial⟩

/-- A call that leaves the rules as it read them takes its place where they were there. -/
theorem Ordered.insert (ordered : Ordered calls crd overlap changes current) {value : Rules}
    {phase : CallPhase} (member : value ∈ visited crd.rules changes)
    (makes : MadeBy calls crd caller value value) (new : caller ∉ changes.map Prod.fst)
    (track : ∀ values, OnTrack calls crd values True caller phase) :
    ∃ inserted, Ordered calls crd (overlap.move caller phase) inserted current := by
  rcases ordered.serial.insert member makes with ⟨inserted, serial, parties, kept⟩
  have mem_iff (other : Nat) : other ∈ inserted.map Prod.fst ↔
      other = caller ∨ other ∈ changes.map Prod.fst := by
    rw [parties.mem_iff, List.mem_cons]
  refine ⟨inserted, ordered.move ordered.there serial ?_ kept ?_ ?_⟩
  · rw [parties.nodup_iff]
    exact List.nodup_cons.mpr ⟨new, ordered.distinct⟩
  · intro other different
    rw [mem_iff]
    constructor
    · exact .inr
    · rintro (same | before)
      · exact absurd same different
      · exact before
  · apply (track _).mono (fun _ member => member)
    rw [mem_iff]
    exact ⟨fun _ => .inl rfl, fun _ => trivial⟩

/-- The next resource of a call is the one that is followed, as the call read it, or another. -/
theorem Pending.head {values : List Rules} {handled : Prop} {copy : Crd} {pending : List Crd}
    (stands : Pending crd values handled (copy :: pending)) :
    (crd.sameResource copy = true ∧ pending.filter crd.sameResource = [] ∧ ¬handled ∧
      ∃ value ∈ values, copy = crd.holding value) ∨
    ¬crd.sameResource copy = true ∧ Pending crd values handled pending := by
  unfold Pending at stands ⊢
  rw [List.filter_cons] at stands
  by_cases same : crd.sameResource copy = true
  · rw [if_pos same] at stands
    rcases stands with ⟨impossible, _⟩ | ⟨value, member, one, open_⟩
    · cases impossible
    · rcases List.cons.inj one with ⟨isCopy, rest⟩
      exact .inl ⟨same, rest, open_, value, member, isCopy⟩
  · rw [if_neg same] at stands
    exact .inr ⟨same, stands⟩

theorem Ordered.list (ordered : Ordered calls crd overlap changes current) {call : PodCall}
    (known : calls[caller]? = some call) (waits : overlap.phases caller = .waiting) :
    ∃ changes, Ordered calls crd
      (overlap.move caller (if call.idle then .done else .working overlap.crds))
      changes current := by
  have track := ordered.phases caller
  rw [waits] at track
  have new : caller ∉ changes.map Prod.fst := track
  by_cases idle : call.idle = true
  · rw [if_pos idle]
    have makes : MadeBy calls crd caller current current :=
      ⟨call, known, .inl ⟨idle, rfl⟩⟩
    exact ⟨_, ordered.append ordered.there makes new trivial⟩
  · rw [if_neg idle]
    refine ⟨changes, ordered.stay ordered.there ?_⟩
    exact .inr ⟨current, ordered.serial.last_mem, ordered.there, new⟩

/-- Nothing matched. -/
theorem Ordered.skip (ordered : Ordered calls crd overlap changes current) {call : PodCall}
    {copy : Crd} {pending : List Crd} {ingress egress : Answers}
    (known : calls[caller]? = some call)
    (works : overlap.phases caller = .working (copy :: pending))
    (turned : call.turn ingress egress copy = .ok none) :
    ∃ changes, Ordered calls crd (overlap.move caller (.working pending)) changes current := by
  have track := ordered.phases caller
  rw [works] at track
  have stands : Pending crd (visited crd.rules changes) (caller ∈ changes.map Prod.fst)
      (copy :: pending) := track
  rcases stands.head with ⟨_, rest, new, value, member, isCopy⟩ | ⟨_, rest⟩
  · rw [isCopy] at turned
    have makes : MadeBy calls crd caller value value :=
      ⟨call, known, .inr ⟨ingress, egress, none, turned, rfl⟩⟩
    exact ordered.insert member makes new (fun _ => .inl ⟨rest, trivial⟩)
  · exact ⟨changes, ordered.stay ordered.there rest⟩

theorem Ordered.work (ordered : Ordered calls crd overlap changes current) {call : PodCall}
    {copy : Crd} {pending : List Crd} {ingress egress : Answers} {rules : Rules}
    (known : calls[caller]? = some call)
    (works : overlap.phases caller = .working (copy :: pending))
    (turned : call.turn ingress egress copy = .ok (some rules)) :
    Ordered calls crd (overlap.move caller (.patching copy rules pending)) changes current := by
  have track := ordered.phases caller
  rw [works] at track
  exact ordered.stay ordered.there ⟨track, call, known, ingress, egress, turned⟩

theorem Ordered.end_ (ordered : Ordered calls crd overlap changes current)
    (works : overlap.phases caller = .working []) :
    Ordered calls crd (overlap.move caller .done) changes current := by
  have track := ordered.phases caller
  rw [works] at track
  have done : caller ∈ changes.map Prod.fst := by
    rcases track with ⟨_, done⟩ | ⟨_, _, impossible, _⟩
    · exact done
    · cases impossible
  exact ordered.stay ordered.there done

/-- A patch that finds the rules that its call has read is the next change. -/
theorem Ordered.patch (ordered : Ordered calls crd overlap changes current) {copy : Crd}
    {rules : Rules} {pending : List Crd}
    (patches : overlap.phases caller = .patching copy rules pending)
    (finds : ∀ other ∈ overlap.crds, copy.sameResource other = true → other.rules = copy.rules) :
    ∃ changes next, Ordered calls crd
      { overlap.move caller (.working pending) with
        crds := patchCrds overlap.crds copy rules } changes next := by
  have track := ordered.phases caller
  rw [patches] at track
  rcases track with ⟨stands, call, known, ingress, egress, turned⟩
  rcases stands.head with ⟨_, rest, new, value, _, isCopy⟩ | ⟨different, rest⟩
  · subst isCopy
    -- the rules that were read are still there
    have listed : crd.holding current ∈ overlap.crds.filter crd.sameResource := by
      rw [ordered.there]
      exact List.mem_cons_self
    have still : current = value :=
      finds _ (List.mem_of_mem_filter listed) (List.of_mem_filter listed)
    subst still
    have makes : MadeBy calls crd caller current rules :=
      ⟨call, known, .inr ⟨ingress, egress, some rules, turned, rfl⟩⟩
    exact ⟨_, rules, ordered.append (filter_patchCrds_of_same ordered.there) makes new
      (.inl ⟨rest, trivial⟩)⟩
  · refine ⟨changes, current, ordered.stay ?_ rest⟩
    rw [filter_patchCrds_of_other different]
    exact ordered.there

theorem ordered_preserved (calls : List PodCall) (crd : Crd) :
    PreservedBy (overlapStep calls) FindsRead
      fun overlap => ∃ changes current, Ordered calls crd overlap changes current := by
  rintro overlap label after finds ⟨changes, current, ordered⟩ taken
  cases goes_of_step taken with
  | list known waits =>
      rcases ordered.list known waits with ⟨more, next⟩
      exact ⟨more, current, next⟩
  | ended ingress egress works => exact ⟨changes, current, ordered.end_ works⟩
  | worked known works turned => exact ⟨changes, current, ordered.work known works turned⟩
  | skipped known works turned =>
      rcases ordered.skip known works turned with ⟨more, next⟩
      exact ⟨more, current, next⟩
  | refused ingress egress => exact ⟨changes, current, ordered.stay ordered.there trivial⟩
  | patch patches =>
      unfold FindsRead at finds
      dsimp only at finds
      rw [patches] at finds
      exact ordered.patch patches finds
  | fail caller => exact ⟨changes, current, ordered.stay ordered.there trivial⟩

end

namespace Newcomers

def newcomer (name address : String) : Pod where
  name := name
  namespaceName := "shop"
  uid := name
  labels := some ((∅ : Labels).set "app" "shop")
  vifAnnotation := some {
    defaultVif := {
      id := name
      network := ⟨"net"⟩
      ipAddress := address } }

/-- The policy lets in the pods of its namespace that have the label. -/
def crd : Crd where
  namespaceName := "shop"
  name := "among"
  securityGroupId := "group"
  spec := {
    ingress := [{
      peers := [{
        podSelector := some { matchLabels := (∅ : Labels).set "app" "shop" } }] }] }

def calls : List PodCall :=
  [.createSgRules (newcomer "first" "10.0.0.1"), .createSgRules (newcomer "second" "10.0.0.2")]

def cluster : Snapshot where
  pods := [newcomer "first" "10.0.0.1", newcomer "second" "10.0.0.2"]
  namespaces := [{ name := "shop" }]

/-- Neutron answers the call of the second pod after the rule of the first is there. -/
def answers : Nat → Answers
  | 0 => { snapshot := cluster }
  | _ =>
      { snapshot := cluster
        neutron := (exec (parseCrdRules cluster (.pod (newcomer "first" "10.0.0.1")) .ingress crd)
          {}).2.neutron }

def start : Overlap where
  crds := [crd]

/-- A call works out the rules of the resource. -/
def turn (caller : Nat) : CallLabel :=
  .turn caller (answers caller) (answers caller)

def inTurn : List CallLabel :=
  [.list 0, turn 0, .patch 0, turn 0, .list 1, turn 1, .patch 1, turn 1]

/-- Both calls list the resources before one patches. -/
def together : List CallLabel :=
  [.list 0, .list 1, turn 0, turn 1, .patch 0]

/-- The ids of the rules that the resource has. -/
def ids (overlap : Overlap) : List Nat :=
  overlap.crds.flatMap fun crd => crd.ingressSgRules.map (·.id)

end Newcomers

end KuryrKubernetes.Policy
