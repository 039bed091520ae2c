import KuryrKubernetes.Effect.Serve
import KuryrKubernetes.Pool.Driver
import KuryrKubernetes.Transition.Run

/-!
# The clean-up of leftover ports

`sync_pools` spawns `_cleanup_leftover_ports` when the pools are recovered.  It lists the ports
that are down and deletes those that look left over, while requests create ports, tag them and
attach them to a trunk.  Every call to Neutron is a step of its own.
-/

namespace KuryrKubernetes.Pool

open KuryrKubernetes.Data
open KuryrKubernetes.Effect
open KuryrKubernetes.Transition

/-! ## Ports and their ids -/

/-- The ports of Neutron, and the ids it has given out. -/
structure IssuedPorts where
  ports : Dict String NeutronPort
  issued : List String
  known : ∀ port ∈ ports, port ∈ issued

namespace IssuedPorts

/-- The ids of the ports that are there have been given out. -/
def of (ports : Dict String NeutronPort) : IssuedPorts where
  ports := ports
  issued := ports.keys
  known := fun _ member => Dict.mem_keys_iff.mpr member

/-- A port is created, or one that is there gets other data. -/
def put (neutron : IssuedPorts) (port : String) (record : NeutronPort) : IssuedPorts where
  ports := neutron.ports.set port record
  issued := port :: neutron.issued
  known := by
    intro other member
    rcases Dict.mem_set.mp member with same | old
    · exact same ▸ List.mem_cons_self
    · exact List.mem_cons_of_mem port (neutron.known other old)

/-- Ports with the same data are created. -/
def putAll (neutron : IssuedPorts) (record : NeutronPort) (ports : List String) : IssuedPorts :=
  ports.foldl (fun neutron port => neutron.put port record) neutron

/-- `delete_port`, which ignores a port that is not there. -/
def delete (neutron : IssuedPorts) (port : String) : IssuedPorts where
  ports := neutron.ports.erase port
  issued := neutron.issued
  known := fun other member => neutron.known other (Dict.mem_erase.mp member).2

/-- `set_tags`. -/
def setTags (neutron : IssuedPorts) (port : String) (tags : List String) : IssuedPorts :=
  match neutron.ports.get? port with
  | some record => neutron.put port { record with tags }
  | none => neutron

end IssuedPorts

/-! ## Requests -/

/-- The methods of the driver that create ports. -/
inductive RequestMethod where
  | requestVif
  | requestVifs
  deriving DecidableEq

/-- Where a request is.  In `clearing` the ports are deleted that could not be attached, once
more where a deletion failed after a conflict. -/
inductive PortsPhase where
  | waiting
  | tagging (untagged ports : List String)
  | attaching (ports : List String)
  | clearing (pending ports : List String) (again : Bool)
  | served (ports : List String)
  | failed
  deriving DecidableEq

/-- The ports that a request has created, unless it gives them up. -/
def PortsPhase.ports : PortsPhase → List String
  | tagging _ ports | attaching ports | served ports => ports
  | waiting | clearing _ _ _ | failed => []

/-- A request of a driver, with what `_get_port_request` gives. -/
structure PortsCall where
  method : RequestMethod
  record : NeutronPort
  phase : PortsPhase := .waiting
  deriving DecidableEq

/-- How `add_trunk_subports` ends: `again` is a conflict after which another id is tried. -/
inductive Attachment where
  | attached
  | again
  | conflict
  | sdkException
  | raised
  deriving DecidableEq

/-- A call to Neutron that a request makes. -/
inductive PortsStep where
  | create (ports : List String) (ending : Ending PyException)
  | tag (ending : Ending PyException)
  | attach (attachment : Attachment)
  | clear (ending : Ending PyException)
  deriving DecidableEq

/-- The request goes on with the ports that have no tags yet. -/
def tagNext (untagged ports : List String) : PortsPhase :=
  if untagged = [] then .attaching ports else .tagging untagged ports

/-- The steps of `request_vif` and `request_vifs` from `create_port` on. -/
def portsStep (options : Options) (neutron : IssuedPorts) (call : PortsCall) :
    PortsStep → Option (IssuedPorts × PortsPhase)
  | .create ports ending =>
      if call.phase = .waiting ∧ ports.Nodup ∧ (∀ port ∈ ports, port ∉ neutron.issued) ∧
          (call.method = .requestVif → ports.length = 1) then
        some (ending.change neutron (neutron.putAll call.record ports),
          match ending.exception? with
          | some _ => .failed
          | none => tagNext (if options.resourceTags = [] then [] else ports) ports)
      else
        none
  | .tag ending =>
      match call.phase with
      | .tagging (port :: untagged) ports =>
          some (ending.change neutron (neutron.setTags port options.resourceTags),
            match ending.exception? with
            | some ex => if ex.isSdkException then tagNext untagged ports else .failed
            | none => tagNext untagged ports)
      | _ => none
  | .attach attachment =>
      match call.phase with
      | .attaching ports =>
          match attachment, call.method with
          | .attached, _ => some (neutron, .served ports)
          | .again, .requestVif => some (neutron, .attaching ports)
          | .again, .requestVifs => none
          | .conflict, .requestVifs => some (neutron, .clearing ports ports true)
          | .sdkException, .requestVifs => some (neutron, .clearing ports ports false)
          | _, _ => some (neutron, .failed)
      | _ => none
  | .clear ending =>
      match call.phase with
      | .clearing [] _ _ => some (neutron, .failed)
      | .clearing (port :: pending) ports again =>
          some (ending.change neutron (neutron.delete port),
            match ending.exception? with
            | some ex =>
                if ex.isSdkException ∧ again then .clearing ports ports false else .failed
            | none => .clearing pending ports again)
      | _ => none

/-! ## The clean-up -/

/-- The ports with `status='DOWN'` and the device owner of kuryr. -/
def downPorts (ports : Dict String NeutronPort) : List (String × NeutronPort) :=
  ports.items.filter fun (_, record) => record.deviceOwner = deviceOwner ∧ !record.isActive

/-- `not port.binding_host_id`. -/
def NeutronPort.unbound (record : NeutronPort) : Bool :=
  record.bindingHostId.getD "" = ""

/-- The ports of the listing that are to be deleted. -/
def isLeftover (options : Options) (netsIds : List String) (record : NeutronPort) : Bool :=
  if options.resourceTags = [] then
    record.unbound
  else if record.networkId ∈ netsIds then
    record.unbound || !hasTags options record
  else
    false

/-- Where a clean-up is. -/
inductive CleanupPhase where
  | waiting
  | listing (netsIds : List String)
  | deleting (netsIds : List String) (pending : List (String × NeutronPort))
  | done
  deriving DecidableEq

/-- A call to Neutron that a clean-up makes. -/
inductive CleanupStep where
  | networks (netsIds : List String)
  | list
  | delete (ending : Ending PyException)
  | raise
  deriving DecidableEq

/-- The networks with which a clean-up goes on to list the ports. -/
def CleanupPhase.lists (options : Options) : CleanupPhase → Option (List String)
  | waiting => if options.resourceTags = [] then some [] else none
  | listing netsIds => some netsIds
  | deleting _ _ | done => none

/-- The steps of `_cleanup_leftover_ports`: what becomes of it, of the ports, and which port it
deleted. -/
def cleanupStep (options : Options) (neutron : IssuedPorts) (phase : CleanupPhase) :
    CleanupStep → Option (IssuedPorts × CleanupPhase × List String)
  | .networks netsIds =>
      if phase = .waiting ∧ options.resourceTags ≠ [] then
        some (neutron, .listing netsIds, [])
      else
        none
  | .list =>
      (phase.lists options).map fun netsIds =>
        (neutron, .deleting netsIds (downPorts neutron.ports), [])
  | .delete ending =>
      match phase with
      | .deleting _ [] => some (neutron, .done, [])
      | .deleting netsIds (port :: pending) =>
          if isLeftover options netsIds port.2 then
            some (ending.change neutron (neutron.delete port.1),
              match ending.exception? with
              | some ex =>
                  if ex.isSdkException ∧ options.resourceTags ≠ [] then
                    .deleting netsIds pending
                  else
                    .done
              | none => .deleting netsIds pending,
              ending.change [] [port.1])
          else
            some (neutron, .deleting netsIds pending, [])
      | _ => none
  | .raise =>
      match phase with
      | .done => none
      | _ => some (neutron, .done, [])

/-! ## Runs -/

/-- The ports, the requests, the clean-ups, and the ports that clean-ups have deleted. -/
structure Cleaning where
  neutron : IssuedPorts
  calls : List PortsCall
  cleanups : List CleanupPhase
  swept : List String := []

/-- What happens: a request or a clean-up goes on, or somebody else creates, changes or deletes a
port. -/
inductive CleaningLabel where
  | call (index : Nat) (step : PortsStep)
  | cleanup (index : Nat) (step : CleanupStep)
  | create (port : String) (record : NeutronPort)
  | change (port : String) (record : NeutronPort)
  | delete (port : String)

/-- The steps of a run. -/
def cleaningStep (options : Options) : Step Cleaning CleaningLabel
  | cleaning, .call index step =>
      cleaning.calls[index]?.bind fun call =>
        (portsStep options cleaning.neutron call step).map fun (neutron, phase) =>
          { cleaning with
            neutron
            calls := cleaning.calls.set index { call with phase } }
  | cleaning, .cleanup index step =>
      cleaning.cleanups[index]?.bind fun phase =>
        (cleanupStep options cleaning.neutron phase step).map fun (neutron, phase, deleted) =>
          { cleaning with
            neutron
            cleanups := cleaning.cleanups.set index phase
            swept := deleted ++ cleaning.swept }
  | cleaning, .create port record =>
      if port ∈ cleaning.neutron.issued then
        none
      else
        some { cleaning with neutron := cleaning.neutron.put port record }
  | cleaning, .change port record =>
      if port ∈ cleaning.neutron.ports then
        some { cleaning with neutron := cleaning.neutron.put port record }
      else
        none
  | cleaning, .delete port =>
      some { cleaning with neutron := cleaning.neutron.delete port }

/-- The ports that requests under way or served have created. -/
def Cleaning.requested (cleaning : Cleaning) : List String :=
  cleaning.calls.flatMap fun call => call.phase.ports

/-- A clean-up lists no port of a request that looks left over. -/
def ListsNoneRequested (options : Options) (cleaning : Cleaning) : CleaningLabel → Prop
  | .cleanup index .list =>
      ∀ phase ∈ cleaning.cleanups[index]?, ∀ netsIds ∈ phase.lists options,
        ∀ port ∈ downPorts cleaning.neutron.ports, port.1 ∈ cleaning.requested →
          isLeftover options netsIds port.2 = false
  | _ => True

/-! ## What a step can do -/

section

variable {neutron after : IssuedPorts} {port other : String} {record : NeutronPort}

theorem IssuedPorts.mem_putAll {ports : List String} (member : port ∈ neutron.issued ∨ port ∈ ports) :
    port ∈ (neutron.putAll record ports).issued := by
  induction ports generalizing neutron with
  | nil =>
      rcases member with old | new
      · exact old
      · cases new
  | cons first rest ih =>
      apply ih
      rcases member with old | new
      · exact .inl (List.mem_cons_of_mem first old)
      · rcases List.mem_cons.mp new with rfl | later
        · exact .inl List.mem_cons_self
        · exact .inr later

theorem IssuedPorts.mem_change {ending : Ending PyException} (old : port ∈ neutron.issued)
    (changed : port ∈ after.issued) : port ∈ (ending.change neutron after).issued :=
  Ending.change_cases (fun kept : IssuedPorts => port ∈ kept.issued) ending old changed

theorem IssuedPorts.mem_setTags {tags : List String} (old : other ∈ neutron.issued) :
    other ∈ (neutron.setTags port tags).issued := by
  unfold IssuedPorts.setTags
  split
  · exact List.mem_cons_of_mem port old
  · exact old

theorem ports_tagNext (untagged ports : List String) : (tagNext untagged ports).ports = ports := by
  unfold tagNext
  split
  · rfl
  · rfl

/-- What a step of a request does: ids stay given out, and the ports of the request are old or
their ids are new. -/
structure Advances (neutron after : IssuedPorts) (phase next : PortsPhase) : Prop where
  issued : ∀ port ∈ neutron.issued, port ∈ after.issued
  ports : ∀ port ∈ next.ports,
    port ∈ phase.ports ∨ (port ∉ neutron.issued ∧ port ∈ after.issued)

/-- The ports of the request stay, or it gives them up. -/
theorem Advances.of_subset {phase next : PortsPhase}
    (issued : ∀ port ∈ neutron.issued, port ∈ after.issued)
    (ports : ∀ port ∈ next.ports, port ∈ phase.ports) : Advances neutron after phase next := by
  constructor
  · exact issued
  · intro port member
    exact .inl (ports port member)

theorem portsStep_create {options : Options} {call : PortsCall} {ports : List String}
    {ending : Ending PyException} {next : PortsPhase}
    (taken : portsStep options neutron call (.create ports ending) = some (after, next)) :
    Advances neutron after call.phase next := by
  unfold portsStep at taken
  dsimp only at taken
  rw [Option.ite_none_right_eq_some] at taken
  rcases taken with ⟨⟨_, _, fresh, _⟩, made⟩
  cases made
  constructor
  · intro port old
    exact IssuedPorts.mem_change old (IssuedPorts.mem_putAll (.inl old))
  · intro port member
    cases ending with
    | served =>
        have new : port ∈ ports := by
          rw [← ports_tagNext _ ports]
          exact member
        exact .inr ⟨fresh port new, IssuedPorts.mem_putAll (.inr new)⟩
    | refused exception | cut exception => cases member

theorem portsStep_tag {options : Options} {call : PortsCall} {ending : Ending PyException}
    {next : PortsPhase}
    (taken : portsStep options neutron call (.tag ending) = some (after, next)) :
    Advances neutron after call.phase next := by
  unfold portsStep at taken
  dsimp only at taken
  cases phase : call.phase with
  | tagging untagged ports =>
      rw [phase] at taken
      cases untagged with
      | nil => cases taken
      | cons first untagged =>
          cases taken
          apply Advances.of_subset
          · intro port old
            exact IssuedPorts.mem_change old (IssuedPorts.mem_setTags old)
          · intro port member
            rcases raised : ending.exception? with _ | exception
            · rw [raised] at member
              rw [ports_tagNext] at member
              exact member
            · rw [raised] at member
              dsimp only at member
              split at member
              · rw [ports_tagNext] at member
                exact member
              · cases member
  | waiting | attaching _ | clearing _ _ _ | served _ | failed =>
      rw [phase] at taken
      cases taken

theorem portsStep_attach {options : Options} {call : PortsCall} {attachment : Attachment}
    {next : PortsPhase}
    (taken : portsStep options neutron call (.attach attachment) = some (after, next)) :
    Advances neutron after call.phase next := by
  unfold portsStep at taken
  dsimp only at taken
  cases phase : call.phase with
  | attaching ports =>
      rw [phase] at taken
      rcases attachment with _ | _ | _ | _ | _ <;> rcases method : call.method with _ | _ <;>
        rw [method] at taken <;> cases taken
      all_goals
        apply Advances.of_subset
        · exact fun _ old => old
        · intro port member
          first
          | exact member
          | cases member
  | waiting | tagging _ _ | clearing _ _ _ | served _ | failed =>
      rw [phase] at taken
      cases taken

theorem portsStep_clear {options : Options} {call : PortsCall} {ending : Ending PyException}
    {next : PortsPhase}
    (taken : portsStep options neutron call (.clear ending) = some (after, next)) :
    Advances neutron after call.phase next := by
  unfold portsStep at taken
  dsimp only at taken
  cases phase : call.phase with
  | clearing pending ports again =>
      rw [phase] at taken
      cases pending with
      | nil =>
          cases taken
          exact .of_subset (fun _ old => old) (fun _ member => member)
      | cons first pending =>
          cases taken
          apply Advances.of_subset
          · intro port old
            exact IssuedPorts.mem_change old old
          · intro port member
            rcases raised : ending.exception? with _ | exception
            · rw [raised] at member
              cases member
            · rw [raised] at member
              dsimp only at member
              split at member
              · cases member
              · cases member
  | waiting | tagging _ _ | attaching _ | served _ | failed =>
      rw [phase] at taken
      cases taken

theorem portsStep_advances {options : Options} {call : PortsCall} {step : PortsStep}
    {next : PortsPhase} (taken : portsStep options neutron call step = some (after, next)) :
    Advances neutron after call.phase next := by
  cases step with
  | create ports ending => exact portsStep_create taken
  | tag ending => exact portsStep_tag taken
  | attach attachment => exact portsStep_attach taken
  | clear ending => exact portsStep_clear taken

end

/-! ## Ports that are to be deleted -/

/-- The ports that a clean-up is going to delete. -/
def CleanupPhase.doomed (options : Options) : CleanupPhase → List String
  | deleting netsIds pending =>
      (pending.filter fun port => isLeftover options netsIds port.2).map Prod.fst
  | waiting | listing _ | done => []

/-- The ports that clean-ups have deleted or are going to delete. -/
def Cleaning.condemned (options : Options) (cleaning : Cleaning) : List String :=
  cleaning.swept ++ cleaning.cleanups.flatMap (·.doomed options)

/-- Ports that are requested or condemned have an id of Neutron, and no port is both. -/
structure Spared (options : Options) (cleaning : Cleaning) : Prop where
  requested : ∀ port ∈ cleaning.requested, port ∈ cleaning.neutron.issued
  condemned : ∀ port ∈ cleaning.condemned options, port ∈ cleaning.neutron.issued
  apart : ∀ port ∈ cleaning.requested, port ∉ cleaning.condemned options

section

variable {options : Options} {neutron after : IssuedPorts} {phase next : CleanupPhase}
  {deleted netsIds : List String} {pending : List (String × NeutronPort)}
  {port : String × NeutronPort}

theorem mem_doomed_tail {other : String}
    (member : other ∈ (CleanupPhase.deleting netsIds pending).doomed options) :
    other ∈ (CleanupPhase.deleting netsIds (port :: pending)).doomed options := by
  unfold CleanupPhase.doomed at member ⊢
  dsimp only at member ⊢
  rw [List.filter_cons]
  split
  · exact List.mem_cons_of_mem _ member
  · exact member

theorem mem_doomed_head (leftover : isLeftover options netsIds port.2 = true) :
    port.1 ∈ (CleanupPhase.deleting netsIds (port :: pending)).doomed options := by
  unfold CleanupPhase.doomed
  dsimp only
  rw [List.filter_cons, if_pos leftover]
  exact List.mem_cons_self

/-- What a step of a clean-up does: no id is given out, and what is deleted or going to be was
going to be before. -/
structure Sweeps (options : Options) (neutron after : IssuedPorts) (phase next : CleanupPhase)
    (deleted : List String) : Prop where
  issued : after.issued = neutron.issued
  deleted : ∀ port ∈ deleted, port ∈ phase.doomed options
  doomed : ∀ port ∈ next.doomed options, port ∈ phase.doomed options

theorem cleanupStep_delete {ending : Ending PyException}
    (taken : cleanupStep options neutron phase (.delete ending) = some (after, next, deleted)) :
    Sweeps options neutron after phase next deleted := by
  unfold cleanupStep at taken
  dsimp only at taken
  cases phase with
  | deleting netsIds pending =>
      cases pending with
      | nil =>
          cases taken
          constructor
          · rfl
          · rintro port ⟨⟩
          · rintro port ⟨⟩
      | cons port pending =>
          by_cases leftover : isLeftover options netsIds port.2 = true
          · dsimp only at taken
            rw [if_pos leftover] at taken
            cases taken
            constructor
            · exact Ending.change_cases (fun kept : IssuedPorts => kept.issued = neutron.issued)
                ending rfl rfl
            · intro other member
              cases ending with
              | served | cut _ =>
                  cases List.mem_singleton.mp member
                  exact mem_doomed_head leftover
              | refused _ => cases member
            · intro other member
              rcases raised : ending.exception? with _ | exception
              · rw [raised] at member
                exact mem_doomed_tail member
              · rw [raised] at member
                dsimp only at member
                split at member
                · exact mem_doomed_tail member
                · cases member
          · dsimp only at taken
            rw [if_neg leftover] at taken
            cases taken
            constructor
            · rfl
            · rintro port ⟨⟩
            · exact fun other member => mem_doomed_tail member
  | waiting | listing _ | done => cases taken

theorem cleanupStep_of_not_list {step : CleanupStep} (other : step ≠ .list)
    (taken : cleanupStep options neutron phase step = some (after, next, deleted)) :
    Sweeps options neutron after phase next deleted := by
  have nothing (next : CleanupPhase) (empty : next.doomed options = []) :
      Sweeps options neutron neutron phase next [] := by
    constructor
    · rfl
    · rintro port ⟨⟩
    · intro port member
      rw [empty] at member
      cases member
  cases step with
  | networks netsIds =>
      unfold cleanupStep at taken
      dsimp only at taken
      rw [Option.ite_none_right_eq_some] at taken
      cases taken.2
      exact nothing _ rfl
  | list => exact absurd rfl other
  | delete ending => exact cleanupStep_delete taken
  | raise =>
      cases phase with
      | waiting | listing _ | deleting _ _ =>
          cases taken
          exact nothing _ rfl
      | done => cases taken

end

section

variable {options : Options} {cleaning : Cleaning}

theorem mem_requested_set {calls : List PortsCall} {index : Nat} {call : PortsCall}
    {port : String} (member : port ∈ (calls.set index call).flatMap (·.phase.ports)) :
    port ∈ calls.flatMap (·.phase.ports) ∨ port ∈ call.phase.ports := by
  rcases List.mem_flatMap.mp member with ⟨other, listed, holds⟩
  rcases List.mem_or_eq_of_mem_set listed with old | rfl
  · exact .inl (List.mem_flatMap.mpr ⟨other, old, holds⟩)
  · exact .inr holds

/-- A request goes on. -/
theorem Spared.call (spared : Spared options cleaning) {index : Nat} {call : PortsCall}
    {after : IssuedPorts} {next : PortsPhase} (known : cleaning.calls[index]? = some call)
    (advances : Advances cleaning.neutron after call.phase next) :
    Spared options { cleaning with
      neutron := after
      calls := cleaning.calls.set index { call with phase := next } } := by
  have held (port : String) (member : port ∈ call.phase.ports) : port ∈ cleaning.requested :=
    List.mem_flatMap.mpr ⟨call, List.mem_of_getElem? known, member⟩
  constructor
  · intro port member
    rcases mem_requested_set member with old | mine
    · exact advances.issued port (spared.requested port old)
    · rcases advances.ports port mine with old | ⟨_, new⟩
      · exact advances.issued port (spared.requested port (held port old))
      · exact new
  · intro port member
    exact advances.issued port (spared.condemned port member)
  · intro port member condemned
    rcases mem_requested_set member with old | mine
    · exact spared.apart port old condemned
    · rcases advances.ports port mine with old | ⟨fresh, _⟩
      · exact spared.apart port (held port old) condemned
      · -- an id that is new is not condemned
        exact fresh (spared.condemned port condemned)

/-- The ports of Neutron are others. -/
theorem Spared.neutron (spared : Spared options cleaning) {after : IssuedPorts}
    (issued : ∀ port ∈ cleaning.neutron.issued, port ∈ after.issued) :
    Spared options { cleaning with neutron := after } := by
  constructor
  · exact fun port member => issued port (spared.requested port member)
  · exact fun port member => issued port (spared.condemned port member)
  · exact spared.apart

/-- A clean-up goes on, and condemns no port that is requested. -/
theorem Spared.cleanup (spared : Spared options cleaning) {index : Nat} {after : IssuedPorts}
    {next : CleanupPhase} {deleted : List String}
    (issued : after.issued = cleaning.neutron.issued)
    (condemns : ∀ port, port ∈ deleted ∨ port ∈ next.doomed options →
      port ∈ cleaning.condemned options ∨
        (port ∈ cleaning.neutron.issued ∧ port ∉ cleaning.requested)) :
    Spared options { cleaning with
      neutron := after
      cleanups := cleaning.cleanups.set index next
      swept := deleted ++ cleaning.swept } := by
  have cases (port : String) (member : port ∈ (deleted ++ cleaning.swept) ++
      (cleaning.cleanups.set index next).flatMap (·.doomed options)) :
      port ∈ cleaning.condemned options ∨
        (port ∈ cleaning.neutron.issued ∧ port ∉ cleaning.requested) := by
    rcases List.mem_append.mp member with swept | going
    · rcases List.mem_append.mp swept with now | before
      · exact condemns port (.inl now)
      · exact .inl (List.mem_append_left _ before)
    · rcases List.mem_flatMap.mp going with ⟨phase, listed, doomed⟩
      rcases List.mem_or_eq_of_mem_set listed with old | rfl
      · exact .inl (List.mem_append_right _ (List.mem_flatMap.mpr ⟨phase, old, doomed⟩))
      · exact condemns port (.inr doomed)
  constructor
  · intro port member
    change port ∈ after.issued
    rw [issued]
    exact spared.requested port member
  · intro port member
    change port ∈ after.issued
    rw [issued]
    rcases cases port member with old | ⟨known, _⟩
    · exact spared.condemned port old
    · exact known
  · intro port requested member
    rcases cases port member with old | ⟨_, free⟩
    · exact spared.apart port requested old
    · exact free requested

theorem Spared.sweep (spared : Spared options cleaning) {index : Nat} {after : IssuedPorts}
    {phase next : CleanupPhase} {deleted : List String}
    (known : cleaning.cleanups[index]? = some phase)
    (sweeps : Sweeps options cleaning.neutron after phase next deleted) :
    Spared options { cleaning with
      neutron := after
      cleanups := cleaning.cleanups.set index next
      swept := deleted ++ cleaning.swept } := by
  have going (port : String) (member : port ∈ phase.doomed options) :
      port ∈ cleaning.condemned options :=
    List.mem_append_right _ (List.mem_flatMap.mpr ⟨phase, List.mem_of_getElem? known, member⟩)
  apply spared.cleanup sweeps.issued
  rintro port (now | later)
  · exact .inl (going port (sweeps.deleted port now))
  · exact .inl (going port (sweeps.doomed port later))

/-- A clean-up lists the ports. -/
theorem Spared.list (spared : Spared options cleaning) {index : Nat} {netsIds : List String}
    (none_ : ∀ port ∈ downPorts cleaning.neutron.ports, port.1 ∈ cleaning.requested →
      isLeftover options netsIds port.2 = false) :
    Spared options { cleaning with
      cleanups := cleaning.cleanups.set index
        (.deleting netsIds (downPorts cleaning.neutron.ports)) } := by
  apply @Spared.cleanup _ _ spared _ cleaning.neutron _ [] rfl
  rintro port (impossible | doomed)
  · cases impossible
  · rcases List.mem_map.mp doomed with ⟨listed, member, rfl⟩
    rcases List.mem_filter.mp member with ⟨down, leftover⟩
    have there : listed.1 ∈ cleaning.neutron.ports :=
      Dict.mem_of_mem_items (List.mem_of_mem_filter down)
    refine .inr ⟨cleaning.neutron.known listed.1 there, ?_⟩
    intro requested
    rw [none_ listed down requested] at leftover
    exact Bool.false_ne_true leftover

theorem spared_preserved (options : Options) :
    PreservedBy (cleaningStep options) (ListsNoneRequested options) (Spared options) := by
  intro cleaning label after lists spared taken
  cases label with
  | call index step =>
      rcases Option.bind_eq_some_iff.mp taken with ⟨call, known, moved⟩
      rcases Option.map_eq_some_iff.mp moved with ⟨⟨neutron, next⟩, stepped, rfl⟩
      exact spared.call known (portsStep_advances stepped)
  | cleanup index step =>
      rcases Option.bind_eq_some_iff.mp taken with ⟨phase, known, moved⟩
      rcases Option.map_eq_some_iff.mp moved with ⟨⟨neutron, next, deleted⟩, stepped, rfl⟩
      by_cases isList : step = .list
      · subst isList
        rcases Option.map_eq_some_iff.mp stepped with ⟨netsIds, ready, listed⟩
        cases listed
        exact spared.list (lists phase known netsIds ready)
      · exact spared.sweep known (cleanupStep_of_not_list isList stepped)
  | create port record =>
      unfold cleaningStep at taken
      dsimp only at taken
      rw [Option.ite_none_left_eq_some] at taken
      cases taken.2
      exact spared.neutron fun other old => List.mem_cons_of_mem port old
  | change port record =>
      unfold cleaningStep at taken
      dsimp only at taken
      rw [Option.ite_none_right_eq_some] at taken
      cases taken.2
      exact spared.neutron fun other old => List.mem_cons_of_mem port old
  | delete port =>
      cases taken
      exact spared.neutron fun _ old => old

end

/-! ## Ports that look left over -/

/-- A port that was just created looks left over, unless tags are configured and its network
does not have them. -/
theorem new_port_is_leftover {options : Options} {answers : Answers} {pod : Pod}
    {projectId networkId : String} {subnets : Dict String Network} {securityGroups : List String}
    {netsIds : List String} (deployed : options.resourceTags = [] ∨ networkId ∈ netsIds) :
    isLeftover options netsIds
      (portRequest .nested options answers pod projectId networkId subnets securityGroups) =
        true := by
  unfold isLeftover
  rcases deployed with noTags | among
  · rw [if_pos noTags]
    rfl
  · split
    · rfl
    · have deploys : (portRequest .nested options answers pod projectId networkId subnets
          securityGroups).networkId ∈ netsIds := among
      rw [if_pos deploys]
      rfl

section

variable {options : Options} {cleaning : Cleaning} {index : Nat} {netsIds : List String}

/-- A clean-up deletes what is doomed, if Neutron lets it. -/
theorem doomed_are_swept {pending : List (String × NeutronPort)}
    (deletes : cleaning.cleanups[index]? = some (.deleting netsIds pending)) :
    ∃ final, run (cleaningStep options)
        (List.replicate pending.length (.cleanup index (.delete .served))) cleaning = some final ∧
      final.calls = cleaning.calls ∧
      ∀ port, port ∈ cleaning.swept ∨
        port ∈ (CleanupPhase.deleting netsIds pending).doomed options → port ∈ final.swept := by
  induction pending generalizing cleaning with
  | nil =>
      refine ⟨cleaning, rfl, rfl, ?_⟩
      rintro port (swept | impossible)
      · exact swept
      · cases impossible
  | cons first pending ih =>
      rcases List.getElem?_eq_some_iff.mp deletes with ⟨short, _⟩
      by_cases leftover : isLeftover options netsIds first.2 = true
      · have taken : cleaningStep options cleaning (.cleanup index (.delete .served)) =
            some { cleaning with
              neutron := cleaning.neutron.delete first.1
              cleanups := cleaning.cleanups.set index (.deleting netsIds pending)
              swept := [first.1] ++ cleaning.swept } := by
          unfold cleaningStep cleanupStep
          dsimp only
          rw [deletes, Option.bind_some]
          dsimp only
          rw [if_pos leftover]
          rfl
        rcases @ih { cleaning with
          neutron := cleaning.neutron.delete first.1
          cleanups := cleaning.cleanups.set index (.deleting netsIds pending)
          swept := [first.1] ++ cleaning.swept } (List.getElem?_set_self short) with
          ⟨final, ran, calls, swept⟩
        refine ⟨final, ?_, calls, ?_⟩
        · rw [List.length_cons, List.replicate_succ, run_cons, taken, Option.bind_some]
          exact ran
        · intro port member
          apply swept
          rcases member with before | doomed
          · exact .inl (List.mem_append_right _ before)
          · unfold CleanupPhase.doomed at doomed ⊢
            dsimp only at doomed ⊢
            rw [List.filter_cons, if_pos leftover, List.map_cons] at doomed
            rcases List.mem_cons.mp doomed with rfl | later
            · exact .inl List.mem_cons_self
            · exact .inr later
      · have taken : cleaningStep options cleaning (.cleanup index (.delete .served)) =
            some { cleaning with
              cleanups := cleaning.cleanups.set index (.deleting netsIds pending) } := by
          unfold cleaningStep cleanupStep
          dsimp only
          rw [deletes, Option.bind_some]
          dsimp only
          rw [if_neg leftover]
          rfl
        rcases @ih { cleaning with
          cleanups := cleaning.cleanups.set index (.deleting netsIds pending) }
          (List.getElem?_set_self short) with ⟨final, ran, calls, swept⟩
        refine ⟨final, ?_, calls, ?_⟩
        · rw [List.length_cons, List.replicate_succ, run_cons, taken, Option.bind_some]
          exact ran
        · intro port member
          apply swept
          rcases member with before | doomed
          · exact .inl before
          · unfold CleanupPhase.doomed at doomed ⊢
            dsimp only at doomed ⊢
            rw [List.filter_cons, if_neg leftover] at doomed
            exact .inr doomed

/-- Where a clean-up lists a port of a request that looks left over, it may delete the port. -/
theorem listed_request_may_be_swept {phase : CleanupPhase} {port : String × NeutronPort}
    (known : cleaning.cleanups[index]? = some phase) (ready : phase.lists options = some netsIds)
    (listed : port ∈ downPorts cleaning.neutron.ports) (requested : port.1 ∈ cleaning.requested)
    (leftover : isLeftover options netsIds port.2 = true) :
    ∃ labels final, run (cleaningStep options) (.cleanup index .list :: labels) cleaning =
        some final ∧
      port.1 ∈ final.requested ∧ port.1 ∈ final.swept := by
  rcases List.getElem?_eq_some_iff.mp known with ⟨short, _⟩
  have taken : cleaningStep options cleaning (.cleanup index .list) =
      some { cleaning with
        cleanups := cleaning.cleanups.set index
          (.deleting netsIds (downPorts cleaning.neutron.ports)) } := by
    unfold cleaningStep cleanupStep
    dsimp only
    rw [known, Option.bind_some, ready]
    rfl
  rcases @doomed_are_swept options { cleaning with
    cleanups := cleaning.cleanups.set index
      (.deleting netsIds (downPorts cleaning.neutron.ports)) } index netsIds _
    (List.getElem?_set_self short) with ⟨final, ran, calls, swept⟩
  have doomed : port.1 ∈ (CleanupPhase.deleting netsIds
      (downPorts cleaning.neutron.ports)).doomed options :=
    List.mem_map_of_mem (List.mem_filter.mpr ⟨listed, leftover⟩)
  refine ⟨List.replicate (downPorts cleaning.neutron.ports).length
    (.cleanup index (.delete .served)), final, ?_, ?_, swept port.1 (.inr doomed)⟩
  · rw [run_cons, taken, Option.bind_some]
    exact ran
  · unfold Cleaning.requested
    rw [calls]
    exact requested

end

/-! ## A population and a clean-up -/

instance (options : Options) (cleaning : Cleaning) (label : CleaningLabel) :
    Decidable (ListsNoneRequested options cleaning label) := by
  unfold ListsNoneRequested
  cases label with
  | cleanup index step =>
      cases step with
      | list => exact inferInstanceAs (Decidable (∀ phase ∈ _, ∀ netsIds ∈ _, ∀ port ∈ _, _))
      | networks _ | delete _ | raise => exact isTrue trivial
  | call _ _ | create _ _ | change _ _ | delete _ => exact isTrue trivial

namespace Opening

def record : NeutronPort :=
  portRequest .nested {} {} { name := "", namespaceName := "", uid := "" } "project" "net" ∅ []

/-- The port that an earlier controller left behind, a population, and a clean-up. -/
def start : Cleaning where
  neutron := .of ((∅ : Dict String NeutronPort).set "left" record)
  calls := [{ method := .requestVifs, record }]
  cleanups := [.waiting]

def created : CleaningLabel :=
  .call 0 (.create ["new"] .served)

def attached : CleaningLabel :=
  .call 0 (.attach .attached)

/-- Neutron wires the subport before the clean-up lists the ports. -/
def inTime : List CleaningLabel :=
  [created, attached,
    .change "new" { record with
      deviceOwner := "trunk:subport"
      isActive := true
      bindingHostId := some "node" },
    .cleanup 0 .list, .cleanup 0 (.delete .served)]

/-- The clean-up lists the ports before the new one is attached. -/
def tooEarly : List CleaningLabel :=
  [created, .cleanup 0 .list, attached, .cleanup 0 (.delete .served),
    .cleanup 0 (.delete .served)]

end Opening

end KuryrKubernetes.Pool
