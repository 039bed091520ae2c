import KuryrKubernetes.Nested.PairsKept

/-!
# Runs of requests and releases

Every step of a thread keeps what holds of the address pairs.  So each pair of a live pod is in
the list once in every run in which no pair is added that is there.
-/

namespace KuryrKubernetes.Nested

open KuryrKubernetes.Effect
open KuryrKubernetes.Transition

/-! ## Steps keep it -/

section

variable {attempts : Nat} {node after : NodePairs} {thread : Nat}

theorem Kept.beginRequest (kept : Kept node)
    (taken : requestStep attempts node thread .begin = some after) : Kept after := by
  unfold requestStep at taken
  dsimp only at taken
  cases phase : node.requests thread with
  | waiting =>
      rw [phase] at taken
      cases taken
      apply kept.moveRequest
      · intro container
        rw [phase]
        rintro ⟨⟩
      · rintro container ⟨⟩
      · rintro vmPort ⟨⟩
      · rintro container ⟨⟩
  | asking _ _ | creating _ _ | updating _ _ _ | served _ | failed =>
      rw [phase] at taken
      cases taken

/-- A request reads the port of the node. -/
theorem Kept.requestReads (kept : Kept node) {vmPort : VmPort}
    (taken : requestStep attempts node thread (.getParentPort vmPort) = some after) :
    Kept after := by
  unfold requestStep at taken
  dsimp only at taken
  rw [Option.ite_none_right_eq_some] at taken
  rcases taken with ⟨shows_, moved⟩
  have current := current_of_shows shows_
  cases phase : node.requests thread with
  | asking container left =>
      rw [phase] at moved
      have unserved (other : ContainerPort) : node.requests thread ≠ .served other := by
        rw [phase]
        rintro ⟨⟩
      cases left with
      | zero => cases container <;> cases moved
      | succ left =>
          cases container with
          | none =>
              cases moved
              apply kept.moveRequest unserved
              · rintro container ⟨⟩
              · rintro read ⟨⟩
                exact current
              · rintro container ⟨⟩
          | some container =>
              cases moved
              apply kept.moveRequest unserved
              · rintro other ⟨⟩
                rw [phase]
                exact .inl rfl
              · rintro read ⟨⟩
                exact current
              · rintro container ⟨⟩
  | waiting | creating _ _ | updating _ _ _ | served _ | failed =>
      rw [phase] at moved
      cases moved

theorem Kept.requestCreates (kept : Kept node) {container : ContainerPort}
    {ending : Ending PyException}
    (taken : requestStep attempts node thread (.createPort container ending) = some after) :
    Kept after := by
  unfold requestStep at taken
  dsimp only at taken
  rw [Option.ite_none_right_eq_some] at taken
  rcases taken with ⟨givesOut, moved⟩
  cases phase : node.requests thread with
  | creating vmPort left =>
      rw [phase] at moved
      cases moved
      have unserved (other : ContainerPort) : node.requests thread ≠ .served other := by
        rw [phase]
        rintro ⟨⟩
      cases ending with
      | served =>
          apply (kept.grow givesOut).moveRequest unserved
          · rintro other ⟨⟩
            refine .inr ⟨?_, ?_⟩
            · constructor
              · exact List.mem_cons_self
              · intro other there sameId
                rcases List.mem_cons.mp there with same | before
                · exact same
                · have known := kept.known other before
                  rw [sameId] at known
                  exact absurd known givesOut.1
              · exact fun _ => List.mem_cons_self
            · intro another other read sameId
              have known := (kept.owned another other read).created
              rw [sameId] at known
              exact givesOut.1 known
          · rintro read ⟨⟩
            apply kept.requestCurrent thread
            rw [phase]
            rfl
          · rintro other ⟨⟩
      | refused exception =>
          apply kept.moveRequest unserved
          · rintro other ⟨⟩
          · rintro read ⟨⟩
          · rintro other ⟨⟩
      | cut exception =>
          apply (kept.grow givesOut).moveRequest unserved
          · rintro other ⟨⟩
          · rintro read ⟨⟩
          · rintro other ⟨⟩
  | waiting | asking _ _ | updating _ _ _ | served _ | failed =>
      rw [phase] at moved
      cases moved

/-- A request writes the list. -/
theorem Kept.requestUpdates (kept : Kept node) {ending : Ending PyException}
    (careful : Careful node (.request thread (.updatePort ending)))
    (taken : requestStep attempts node thread (.updatePort ending) = some after) :
    Kept after := by
  unfold requestStep at taken
  dsimp only at taken
  unfold Careful at careful
  dsimp only at careful
  cases phase : node.requests thread with
  | updating vmPort container left =>
      rw [phase] at taken careful
      dsimp only at taken careful
      have unserved (other : ContainerPort) : node.requests thread ≠ .served other := by
        rw [phase]
        rintro ⟨⟩
      have mine : (node.requests thread).container = some container := by
        rw [phase]
        rfl
      -- whatever is written, the request may try again or fail
      have retried {written : NodePairs} (kept : Kept written)
          (same : written.requests = node.requests) (exception : PyException) :
          Kept (written.moveRequest thread
            (if retries exception left then .asking (some container) left else .failed)) := by
        split
        · apply kept.moveRequest
          · rw [same]
            exact unserved
          · rintro other ⟨⟩
            rw [same]
            exact .inl mine
          · rintro read ⟨⟩
          · rintro other ⟨⟩
        · apply kept.moveRequest
          · rw [same]
            exact unserved
          · rintro other ⟨⟩
          · rintro read ⟨⟩
          · rintro other ⟨⟩
      rcases added : addToAllowedAddressPairs vmPort container.ips container.macAddress with
        exception | sent
      · rw [added] at taken
        cases taken
        apply kept.moveRequest unserved
        · rintro other ⟨⟩
        · rintro read ⟨⟩
        · rintro other ⟨⟩
      · rw [added] at taken
        cases taken
        rcases updatePort_cases node vmPort sent ending with ⟨untouched, raised⟩ | ⟨fresh, written⟩
        · rw [untouched]
          rcases result : (node.updatePort vmPort sent ending).2 with _ | exception
          · exact absurd result raised
          · exact retried kept rfl exception
        · rw [written]
          have keptWritten := kept.add phase fresh added
          rcases (node.updatePort vmPort sent ending).2 with _ | exception
          · apply keptWritten.moveRequest unserved
            · rintro other ⟨⟩
              exact .inl mine
            · rintro read ⟨⟩
            · rintro other ⟨⟩ pair isMine
              exact count_of_add careful added isMine
          · exact retried keptWritten rfl exception
  | waiting | asking _ _ | creating _ _ | served _ | failed =>
      rw [phase] at taken
      cases taken

theorem Kept.requestRaises (kept : Kept node)
    (taken : requestStep attempts node thread .raise = some after) : Kept after := by
  unfold requestStep at taken
  dsimp only at taken
  cases phase : node.requests thread with
  | asking _ _ | creating _ _ | updating _ _ _ =>
      rw [phase] at taken
      cases taken
      apply kept.moveRequest
      · intro container
        rw [phase]
        rintro ⟨⟩
      · rintro container ⟨⟩
      · rintro vmPort ⟨⟩
      · rintro container ⟨⟩
  | waiting | served _ | failed =>
      rw [phase] at taken
      cases taken

/-- The phase of a release that is over, or is about to read the port that is released. -/
theorem Kept.releaseEmpty (kept : Kept node) {phase : ReleasePhase}
    (releasing : ∀ id, phase.id = some id → id ∈ node.released)
    (container : phase.container = none) (vmPort : phase.vmPort = none) :
    Kept (node.moveRelease thread phase) := by
  apply kept.moveRelease releasing
  · intro other read
    rw [container] at read
    cases read
  · intro other read
    rw [vmPort] at read
    cases read
  · rintro other _ _ rfl
    cases vmPort
  · rintro id other rfl
    cases container

theorem Kept.releaseBegins (kept : Kept node) {request : Nat}
    (taken : releaseStep attempts node thread (.begin request) = some after) : Kept after := by
  unfold releaseStep at taken
  dsimp only at taken
  cases phase : node.releases thread with
  | waiting =>
      cases served : node.requests request with
      | served container =>
          rw [phase, served] at taken
          cases taken
          apply (kept.beginRelease served).releaseEmpty
          · rintro id ⟨⟩
            exact List.mem_cons_self
          · rfl
          · rfl
      | waiting | asking _ _ | creating _ _ | updating _ _ _ | failed =>
          rw [phase, served] at taken
          cases taken
  | getting _ _ | asking _ _ | updating _ _ _ | deleting _ _ | done | failed =>
      rw [phase] at taken
      cases taken

theorem Kept.releaseGets (kept : Kept node) {container : ContainerPort}
    (taken : releaseStep attempts node thread (.getPort container) = some after) :
    Kept after := by
  unfold releaseStep at taken
  dsimp only at taken
  cases phase : node.releases thread with
  | getting id left =>
      rw [phase] at taken
      cases left with
      | zero => cases taken
      | succ left =>
          dsimp only at taken
          rw [Option.ite_none_right_eq_some] at taken
          rcases taken with ⟨⟨there, rfl⟩, moved⟩
          cases moved
          have isReleased : container.id ∈ node.released := by
            apply kept.releasing thread
            rw [phase]
            rfl
          apply kept.moveRelease
          · rintro id ⟨⟩
            exact isReleased
          · rintro other ⟨⟩
            rcases kept.released container.id isReleased with ⟨request, other, served, sameId⟩
            have owned := kept.owned request other (container_of_served served)
            rw [owned.only container there sameId.symm]
            exact ⟨request, served⟩
          · rintro read ⟨⟩
          · rintro read other _ ⟨⟩
          · rintro id other ⟨⟩
  | waiting | asking _ _ | updating _ _ _ | deleting _ _ | done | failed =>
      rw [phase] at taken
      cases taken

theorem Kept.releaseSkips (kept : Kept node)
    (taken : releaseStep attempts node thread .skip = some after) : Kept after := by
  unfold releaseStep at taken
  dsimp only at taken
  cases phase : node.releases thread with
  | getting id left =>
      rw [phase] at taken
      cases left with
      | zero =>
          cases taken
          apply kept.releaseEmpty
          · rintro other ⟨⟩
            apply kept.releasing thread
            rw [phase]
            rfl
          · rfl
          · rfl
      | succ left => cases taken
  | waiting | asking _ _ | updating _ _ _ | deleting _ _ | done | failed =>
      rw [phase] at taken
      cases taken

/-- A release reads the port of the node. -/
theorem Kept.releaseReads (kept : Kept node) {vmPort : VmPort}
    (taken : releaseStep attempts node thread (.getParentPort vmPort) = some after) :
    Kept after := by
  unfold releaseStep at taken
  dsimp only at taken
  cases phase : node.releases thread with
  | asking container left =>
      rw [phase] at taken
      dsimp only at taken
      rw [Option.ite_none_right_eq_some] at taken
      rcases taken with ⟨shows_, moved⟩
      cases moved
      apply kept.moveRelease
      · rintro id ⟨⟩
        apply kept.releasing thread
        rw [phase]
        rfl
      · rintro other ⟨⟩
        apply kept.ofServed thread
        rw [phase]
        rfl
      · rintro read ⟨⟩
        exact current_of_shows shows_
      · rintro read other _ ⟨⟩ pair _ absent
        rw [← shows_.1]
        exact absent
      · rintro id other ⟨⟩
  | waiting | getting _ _ | updating _ _ _ | deleting _ _ | done | failed =>
      rw [phase] at taken
      cases taken

/-- A release writes the list, or finds no pair to remove. -/
theorem Kept.releaseUpdates (kept : Kept node) {ending : Ending PyException}
    (careful : Careful node (.release thread (.updatePort ending)))
    (taken : releaseStep attempts node thread (.updatePort ending) = some after) :
    Kept after := by
  unfold releaseStep at taken
  dsimp only at taken
  unfold Careful at careful
  dsimp only at careful
  cases phase : node.releases thread with
  | updating vmPort container left =>
      rw [phase] at taken careful
      dsimp only at taken careful
      have isReleased : container.id ∈ node.released := by
        apply kept.releasing thread
        rw [phase]
        rfl
      have ofServed := kept.ofServed thread container (container_of_updating phase)
      have current : vmPort.Current node := by
        apply kept.releaseCurrent thread
        rw [phase]
        rfl
      have deletes {written : NodePairs} (kept : Kept written)
          (released : written.released = node.released)
          (requests : written.requests = node.requests)
          (gone : container ∈ written.containers →
            ∀ pair ∈ container.pairs, pair ∉ written.pairs) :
          Kept (written.moveRelease thread (.deleting container.id (some container))) := by
        apply kept.moveRelease
        · rintro id ⟨⟩
          rw [released]
          exact isReleased
        · rintro other ⟨⟩
          rw [requests]
          exact ofServed
        · rintro read ⟨⟩
        · rintro read other _ ⟨⟩
        · rintro id other ⟨⟩
          exact gone
      have retried {written : NodePairs} (kept : Kept written)
          (released : written.released = node.released) (exception : PyException) :
          Kept (written.moveRelease thread
            (if retries exception left then .getting container.id left else .failed)) := by
        split
        · apply kept.releaseEmpty
          · rintro id ⟨⟩
            rw [released]
            exact isReleased
          · rfl
          · rfl
        · apply kept.releaseEmpty
          · rintro id ⟨⟩
          · rfl
          · rfl
      rcases removed : removeFromAllowedAddressPairs vmPort container.ips container.macAddress with
        exception | answer
      · rw [removed] at taken
        cases taken
        apply kept.releaseEmpty
        · rintro id ⟨⟩
        · rfl
        · rfl
      · have isAnswer := removed_of_remove removed
        dsimp only at isAnswer
        cases updated : (removePairs container.macAddress.text container.ips vmPort.pairs false).2
          with
        | false =>
            rw [updated] at isAnswer
            subst isAnswer
            rw [removed] at taken
            cases taken
            apply deletes kept rfl rfl
            intro there pair mine
            apply kept.missed thread vmPort container left phase there pair mine
            rcases List.mem_map.mp mine with ⟨ip, listed, rfl⟩
            exact (not_mem_of_not_updated updated).2 ip listed
        | true =>
            rw [updated] at isAnswer
            subst isAnswer
            rw [removed] at taken
            cases taken
            rcases updatePort_cases node vmPort
              (removePairs container.macAddress.text container.ips vmPort.pairs false).1 ending with
              ⟨untouched, raised⟩ | ⟨fresh, written⟩
            · rw [untouched]
              rcases result : (node.updatePort vmPort (removePairs container.macAddress.text
                container.ips vmPort.pairs false).1 ending).2 with _ | exception
              · exact absurd result raised
              · exact retried kept rfl exception
            · rw [written]
              have keptWritten := kept.remove phase fresh careful
              rcases (node.updatePort vmPort (removePairs container.macAddress.text
                container.ips vmPort.pairs false).1 ending).2 with _ | exception
              · apply deletes keptWritten rfl rfl
                intro there pair mine
                rcases ofServed with ⟨request, served⟩
                have once := kept.atMostOnce request container served there pair mine
                rw [← current.2 fresh] at once
                exact List.count_eq_zero.mp (removePairs_count_of_mem mine once false)
              · exact retried keptWritten rfl exception
  | waiting | getting _ _ | asking _ _ | deleting _ _ | done | failed =>
      rw [phase] at taken
      cases taken

theorem Kept.releaseDeletes (kept : Kept node) {ending : Ending PyException}
    (taken : releaseStep attempts node thread (.deletePort ending) = some after) :
    Kept after := by
  unfold releaseStep at taken
  dsimp only at taken
  cases phase : node.releases thread with
  | deleting id container =>
      rw [phase] at taken
      cases taken
      have isReleased : id ∈ node.released := by
        apply kept.releasing thread
        rw [phase]
        rfl
      have keptAfter : Kept (ending.change node
          { node with containers := node.containers.filter (·.id ≠ id) }) :=
        ending.change_cases Kept kept (kept.shrink isReleased)
      cases ending.exception? with
      | none =>
          apply keptAfter.releaseEmpty
          · rintro id ⟨⟩
          · rfl
          · rfl
      | some exception =>
          dsimp only
          split
          · apply keptAfter.releaseEmpty
            · rintro id ⟨⟩
            · rfl
            · rfl
          · apply keptAfter.releaseEmpty
            · rintro id ⟨⟩
            · rfl
            · rfl
  | waiting | getting _ _ | asking _ _ | updating _ _ _ | done | failed =>
      rw [phase] at taken
      cases taken

theorem Kept.releaseRaises (kept : Kept node)
    (taken : releaseStep attempts node thread .raise = some after) : Kept after := by
  unfold releaseStep at taken
  dsimp only at taken
  cases phase : node.releases thread with
  | getting _ _ | asking _ _ | updating _ _ _ | deleting _ _ =>
      rw [phase] at taken
      cases taken
      apply kept.releaseEmpty
      · rintro id ⟨⟩
      · rfl
      · rfl
  | waiting | done | failed =>
      rw [phase] at taken
      cases taken

theorem kept_preserved (attempts : Nat) : PreservedBy (pairStep attempts) Careful Kept := by
  intro node label after careful kept taken
  cases label with
  | request thread step =>
      change requestStep attempts node thread step = some after at taken
      cases step with
      | begin => exact kept.beginRequest taken
      | getParentPort vmPort => exact kept.requestReads taken
      | createPort container ending => exact kept.requestCreates taken
      | updatePort ending => exact kept.requestUpdates careful taken
      | raise => exact kept.requestRaises taken
  | release thread step =>
      change releaseStep attempts node thread step = some after at taken
      cases step with
      | begin request => exact kept.releaseBegins taken
      | getPort container => exact kept.releaseGets taken
      | skip => exact kept.releaseSkips taken
      | getParentPort vmPort => exact kept.releaseReads taken
      | updatePort ending => exact kept.releaseUpdates careful taken
      | deletePort ending => exact kept.releaseDeletes taken
      | raise => exact kept.releaseRaises taken
  | edit pairs =>
      unfold pairStep at taken
      dsimp only at taken
      rw [Option.ite_none_right_eq_some] at taken
      cases taken.2
      exact kept.edit taken.1

/-- No thread has begun. -/
theorem kept_initial (pairs : List AddressPair) (revision : Nat) :
    Kept { pairs, revision } := by
  constructor
  · rintro container ⟨⟩
  · rintro container ⟨⟩
  · rintro thread container ⟨⟩
  · rintro thread another container other ⟨⟩
  · rintro id ⟨⟩
  · rintro thread id ⟨⟩
  · rintro thread container ⟨⟩
  · rintro thread vmPort ⟨⟩
  · rintro thread vmPort ⟨⟩
  · rintro thread container ⟨⟩
  · rintro thread container ⟨⟩
  · rintro thread vmPort container left ⟨⟩
  · rintro thread id container ⟨⟩

end

/-- Where no pair is added that is there, and none removed that another port has been given, the
pairs of every live pod are in the list once, and those of a pod are gone when its port is about
to be deleted.  Removing what was added gives the list back; a pair that is there is refused only
where it has the very object as MAC address. -/
theorem pairs_of_live_pods {attempts revision : Nat} {pairs : List AddressPair}
    {labels : List PairLabel} {final : NodePairs}
    (run : GuardedRun (pairStep attempts) Careful { pairs, revision } labels final) :
    (∀ thread container, final.requests thread = .served container →
      container.id ∉ final.released → ∀ pair ∈ container.pairs, final.pairs.count pair = 1) ∧
    (∀ thread id container, final.releases thread = .deleting id (some container) →
      container ∈ final.containers → ∀ pair ∈ container.pairs, pair ∉ final.pairs) ∧
    ∀ (vmPort : VmPort) (container : ContainerPort), container.ips ≠ [] →
      (∀ again sent, (∀ pair ∈ container.pairs, pair ∉ vmPort.pairs) →
        addToAllowedAddressPairs vmPort container.ips container.macAddress = .ok sent →
        again.pairs = sent →
        removeFromAllowedAddressPairs again container.ips container.macAddress =
          .ok (some vmPort.pairs)) ∧
      (RefusesPresent vmPort container ↔
        (∀ pair ∈ container.pairs, pair ∉ vmPort.pairs) ∨ SameObject vmPort container) := by
  have kept := run.invariant (kept_preserved attempts) (kept_initial pairs revision)
  refine ⟨kept.once, kept.gone, ?_⟩
  intro vmPort container some_
  constructor
  · intro again sent new added written
    exact remove_of_add some_ new added written
  · exact refusesPresent_iff some_

/-! ## Two pods -/

instance (node : NodePairs) (label : PairLabel) : Decidable (Careful node label) := by
  unfold Careful
  cases label with
  | request thread step =>
      cases step with
      | updatePort ending =>
          dsimp only
          cases node.requests thread with
          | updating vmPort container left =>
              exact inferInstanceAs (Decidable (RefusesPresent vmPort container))
          | waiting | asking _ _ | creating _ _ | served _ | failed => exact isTrue trivial
      | begin | getParentPort _ | createPort _ _ | raise => exact isTrue trivial
  | release thread step =>
      cases step with
      | updatePort ending =>
          dsimp only
          cases node.releases thread with
          | updating vmPort container left =>
              exact inferInstanceAs (Decidable (∀ other ∈ _, _ → ∀ pair ∈ _, _))
          | waiting | getting _ _ | asking _ _ | deleting _ _ | done | failed =>
              exact isTrue trivial
      | begin _ | getPort _ | skip | getParentPort _ | deletePort _ | raise =>
          exact isTrue trivial
  | edit pairs => exact isTrue trivial

namespace TwoPods

/-- The port of a pod with one address. -/
def container (id : Nat) (ip mac : String) (named : mac ≠ "") : ContainerPort where
  id := id
  fixedIps := [ip]
  macAddress := ⟨mac, id⟩
  named := named

def first : ContainerPort :=
  container 1 "10.0.0.1" "fa:16:3e:00:00:01" (by decide)

def second : ContainerPort :=
  container 2 "10.0.0.2" "fa:16:3e:00:00:02" (by decide)

/-- The answer for the port of the node, whose strings are new objects. -/
def vmPort (revision : Nat) (containers : List ContainerPort) : VmPort where
  macAddress := ⟨"fa:16:3e:00:00:00", 0⟩
  allowedAddressPairs := containers.map fun container =>
    ⟨container.fixedIps.headD "", ⟨container.macAddress.text, 0⟩⟩
  revisionNumber := revision

/-- The second pod reads the port of the node before the first is added, and has to try again;
then the first pod is released. -/
def inTurn : List PairLabel :=
  [.request 1 .begin, .request 1 (.getParentPort (vmPort 0 [])),
    .request 2 .begin, .request 2 (.getParentPort (vmPort 0 [])),
    .request 1 (.createPort first .served), .request 1 (.updatePort .served),
    .request 2 (.createPort second .served), .request 2 (.updatePort .served),
    .request 2 (.getParentPort (vmPort 1 [first])), .request 2 (.updatePort .served),
    .release 1 (.begin 1), .release 1 (.getPort first),
    .release 1 (.getParentPort (vmPort 2 [first, second])), .release 1 (.updatePort .served)]

/-- The answer to the first update is lost, and the request tries again. -/
def lostAnswer : List PairLabel :=
  [.request 1 .begin, .request 1 (.getParentPort (vmPort 0 [])),
    .request 1 (.createPort first .served), .request 1 (.updatePort (.cut .sdkException)),
    .request 1 (.getParentPort (vmPort 1 [first])), .request 1 (.updatePort .served)]

/-- The pod is released. -/
def release : List PairLabel :=
  [.release 1 (.begin 1), .release 1 (.getPort first),
    .release 1 (.getParentPort (vmPort 2 [first, first])), .release 1 (.updatePort .served),
    .release 1 (.deletePort .served)]

end TwoPods

open TwoPods in
theorem pairs_of_two_pods :
    ∃ final, GuardedRun (pairStep 3) Careful {} inTurn final ∧
      final.requests 2 = .served second ∧ (∀ pair ∈ second.pairs, final.pairs.count pair = 1) ∧
      ∀ pair ∈ first.pairs, pair ∉ final.pairs := by
  have executed : (runIf (pairStep 3) Careful inTurn {}).map (fun final =>
      (final.requests 2, final.releases 1, final.released, final.containers)) =
      some (.served second, .deleting 1 (some first), [1], [second, first]) := by
    decide +kernel
  rcases Option.map_eq_some_iff.mp executed with ⟨final, ran, ended⟩
  rcases Prod.mk.inj ended with ⟨served, ends⟩
  rcases Prod.mk.inj ends with ⟨deletes, others⟩
  rcases Prod.mk.inj others with ⟨released, containers⟩
  rcases pairs_of_live_pods (guardedRun_of_runIf ran) with ⟨once, gone, _⟩
  refine ⟨final, guardedRun_of_runIf ran, served, ?_, ?_⟩
  · apply once 2 second served
    rw [released]
    decide
  · apply gone 1 1 first deletes
    rw [containers]
    exact List.mem_cons_of_mem _ List.mem_cons_self

open TwoPods in
/-- The request finds its pair in the list and adds it again; when the pod is released, a pair of
it stays. -/
theorem lost_answer_adds_pair_twice :
    ∃ live released, run (pairStep 3) lostAnswer {} = some live ∧
      run (pairStep 3) release live = some released ∧
      (addToAllowedAddressPairs (vmPort 1 [first]) first.ips first.macAddress =
        .ok (first.pairs ++ first.pairs)) ∧
      live.requests 1 = .served first ∧ live.pairs = first.pairs ++ first.pairs ∧
      released.releases 1 = .done ∧ released.pairs = first.pairs := by
  have executed : ((run (pairStep 3) lostAnswer {}).bind fun live =>
      (run (pairStep 3) release live).map fun released =>
        (live.requests 1, live.pairs, released.releases 1, released.pairs)) =
      some (.served first, first.pairs ++ first.pairs, .done, first.pairs) := by
    decide +kernel
  rcases Option.bind_eq_some_iff.mp executed with ⟨live, ran, continued⟩
  rcases Option.map_eq_some_iff.mp continued with ⟨released, went, ended⟩
  rcases Prod.mk.inj ended with ⟨served, ends⟩
  rcases Prod.mk.inj ends with ⟨twice, others⟩
  rcases Prod.mk.inj others with ⟨done, left⟩
  exact ⟨live, released, ran, went, rfl, served, twice, done, left⟩

end KuryrKubernetes.Nested
