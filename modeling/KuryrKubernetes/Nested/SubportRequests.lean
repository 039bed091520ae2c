import KuryrKubernetes.Nested.Vlan

/-!
# What is asked of a trunk

`_add_subport` once more, with the requests that it sends.  Others work on the trunk at the same
time, so that each attempt may meet another trunk, and the VLAN id that was free when it was
chosen may be in use when the request arrives.
-/

namespace KuryrKubernetes.Nested

open KuryrKubernetes.Effect

/-- What an attempt meets: what `get_trunk` answers, which VLAN ids are in use on the trunk when
the request arrives, and the error, if there is one, that Neutron has for any request. -/
structure TrunkAttempt where
  getTrunk : Except PyException (List SubportInfo)
  inUse : List Nat := []
  fails : Option PyException := none

/-- What Neutron answers: the subport is attached where there is no exception. -/
def TrunkAttempt.answer (attempt : TrunkAttempt) (info : SubportInfo) : Option PyException :=
  match attempt.fails with
  | some exception => some exception
  | none =>
      if info.portId.isNone then
        some .neutronBadRequest
      else if info.segmentationId ∈ attempt.inUse then
        some .neutronConflict
      else
        none

/-- A request that was sent in an attempt. -/
structure SentRequest where
  attempt : Nat
  info : SubportInfo
  answer : Option PyException
  deriving DecidableEq

/-- What the allocator has given out.  What was sent and attached is only noted. -/
structure Exchange where
  taken : List Nat
  sent : List SentRequest := []
  attached : List SubportInfo := []

/-- Programs that work on a trunk. -/
abbrev TrunkM := Program PyException Exchange

/-- `_get_in_use_vlan_ids_set`. -/
def TrunkAttempt.getInUseVlanIdsSet (attempt : TrunkAttempt) : Except PyException (List Nat) := do
  let subports ← attempt.getTrunk
  return subports.map (·.segmentationId)

/-- A VLAN id that is given out is taken. -/
def Exchange.took (exchange : Exchange) (id : Nat) : Exchange :=
  { exchange with taken := id :: exchange.taken }

/-- A request is noted. -/
def Exchange.note (exchange : Exchange) (request : SentRequest) : Exchange :=
  { exchange with sent := exchange.sent ++ [request] }

/-- A subport is attached. -/
def Exchange.attach (exchange : Exchange) (info : SubportInfo) : Exchange :=
  { exchange with attached := exchange.attached ++ [info] }

section

variable (segDriver : SegmentationDriver) (attempts : Nat → TrunkAttempt)

/-- `_get_vlan_id`. -/
def getVlanId (attempt : Nat) : TrunkM Nat := do
  let vlanIds ← settle (attempts attempt).getInUseVlanIdsSet
  let exchange ← get
  match segDriver.allocate vlanIds exchange.taken with
  | none => throw segmentationIdAllocationFailure
  | some id => do
      set (exchange.took id)
      return id

/-- `add_trunk_subports`, with one subport. -/
def addTrunkSubport (attempt : Nat) (info : SubportInfo) : TrunkM PUnit := do
  let answer := (attempts attempt).answer info
  modify (·.note ⟨attempt, info, answer⟩)
  match answer with
  | some exception => throw exception
  | none => modify (·.attach info)

/-- The loop of `_add_subport` in an attempt and those after it.  After a conflict the name
`subport` stands for the list that was sent, which is no port id. -/
def addSubportLoop : (left attempt : Nat) → Option Nat → TrunkM Nat
  | 0, _, _ => throw .neutronConflict
  | left + 1, attempt, subport => do
      let vlanId ← getVlanId segDriver attempts attempt
      let added ← tryCatch
        (do
          addTrunkSubport attempts attempt ⟨vlanId, subport⟩
          return true)
        fun ex => if ex = .neutronConflict ∧ left ≠ 0 then return false else throw ex
      if added then
        return vlanId
      else
        addSubportLoop left (attempt + 1) none

/-- `_add_subport`. -/
def addSubport (subport : Nat) : TrunkM Nat :=
  addSubportLoop segDriver attempts VlanRequest.defaultMaxRetryCount 1 (some subport)

/-- The VLAN id that is chosen in an attempt. -/
def chosen (attempt : Nat) (taken : List Nat) : Except PyException Nat := do
  let vlanIds ← (attempts attempt).getInUseVlanIdsSet
  match segDriver.allocate vlanIds taken with
  | none => throw segmentationIdAllocationFailure
  | some id => return id

end

/-! ## Attempts -/

section

variable {segDriver : SegmentationDriver} {attempts : Nat → TrunkAttempt}

/-- Only a port is attached. -/
theorem isSome_of_answer {attempt : TrunkAttempt} {info : SubportInfo}
    (attached : attempt.answer info = none) : info.portId.isSome := by
  unfold TrunkAttempt.answer at attached
  split at attached
  · cases attached
  · split at attached
    · cases attached
    · rename_i named
      rw [Option.isSome_iff_ne_none]
      exact fun unnamed => named (Option.isNone_iff_eq_none.mpr unnamed)

/-- An id is chosen where the trunk answers and an id is left. -/
theorem chosen_eq_ok_iff {attempt id : Nat} {taken : List Nat} :
    chosen segDriver attempts attempt taken = .ok id ↔
      ∃ vlanIds, (attempts attempt).getInUseVlanIdsSet = .ok vlanIds ∧
        segDriver.allocate vlanIds taken = some id := by
  unfold chosen
  cases (attempts attempt).getInUseVlanIdsSet with
  | error exception =>
      constructor
      · rintro ⟨⟩
      · rintro ⟨_, ⟨⟩, _⟩
  | ok vlanIds =>
      simp only [bind, Except.bind, Except.ok.injEq, exists_eq_left']
      cases segDriver.allocate vlanIds taken with
      | none =>
          constructor
          · rintro ⟨⟩
          · rintro ⟨⟩
      | some other =>
          rw [Option.some.injEq]
          exact ⟨fun same => Except.ok.inj same, congrArg Except.ok⟩

/-- Otherwise the trunk could not be read, or no id is left. -/
theorem chosen_eq_error_iff {attempt : Nat} {taken : List Nat} {exception : PyException} :
    chosen segDriver attempts attempt taken = .error exception ↔
      (attempts attempt).getInUseVlanIdsSet = .error exception ∨
        ∃ vlanIds, (attempts attempt).getInUseVlanIdsSet = .ok vlanIds ∧
          segDriver.allocate vlanIds taken = none ∧
          exception = segmentationIdAllocationFailure := by
  unfold chosen
  cases (attempts attempt).getInUseVlanIdsSet with
  | error other =>
      constructor
      · rintro ⟨⟩
        exact .inl rfl
      · rintro (⟨⟨⟩⟩ | ⟨_, ⟨⟩, _⟩)
        rfl
  | ok vlanIds =>
      simp only [bind, Except.bind]
      cases allocated : segDriver.allocate vlanIds taken with
      | none =>
          constructor
          · rintro ⟨⟩
            exact .inr ⟨vlanIds, rfl, allocated, rfl⟩
          · rintro (⟨⟨⟩⟩ | ⟨_, ⟨⟩, _, rfl⟩)
            rfl
      | some id =>
          constructor
          · rintro ⟨⟩
          · rintro (⟨⟨⟩⟩ | ⟨_, ⟨⟩, exhausted, _⟩)
            rw [allocated] at exhausted
            cases exhausted

/-- A VLAN id that is chosen is not in use on the trunk. -/
theorem unused_of_chosen {attempt id : Nat} {taken : List Nat}
    (given : chosen segDriver attempts attempt taken = .ok id) :
    ∃ subports, (attempts attempt).getTrunk = .ok subports ∧
      id ∉ subports.map (·.segmentationId) := by
  obtain ⟨vlanIds, read, allocated⟩ := chosen_eq_ok_iff.mp given
  unfold TrunkAttempt.getInUseVlanIdsSet at read
  cases answered : (attempts attempt).getTrunk with
  | error exception =>
      rw [answered] at read
      cases read
  | ok subports =>
      rw [answered] at read
      cases read
      exact ⟨subports, rfl, (segDriver.fresh _ _ _ allocated).1⟩

section

variable {attempt id left : Nat} {subport : Option Nat} {exchange : Exchange}
  {exception : PyException}

theorem exec_getVlanId_of_ok (given : chosen segDriver attempts attempt exchange.taken = .ok id) :
    exec (getVlanId segDriver attempts attempt) exchange = (.ok id, exchange.took id) := by
  obtain ⟨vlanIds, read, allocated⟩ := chosen_eq_ok_iff.mp given
  unfold getVlanId
  rw [read, settle_ok, exec_pure_bind, exec_get_bind, allocated]
  rfl

theorem exec_getVlanId_of_error
    (given : chosen segDriver attempts attempt exchange.taken = .error exception) :
    exec (getVlanId segDriver attempts attempt) exchange = (.error exception, exchange) := by
  unfold getVlanId
  rcases chosen_eq_error_iff.mp given with read | ⟨vlanIds, read, exhausted, rfl⟩
  · rw [read]
    rfl
  · rw [read, settle_ok, exec_pure_bind, exec_get_bind, exhausted]
    rfl

/-- The exchange after an id was chosen and asked for. -/
def Exchange.asked (exchange : Exchange) (attempt id : Nat) (subport : Option Nat)
    (answer : Option PyException) : Exchange :=
  (exchange.took id).note ⟨attempt, ⟨id, subport⟩, answer⟩

/-! ### The turns of the loop -/

theorem exec_loop_of_unchosen
    (given : chosen segDriver attempts attempt exchange.taken = .error exception) :
    exec (addSubportLoop segDriver attempts (left + 1) attempt subport) exchange =
      (.error exception, exchange) := by
  unfold addSubportLoop
  rw [exec_bind_of_error (exec_getVlanId_of_error given)]

theorem exec_loop_of_attached
    (given : chosen segDriver attempts attempt exchange.taken = .ok id)
    (answer : (attempts attempt).answer ⟨id, subport⟩ = none) :
    exec (addSubportLoop segDriver attempts (left + 1) attempt subport) exchange =
      (.ok id, (exchange.asked attempt id subport none).attach ⟨id, subport⟩) := by
  unfold addSubportLoop
  rw [exec_bind_of_ok (exec_getVlanId_of_ok given), exec_bind, exec_tryCatch]
  unfold addTrunkSubport
  rw [answer]
  rfl

theorem exec_loop_of_refused
    (given : chosen segDriver attempts attempt exchange.taken = .ok id)
    (answer : (attempts attempt).answer ⟨id, subport⟩ = some exception)
    (last : ¬(exception = .neutronConflict ∧ left ≠ 0)) :
    exec (addSubportLoop segDriver attempts (left + 1) attempt subport) exchange =
      (.error exception, exchange.asked attempt id subport (some exception)) := by
  unfold addSubportLoop
  rw [exec_bind_of_ok (exec_getVlanId_of_ok given), exec_bind, exec_tryCatch]
  unfold addTrunkSubport
  rw [answer]
  simp only [exec_bind, exec_modify, exec_throw]
  rw [if_neg last]
  rfl

theorem exec_loop_of_conflict
    (given : chosen segDriver attempts attempt exchange.taken = .ok id)
    (answer : (attempts attempt).answer ⟨id, subport⟩ = some .neutronConflict)
    (more : left ≠ 0) :
    exec (addSubportLoop segDriver attempts (left + 1) attempt subport) exchange =
      exec (addSubportLoop segDriver attempts left (attempt + 1) none)
        (exchange.asked attempt id subport (some .neutronConflict)) := by
  rw [addSubportLoop]
  rw [exec_bind_of_ok (exec_getVlanId_of_ok given), exec_bind, exec_tryCatch]
  unfold addTrunkSubport
  rw [answer]
  simp only [exec_bind, exec_modify, exec_throw]
  rw [if_pos ⟨trivial, more⟩]
  rfl

end

/-! ### On a trunk that others leave alone -/

section

variable (request : VlanRequest) (trunkId : String) (site : Site)

/-- The attempts of a request while no one else works on the trunk. -/
def VlanRequest.trunkAttempts (attempt : Nat) : TrunkAttempt where
  getTrunk := (exec (getTrunk request.endings attempt trunkId) site).1
  inUse := ((site.trunks.get? trunkId).getD []).map (·.segmentationId)
  fails := (request.endings (.addTrunkSubports attempt)).exception?

variable {request trunkId site} {attempt left id : Nat} {subport : Option Nat}

/-- What `get_trunk` answers depends on the trunks only, which it leaves alone. -/
theorem exec_getTrunk {changed : Site} (same : changed.trunks = site.trunks) :
    exec (getTrunk request.endings attempt trunkId) changed =
      ((request.trunkAttempts trunkId site attempt).getTrunk, changed) := by
  unfold VlanRequest.trunkAttempts getTrunk serve Effect.serve
  dsimp only
  rw [exec_get_bind, exec_get_bind]
  cases request.endings (.getTrunk attempt) with
  | served =>
      dsimp only
      rw [exec_get_bind, exec_get_bind, same]
      cases site.trunks.get? trunkId <;> rfl
  | refused exception => rfl
  | cut exception =>
      simp only [exec_bind, exec_get, same]
      cases site.trunks.get? trunkId <;> rfl

theorem trunkAttempts_took (id : Nat) :
    request.trunkAttempts trunkId (site.took id) = request.trunkAttempts trunkId site := by
  funext attempt
  have same : exec (getTrunk request.endings attempt trunkId) (site.took id) =
      ((request.trunkAttempts trunkId site attempt).getTrunk, site.took id) := exec_getTrunk rfl
  unfold VlanRequest.trunkAttempts at same ⊢
  rw [same]
  rfl

/-- A trunk that answers is there. -/
theorem known_of_getTrunk {subports : List SubportInfo}
    (read : (request.trunkAttempts trunkId site attempt).getTrunk = .ok subports) :
    site.trunks.get? trunkId = some subports := by
  have ran : exec (getTrunk request.endings attempt trunkId) site = (.ok subports, site) := by
    rw [exec_getTrunk rfl, read]
  obtain ⟨_, answered⟩ := served_of_returns ran
  rw [exec_get_bind] at answered
  cases known : site.trunks.get? trunkId with
  | none =>
      rw [known] at answered
      cases answered
  | some others =>
      rw [known] at answered
      cases answered
      rfl

theorem exec_getInUseVlanIdsSet :
    exec (request.getInUseVlanIdsSet attempt trunkId) site =
      ((request.trunkAttempts trunkId site attempt).getInUseVlanIdsSet, site) := by
  unfold VlanRequest.getInUseVlanIdsSet TrunkAttempt.getInUseVlanIdsSet
  rw [exec_bind, exec_getTrunk rfl]
  cases (request.trunkAttempts trunkId site attempt).getTrunk <;> rfl

/-- `_get_vlan_id` on the trunk. -/
theorem exec_getVlanId_trunk_of_ok
    (given : chosen request.segDriver (request.trunkAttempts trunkId site) attempt site.taken =
      .ok id) :
    exec (request.getVlanId attempt trunkId) site = (.ok id, site.took id) := by
  obtain ⟨vlanIds, read, allocated⟩ := chosen_eq_ok_iff.mp given
  unfold VlanRequest.getVlanId allocateSegmentationId
  rw [exec_bind, exec_getInUseVlanIdsSet, read]
  dsimp only
  rw [exec_get_bind, allocated]
  rfl

theorem exec_getVlanId_trunk_of_error {exception : PyException}
    (given : chosen request.segDriver (request.trunkAttempts trunkId site) attempt site.taken =
      .error exception) :
    exec (request.getVlanId attempt trunkId) site = (.error exception, site) := by
  unfold VlanRequest.getVlanId allocateSegmentationId
  rw [exec_bind, exec_getInUseVlanIdsSet]
  rcases chosen_eq_error_iff.mp given with read | ⟨vlanIds, read, exhausted, rfl⟩
  · rw [read]
  · rw [read]
    dsimp only
    rw [exec_get_bind, exhausted]
    rfl

/-- `add_trunk_subports` of one subport, on a trunk that is there. -/
theorem exec_addTrunkSubports_trunk {subports : List SubportInfo} (info : SubportInfo)
    (known : site.trunks.get? trunkId = some subports)
    (uncut : ∀ exception, request.endings (.addTrunkSubports attempt) ≠ .cut exception) :
    ∃ after, exec (addTrunkSubports request.endings attempt trunkId [info]) site =
        (((request.trunkAttempts trunkId site attempt).answer info).elim (.ok ⟨⟩) .error, after) ∧
      ∀ exception, (request.trunkAttempts trunkId site attempt).answer info = some exception →
        after = site := by
  unfold addTrunkSubports TrunkAttempt.answer VlanRequest.trunkAttempts
  cases ending : request.endings (.addTrunkSubports attempt) with
  | cut exception => exact absurd ending (uncut exception)
  | refused exception =>
      refine ⟨site, Effect.exec_serve_of_refused ending, fun _ _ => rfl⟩
  | served =>
      rw [exec_serve_of_served ending, exec_get_bind, known]
      dsimp only [Ending.exception?, Option.getD_some]
      obtain ⟨segmentationId, portId⟩ := info
      cases portId with
      | none => exact ⟨site, rfl, fun _ _ => rfl⟩
      | some port =>
          have listed : ([⟨segmentationId, some port⟩].any fun info : SubportInfo =>
              subports.any fun other => decide (other.segmentationId = info.segmentationId)) =
              decide (segmentationId ∈ subports.map (·.segmentationId)) := by
            rw [Bool.eq_iff_iff]
            simp
          rw [listed]
          by_cases used : segmentationId ∈ subports.map (·.segmentationId)
          · rw [decide_eq_true used]
            refine ⟨site, ?_, fun _ _ => rfl⟩
            simp [used]
          · rw [decide_eq_false used]
            refine ⟨_, by simp [used]; rfl, ?_⟩
            simp [used]

/-- While no one else works on the trunk and no request raises after it took effect, `_add_subport`
with its requests comes to what `_add_subport` on the trunk comes to. -/
theorem addSubport_trunk (uncut : ∀ attempt exception,
    request.endings (.addTrunkSubports attempt) ≠ .cut exception) (subport : Nat) :
    (exec (request.addSubport trunkId subport) site).1 =
      (exec (addSubport request.segDriver (request.trunkAttempts trunkId site) subport)
        ⟨site.taken, [], []⟩).1 := by
  have loop (left attempt : Nat) (subport : Option Nat) (site : Site) (exchange : Exchange)
      (taken : exchange.taken = site.taken) :
      (exec (request.addSubportLoop trunkId left attempt subport) site).1 =
        (exec (addSubportLoop request.segDriver (request.trunkAttempts trunkId site) left attempt
          subport) exchange).1 := by
    induction left generalizing attempt subport site exchange with
    | zero => rfl
    | succ left ih =>
        unfold VlanRequest.addSubportLoop
        cases given : chosen request.segDriver (request.trunkAttempts trunkId site) attempt
            site.taken with
        | error exception =>
            rw [exec_bind_of_error (exec_getVlanId_trunk_of_error given)]
            rw [← taken] at given
            rw [exec_loop_of_unchosen given]
        | ok id =>
            obtain ⟨subports, read, _⟩ := unused_of_chosen given
            have known : site.trunks.get? trunkId = some subports := known_of_getTrunk read
            have stillKnown : (site.took id).trunks.get? trunkId = some subports := known
            obtain ⟨after, asked, unchanged⟩ :=
              exec_addTrunkSubports_trunk ⟨id, subport⟩ stillKnown (uncut attempt)
            rw [trunkAttempts_took] at asked unchanged
            rw [exec_bind_of_ok (exec_getVlanId_trunk_of_ok given), exec_bind, exec_tryCatch,
              exec_bind, asked]
            rw [← taken] at given
            cases answer : (request.trunkAttempts trunkId site attempt).answer ⟨id, subport⟩ with
            | none =>
                rw [exec_loop_of_attached given answer]
                rfl
            | some exception =>
                cases unchanged exception answer
                by_cases again : exception = .neutronConflict ∧ left ≠ 0
                · obtain ⟨rfl, more⟩ := again
                  rw [exec_loop_of_conflict given answer more]
                  simp only [Option.elim_some, ne_eq, more, not_false_eq_true, and_self, if_true,
                    exec_pure]
                  have rest := ih (attempt + 1) none (site.took id)
                    (exchange.asked attempt id subport (some .neutronConflict))
                    (congrArg (id :: ·) taken)
                  rwa [trunkAttempts_took] at rest
                · rw [exec_loop_of_refused given answer again]
                  simp only [Option.elim_some, again, if_false, exec_throw]
  exact loop _ 1 (some subport) site _ rfl

end

/-! ## Whole calls -/

/-- The id of a request was not in use when it was chosen. -/
def SentRequest.Unused (attempts : Nat → TrunkAttempt) (request : SentRequest) : Prop :=
  ∃ subports, (attempts request.attempt).getTrunk = .ok subports ∧
    request.info.segmentationId ∉ subports.map (·.segmentationId)

/-- What holds at the end of the loop, for the requests that were sent in it: an id is returned
only after the subport was attached with it, an exception is raised only where nothing was
attached, and after the last conflict it is raised. -/
structure LoopEnds (attempts : Nat → TrunkAttempt) (left : Nat) (subport : Option Nat)
    (before : Exchange) (ended : Except PyException Nat × Exchange)
    (requests : List SentRequest) : Prop where
  sent : ended.2.sent = before.sent ++ requests
  unused : ∀ request ∈ requests, request.Unused attempts
  returned : ∀ vlanId, ended.1 = .ok vlanId →
    subport.isSome ∧ ended.2.attached = before.attached ++ [⟨vlanId, subport⟩]
  raised : ∀ exception, ended.1 = .error exception → ended.2.attached = before.attached
  exhausted : requests.length = left → (∀ request ∈ requests, request.answer =
    some .neutronConflict) → ended.1 = .error .neutronConflict

/-- By induction on the attempts that are left. -/
theorem loop_ends (segDriver : SegmentationDriver) (attempts : Nat → TrunkAttempt)
    (left attempt : Nat) (subport : Option Nat) (exchange : Exchange) :
    ∃ requests, LoopEnds attempts left subport exchange
      (exec (addSubportLoop segDriver attempts left attempt subport) exchange) requests := by
  induction left generalizing attempt subport exchange with
  | zero =>
      refine ⟨[], (List.append_nil _).symm, ?_, ?_, ?_, ?_⟩
      · rintro request ⟨⟩
      · rintro vlanId ⟨⟩
      · exact fun _ _ => rfl
      · exact fun _ _ => rfl
  | succ left ih =>
      cases given : chosen segDriver attempts attempt exchange.taken with
      | error exception =>
          rw [exec_loop_of_unchosen given]
          refine ⟨[], (List.append_nil _).symm, ?_, ?_, ?_, ?_⟩
          · rintro request ⟨⟩
          · rintro vlanId ⟨⟩
          · exact fun _ _ => rfl
          · rintro ⟨⟩
      | ok id =>
          have unused := unused_of_chosen given
          cases answer : (attempts attempt).answer ⟨id, subport⟩ with
          | none =>
              rw [exec_loop_of_attached given answer]
              refine ⟨[⟨attempt, ⟨id, subport⟩, none⟩], rfl, ?_, ?_, ?_, ?_⟩
              · intro request listed
                rw [List.mem_singleton.mp listed]
                exact unused
              · rintro vlanId ⟨⟩
                exact ⟨isSome_of_answer answer, rfl⟩
              · rintro exception ⟨⟩
              · intro _ conflicts
                cases conflicts _ List.mem_cons_self
          | some exception =>
              by_cases again : exception = .neutronConflict ∧ left ≠ 0
              · obtain ⟨rfl, more⟩ := again
                rw [exec_loop_of_conflict given answer more]
                obtain ⟨requests, ends⟩ := ih (attempt + 1) none
                  (exchange.asked attempt id subport (some .neutronConflict))
                refine ⟨⟨attempt, ⟨id, subport⟩, some .neutronConflict⟩ :: requests,
                  ?_, ?_, ?_, ends.raised, ?_⟩
                · rw [ends.sent]
                  exact List.append_assoc _ [_] _
                · intro request listed
                  rcases List.mem_cons.mp listed with rfl | later
                  · exact unused
                  · exact ends.unused request later
                · intro vlanId isOk
                  cases (ends.returned vlanId isOk).1
                · intro all conflicts
                  apply ends.exhausted (Nat.succ.inj all)
                  exact fun request later => conflicts request (List.mem_cons_of_mem _ later)
              · rw [exec_loop_of_refused given answer again]
                refine ⟨[⟨attempt, ⟨id, subport⟩, some exception⟩], rfl, ?_, ?_, ?_, ?_⟩
                · intro request listed
                  rw [List.mem_singleton.mp listed]
                  exact unused
                · rintro vlanId ⟨⟩
                · exact fun _ _ => rfl
                · intro _ conflicts
                  cases conflicts _ List.mem_cons_self
                  rfl

/-- What `_add_subport` is to do: every request names the port, with an id that was not in use
when it was chosen; the id that is returned is the one that the port is attached with; with an
exception nothing is attached; and after the last conflict it is raised. -/
structure AddsPort (attempts : Nat → TrunkAttempt) (port : Nat)
    (ended : Except PyException Nat × Exchange) : Prop where
  named : ∀ request ∈ ended.2.sent, request.info.portId = some port ∧ request.Unused attempts
  returned : ∀ vlanId, ended.1 = .ok vlanId → ended.2.attached = [⟨vlanId, some port⟩]
  raised : ∀ exception, ended.1 = .error exception → ended.2.attached = []
  exhausted : ended.2.sent.length = VlanRequest.defaultMaxRetryCount →
    (∀ request ∈ ended.2.sent, request.answer = some .neutronConflict) →
    ended.1 = .error .neutronConflict

/-- The first request is answered with a conflict, and another id is chosen. -/
def AsksAgain (segDriver : SegmentationDriver) (attempts : Nat → TrunkAttempt)
    (taken : List Nat) (port : Nat) : Prop :=
  ∃ first second, chosen segDriver attempts 1 taken = .ok first ∧
    (attempts 1).answer ⟨first, some port⟩ = some .neutronConflict ∧
    chosen segDriver attempts 2 (first :: taken) = .ok second

/-- After a conflict the next request names no port. -/
theorem mem_sent_of_chosen (left : Nat) {attempt id : Nat} (exchange : Exchange)
    (given : chosen segDriver attempts attempt exchange.taken = .ok id) :
    ∃ request ∈ (exec (addSubportLoop segDriver attempts (left + 1) attempt none) exchange).2.sent,
      request.info.portId = none := by
  cases answer : (attempts attempt).answer ⟨id, none⟩ with
  | none =>
      cases isSome_of_answer answer
  | some exception =>
      have listed : ⟨attempt, ⟨id, none⟩, some exception⟩ ∈
          (exchange.asked attempt id none (some exception)).sent :=
        List.mem_append_right _ List.mem_cons_self
      by_cases again : exception = .neutronConflict ∧ left ≠ 0
      · obtain ⟨rfl, more⟩ := again
        rw [exec_loop_of_conflict given answer more]
        obtain ⟨requests, ends⟩ := loop_ends segDriver attempts left (attempt + 1) none
          (exchange.asked attempt id none (some .neutronConflict))
        refine ⟨⟨attempt, ⟨id, none⟩, some .neutronConflict⟩, ?_, rfl⟩
        rw [ends.sent]
        exact List.mem_append_left _ listed
      · rw [exec_loop_of_refused given answer again]
        exact ⟨_, listed, rfl⟩

/-- All requests name the port if and only if there is no other request after a conflict. -/
theorem named_iff (taken : List Nat) (port : Nat) :
    (∀ request ∈ (exec (addSubport segDriver attempts port) ⟨taken, [], []⟩).2.sent,
      request.info.portId = some port) ↔ ¬AsksAgain segDriver attempts taken port := by
  unfold addSubport AsksAgain
  rw [VlanRequest.defaultMaxRetryCount]
  cases given : chosen segDriver attempts 1 taken with
  | error exception =>
      rw [exec_loop_of_unchosen given]
      constructor
      · rintro _ ⟨_, _, ⟨⟩, _⟩
      · rintro _ request ⟨⟩
  | ok first =>
      have single (answer : Option PyException) :
          ∀ request ∈ (Exchange.asked ⟨taken, [], []⟩ 1 first (some port) answer).sent,
            request.info.portId = some port := by
        intro request listed
        rw [List.mem_singleton.mp listed]
      cases answer : (attempts 1).answer ⟨first, some port⟩ with
      | none =>
          rw [exec_loop_of_attached given answer]
          constructor
          · rintro _ ⟨_, _, ⟨⟩, conflict, _⟩
            rw [answer] at conflict
            cases conflict
          · exact fun _ => single none
      | some exception =>
          by_cases again : exception = .neutronConflict
          · subst again
            rw [exec_loop_of_conflict given answer (by decide)]
            cases next : chosen segDriver attempts 2 (first :: taken) with
            | error exception =>
                rw [exec_loop_of_unchosen next]
                constructor
                · rintro _ ⟨_, second, ⟨⟩, _, chosen⟩
                  rw [next] at chosen
                  cases chosen
                · exact fun _ => single _
            | ok second =>
                obtain ⟨request, listed, unnamed⟩ := mem_sent_of_chosen 1
                  (Exchange.asked ⟨taken, [], []⟩ 1 first (some port) (some .neutronConflict)) next
                constructor
                · intro all
                  have named := all request listed
                  rw [unnamed] at named
                  cases named
                · intro never
                  exact absurd ⟨first, second, rfl, answer, next⟩ never
          · rw [exec_loop_of_refused given answer fun both => again both.1]
            constructor
            · rintro _ ⟨_, _, ⟨⟩, conflict, _⟩
              rw [answer] at conflict
              cases conflict
              exact again rfl
            · exact fun _ => single _

/-- `_add_subport` does what it is to do if and only if the first request is not answered with a
conflict, or no other id is chosen after it. -/
theorem add_subport_adds_port_iff (segDriver : SegmentationDriver)
    (attempts : Nat → TrunkAttempt) (taken : List Nat) (port : Nat) :
    AddsPort attempts port (exec (addSubport segDriver attempts port) ⟨taken, [], []⟩) ↔
      ¬AsksAgain segDriver attempts taken port := by
  obtain ⟨requests, ends⟩ := loop_ends segDriver attempts
    VlanRequest.defaultMaxRetryCount 1 (some port) ⟨taken, [], []⟩
  have sent := ends.sent
  rw [List.nil_append] at sent
  rw [← named_iff]
  constructor
  · exact fun adds request listed => (adds.named request listed).1
  · intro named
    constructor
    · intro request listed
      refine ⟨named request listed, ?_⟩
      exact ends.unused request (sent ▸ listed)
    · exact fun vlanId isOk => (ends.returned vlanId isOk).2
    · exact ends.raised
    · intro all conflicts
      apply ends.exhausted
      · rw [← sent]
        exact all
      · intro request listed
        exact conflicts request (sent ▸ listed)

end

/-- An allocator that hands out the first of three VLAN ids that is left. -/
def firstOfThree : SegmentationDriver where
  allocate inUse taken := [1, 2, 3].find? fun id => !inUse.contains id && !taken.contains id
  fresh inUse taken id allocated := by
    have free := List.find?_some allocated
    simpa using free

/-- Another controller takes the id before the first request arrives. -/
def overtaken (attempt : Nat) : TrunkAttempt where
  getTrunk := .ok (if attempt = 1 then [] else [⟨1, some 4⟩])
  inUse := [1]

/-- The second request does not name the port, though the id is free now. -/
theorem add_subport_names_no_port :
    ¬AddsPort overtaken 5 (exec (addSubport firstOfThree overtaken 5) ⟨[], [], []⟩) := by
  intro adds
  have sent : ⟨2, ⟨2, none⟩, some .neutronBadRequest⟩ ∈
      (exec (addSubport firstOfThree overtaken 5) ⟨[], [], []⟩).2.sent := by
    decide
  cases (adds.named _ sent).1

end KuryrKubernetes.Nested
