import Mathlib.Data.List.MinMax
import KuryrKubernetes.Effect.Ensures
import KuryrKubernetes.Policy.Driver

/-!
# Ids of a resource and of its security group

The rules that a policy has are written down twice, in its resource and at Neutron.
The translation of a policy keeps the two in agreement, whatever rules it creates or
finds at Neutron, and reports by `matched` that the resource has to be written.
-/

namespace KuryrKubernetes.Policy

open KuryrKubernetes.Data
open KuryrKubernetes.Effect

/-! ## Agreement -/

/-- An id is the one of a rule of a security group. -/
def InGroup (neutron : Dict Nat SgRule) (group : String) (id : Nat) : Prop :=
  ∃ rule, neutron.get? id = some rule ∧ rule.securityGroupId = group

/-- The ids of some entries. -/
def entryIds (entries : List CrdRule) : List Nat :=
  entries.map (·.id)

/-- The ids of the entries and `others` are those of the rules of a security group. -/
def Agree (neutron : Dict Nat SgRule) (group : String) (others : List Nat)
    (entries : List CrdRule) : Prop :=
  ∀ id, (id ∈ entryIds entries ∨ id ∈ others) ↔ InGroup neutron group id

/-- The rules of other security groups are left alone. -/
def foreignUnchanged (group : String) : Frame ParseState where
  rel before after := ∀ id rule, rule.securityGroupId ≠ group →
    (after.neutron.get? id = some rule ↔ before.neutron.get? id = some rule)
  refl _ _ _ _ := Iff.rfl
  trans first second := by
    intro id rule foreign
    exact (second id rule foreign).trans (first id rule foreign)

/-- The rules of other groups are left alone, and an agreement is not disturbed. -/
def agreeing (group : String) (others : List Nat) : Frame ParseState :=
  (Frame.stable fun state => Agree state.neutron group others state.crdRules).both
    (foreignUnchanged group)

variable {snapshot : Snapshot} {group : String} {others : List Nat}

/-- Neutron is left alone, and so are the ids of the entries. -/
theorem agreeing_of_same {before after : ParseState} (neutron : after.neutron = before.neutron)
    (ids : entryIds after.crdRules = entryIds before.crdRules) :
    (agreeing group others).rel before after := by
  constructor
  · intro agree
    unfold Agree
    rw [neutron, ids]
    exact agree
  · intro id rule _
    rw [neutron]

/-! ## One rule -/

theorem freshId_not_mem (neutron : Dict Nat SgRule) : freshId neutron ∉ neutron :=
  neutron.freshKey_not_mem

/-- Neutron answers with the id of a rule of the same group. -/
theorem inGroup_of_existingId {neutron : Dict Nat SgRule} {rule : SgRule} {id : Nat}
    (existing : existingId neutron rule = some id) :
    InGroup neutron rule.securityGroupId id := by
  obtain ⟨⟨_, other⟩, found, rfl⟩ := Option.map_eq_some_iff.mp existing
  have duplicate : other.duplicates rule := by simpa using List.find?_some found
  refine ⟨other, Dict.mem_items_iff.mp (List.mem_of_find?_eq_some found), ?_⟩
  rw [of_decide_eq_true duplicate]

/-- Appending an entry adds its id. -/
theorem mem_entryIds_append {entry : CrdRule} {entries : List CrdRule} {id : Nat} :
    id ∈ entryIds (entries ++ [entry]) ↔ id ∈ entryIds entries ∨ id = entry.id := by
  simp [entryIds]

/-- After `appendCrdRule` the entries have the id, and no other new one. -/
theorem mem_entryIds_appendCrdRule (entry : CrdRule) (state : ParseState) (id : Nat) :
    id ∈ entryIds (exec (appendCrdRule entry) state).2.crdRules ↔
      id ∈ entryIds state.crdRules ∨ id = entry.id := by
  rw [appendCrdRule, exec_modify]
  split
  · rename_i listed
    obtain ⟨other, member, same⟩ := List.any_eq_true.mp listed
    have equal : other.id = entry.id := (of_decide_eq_true same).1
    constructor
    · exact .inl
    · rintro (present | rfl)
      · exact present
      · exact List.mem_map.mpr ⟨other, member, equal⟩
  · exact mem_entryIds_append

theorem neutron_appendCrdRule (entry : CrdRule) (state : ParseState) :
    (exec (appendCrdRule entry) state).2.neutron = state.neutron := by
  rw [appendCrdRule, exec_modify]
  split <;> rfl

/-- An entry is appended after the rule of its id has come to be there. -/
theorem agreeing_of_added {before middle : ParseState} {entry : CrdRule}
    (entries : middle.crdRules = before.crdRules)
    (ids : ∀ id, InGroup middle.neutron group id ↔ InGroup before.neutron group id ∨ id = entry.id)
    (foreign : (foreignUnchanged group).rel before middle) :
    (agreeing group others).rel before (exec (appendCrdRule entry) middle).2 := by
  constructor
  · intro agree id
    rw [neutron_appendCrdRule, ids, mem_entryIds_appendCrdRule, entries, ← agree id]
    tauto
  · intro id rule other
    rw [neutron_appendCrdRule]
    exact foreign id rule other

/-- Adding a rule of the group adds its id on both sides. -/
theorem addRule_agrees {body : RuleBody} (own : body.rule.securityGroupId = group) :
    (agreeing group others).Keeps (addRule snapshot body) := by
  intro state
  subst own
  rw [addRule, createRule, createSecurityGroupRule, bind_assoc, bind_assoc, exec_get_bind]
  cases existing : existingId state.neutron body.rule with
  | some id =>
      rw [exec_pure_bind, exec_pure_bind]
      apply agreeing_of_added rfl
      · intro other
        constructor
        · exact .inl
        · rintro (present | rfl)
          · exact present
          · exact inGroup_of_existingId existing
      · exact (foreignUnchanged _).refl state
  | none =>
      cases snapshot.refuses body.rule with
      | some ex => exact (agreeing _ others).refl state
      | none =>
          have absent := freshId_not_mem state.neutron
          dsimp only
          rw [bind_assoc, exec_set_bind, exec_pure_bind, exec_pure_bind]
          apply agreeing_of_added
          · rfl
          · intro id
            by_cases new : id = freshId state.neutron
            · subst new
              simp [InGroup]
            · simp [InGroup, Dict.get?_set_of_ne _ _ new, new]
          · intro id rule foreign
            by_cases new : id = freshId state.neutron
            · subst new
              have missing := Dict.not_mem_iff_get?_eq_none.mp absent
              rw [Dict.get?_set_self, missing]
              constructor
              · intro same
                cases same
                exact absurd rfl foreign
              · rintro ⟨⟩
            · rw [Dict.get?_set_of_ne _ _ new]

theorem createSgRuleFor_agrees {crd : Crd} {direction : Direction} {cidr : String}
    {port : Option (PortNumber × Option Protocol)} {namespaceName : Option String} :
    (agreeing crd.securityGroupId others).Keeps
      (createSgRuleFor snapshot crd direction cidr port namespaceName) := by
  cases port with
  | none => exact addRule_agrees rfl
  | some port => exact addRule_agrees rfl

/-! ## Named ports -/

theorem entryIds_extendCrdRule {number : Nat} {podIp podNamespace : String}
    {entries extended : List CrdRule}
    (found : extendCrdRule number podIp podNamespace entries = some extended) :
    entryIds extended = entryIds entries := by
  induction entries generalizing extended with
  | nil => cases found
  | cons entry rest ih =>
      rw [extendCrdRule] at found
      split at found
      · cases found
        rfl
      · obtain ⟨later, extends_, rfl⟩ := Option.map_eq_some_iff.mp found
        simp only [entryIds, List.map_cons] at ih ⊢
        rw [ih extends_]

/-- The result of the loops over pods is marked by its `matched`. -/
def IsMatched (result : Bool × MatchedPods) : Prop :=
  result.1 = true

theorem createSgRulesWithContainerPorts_agrees {call : TextPort} {ruleSelectedPod : Pod}
    {ports : List (Pod × PortNumber)} {matched : Bool} {matchedPods : MatchedPods} :
    (agreeing call.crd.securityGroupId others).Marks IsMatched (matched, matchedPods)
      (createSgRulesWithContainerPorts snapshot call ruleSelectedPod ports matched
        matchedPods) := by
  induction ports generalizing matched matchedPods with
  | nil => exact Frame.marks_pure
  | cons item rest ih =>
      obtain ⟨pod, containerPort⟩ := item
      rw [createSgRulesWithContainerPorts]
      cases pod.podIp with
      | none => exact ih
      | some podIp =>
          have goesOn (pods : MatchedPods) :
              (agreeing call.crd.securityGroupId others).Ensures
                (createSgRulesWithContainerPorts snapshot call ruleSelectedPod rest true pods)
                IsMatched :=
            ih.ensures rfl
          apply Frame.Ensures.marks
          dsimp only
          split
          · intro state
            rw [exec_get_bind]
            cases found : extendCrdRule containerPort podIp pod.namespaceName state.crdRules with
            | none => exact goesOn _ state
            | some extended =>
                have later := goesOn matchedPods { state with crdRules := extended }
                have moved : (agreeing call.crd.securityGroupId others).rel state
                    { state with crdRules := extended } :=
                  agreeing_of_same rfl (entryIds_extendCrdRule found)
                exact ⟨Frame.trans _ moved later.1, later.2⟩
          · cases ruleSelectedPod.podIp with
            | none => exact goesOn matchedPods
            | some ruleIp =>
                apply Frame.Keeps.before
                · apply addRule_agrees
                  rfl
                · exact fun _ => goesOn matchedPods

theorem createSgRulesOnTurns_agrees {call : TextPort}
    {turns : List (List (Pod × PortNumber) × Pod)} {matched : Bool} {matchedPods : MatchedPods} :
    (agreeing call.crd.securityGroupId others).Marks IsMatched (matched, matchedPods)
      (createSgRulesOnTurns snapshot call turns matched matchedPods) := by
  induction turns generalizing matched matchedPods with
  | nil => exact Frame.marks_pure
  | cons turn rest ih =>
      exact createSgRulesWithContainerPorts_agrees.bind fun _ => ih

theorem createSgRuleOnMatchedPods_agrees {call : TextPort} {number : Nat}
    {pods : Dict String String} :
    (agreeing call.crd.securityGroupId others).Keeps
      (createSgRuleOnMatchedPods snapshot call number pods) := by
  unfold createSgRuleOnMatchedPods
  split
  · exact addRule_agrees rfl
  · split
    · exact Frame.keeps_pure _
    · rename_i namespaceObj _
      rw [getNamespaceSubnetCidr]
      cases namespaceObj.subnetCidr with
      | none => exact Frame.keeps_throw _
      | some cidr => exact addRule_agrees rfl

theorem createSgRuleOnTextPort_agrees {call : TextPort} {pods : List Pod} {matched : Bool} :
    (agreeing call.crd.securityGroupId others).Marks (· = true) matched
      (createSgRuleOnTextPort snapshot call pods matched) := by
  intro state
  have loops : (agreeing call.crd.securityGroupId others).Marks IsMatched (matched, ∅)
      (createSgRulesOnTurns snapshot call (textPortTurns snapshot call pods) matched ∅) :=
    createSgRulesOnTurns_agrees
  obtain ⟨moved, ended⟩ := loops state
  rw [createSgRuleOnTextPort, exec_bind]
  rcases ran : exec (createSgRulesOnTurns snapshot call (textPortTurns snapshot call pods) matched
    ∅) state with ⟨outcome, middle⟩
  rw [ran] at moved ended
  cases outcome with
  | error exception =>
      constructor
      · exact moved
      · rintro result ⟨⟩
  | ok result =>
      obtain ⟨found, matchedPods⟩ := result
      have created : (agreeing call.crd.securityGroupId others).Ensures
          (matchedPods.items.forM (fun item => createSgRuleOnMatchedPods snapshot call item.1 item.2)
            >>= fun _ => pure found) (· = found) := by
        apply Frame.Keeps.before
        · apply Frame.Keeps.forM
          exact fun item _ => createSgRuleOnMatchedPods_agrees
        · exact fun _ => Frame.ensures_pure rfl
      obtain ⟨movedOn, same⟩ := created middle
      constructor
      · exact Frame.trans _ moved movedOn
      · intro result finished
        rcases ended _ rfl with matches_ | ⟨unchanged, still⟩
        · exact .inl ((same result finished).trans matches_)
        · cases unchanged
          exact .inr ⟨same result finished, still⟩

/-! ## Peers -/

variable {crd : Crd} {direction : Direction} {pod : Pod} {block : RuleBlock}

/-- The frame and the marks of the translation of a policy. -/
abbrev Agrees (crd : Crd) (others : List Nat) (matched : Bool) (program : PolicyM Bool) : Prop :=
  (agreeing crd.securityGroupId others).Marks (· = true) matched program

theorem textPort_agrees {call : TextPort} {pods : List Pod} {matched : Bool}
    (own : call.crd = crd) :
    Agrees crd others matched (createSgRuleOnTextPort snapshot call pods matched) := by
  subst own
  exact createSgRuleOnTextPort_agrees

theorem overPorts_agrees {named : PolicyPort → Bool → PolicyM Bool}
    {numeric : PortNumber × Option Protocol → Bool → PolicyM Bool} {ports : List PolicyPort}
    {matched : Bool} (name : ∀ port matched, Agrees crd others matched (named port matched))
    (number : ∀ port matched, Agrees crd others matched (numeric port matched)) :
    Agrees crd others matched (overPorts named numeric ports matched) := by
  induction ports generalizing matched with
  | nil => exact Frame.marks_pure
  | cons port rest ih =>
      rw [overPorts]
      split
      · exact (number _ matched).bind fun _ => ih
      · exact (name port matched).bind fun _ => ih

/-- A rule for an address is always reported. -/
theorem addressRule_agrees {cidr : String} {port : Option (PortNumber × Option Protocol)}
    {namespaceName : Option String} {matched : Bool} :
    Agrees crd others matched (do
      createSgRuleFor snapshot crd direction cidr port namespaceName
      return true) := by
  apply Frame.Ensures.marks
  apply createSgRuleFor_agrees.before
  exact fun _ => Frame.ensures_pure rfl

theorem createSgRules_agrees {podSelector : Option LabelSelector} {matched allowAll : Bool}
    {namespaceName : Option String} (addressed : pod.podIp.isSome) :
    Agrees crd others matched
      (createSgRules snapshot crd pod podSelector block direction matched namespaceName
        allowAll) := by
  obtain ⟨podIp, address⟩ := Option.isSome_iff_exists.mp addressed
  rw [createSgRules, address]
  dsimp only
  cases presentSelector podSelector with
  | none =>
      cases block.ports with
      | none => exact Frame.marks_pure
      | some ports =>
          apply overPorts_agrees
          · exact fun _ _ => textPort_agrees rfl
          · exact fun _ _ => Frame.marks_pure
  | some selector =>
      apply Frame.Marks.ite
      · cases block.ports with
        | none => exact addressRule_agrees
        | some ports =>
            apply overPorts_agrees
            · exact fun _ _ => textPort_agrees rfl
            · exact fun _ _ => addressRule_agrees
      · exact Frame.marks_pure

theorem parseSelectorsOnPod_agrees {peer : Peer} {matched : Bool}
    (addressed : pod.podIp.isSome) :
    Agrees crd others matched
      (parseSelectorsOnPod snapshot crd pod peer block direction matched) := by
  rw [parseSelectorsOnPod, getNamespaceLabels]
  cases snapshot.getNamespace pod.namespaceName with
  | none => exact Frame.marks_throw _
  | some namespaceObj =>
      dsimp only
      rw [pure_bind]
      cases peer.namespaceSelector with
      | none => exact (createSgRules_agrees addressed).ite Frame.marks_pure
      | some selector =>
          apply Frame.Marks.ite
          · exact createSgRules_agrees addressed
          · exact (createSgRules_agrees addressed).ite Frame.marks_pure

theorem createSgRulesForPods_agrees {port : Option (PortNumber × Option Protocol)}
    {namespaceName : Option String} {pods : List Pod} {matched : Bool} :
    Agrees crd others matched
      (createSgRulesForPods snapshot crd direction port namespaceName pods matched) := by
  induction pods generalizing matched with
  | nil => exact Frame.marks_pure
  | cons pod rest ih =>
      rw [createSgRulesForPods]
      cases pod.podIp with
      | none => exact ih
      | some podIp =>
          apply Frame.Ensures.marks
          apply createSgRuleFor_agrees.before
          exact fun _ => ih.ensures rfl

theorem parseSelectorsOnNamespace_agrees {peer : Peer} {namespaceObj : Namespace}
    {matched : Bool} :
    Agrees crd others matched
      (parseSelectorsOnNamespace snapshot crd direction peer block namespaceObj matched) := by
  unfold parseSelectorsOnNamespace
  dsimp only
  cases presentSelector peer.namespaceSelector with
  | none => exact Frame.marks_pure
  | some selector =>
      apply Frame.Marks.ite
      · exact Frame.marks_pure
      · cases presentSelector peer.podSelector with
        | some podSelector =>
            cases block.ports with
            | none => exact createSgRulesForPods_agrees
            | some ports =>
                apply overPorts_agrees
                · exact fun _ _ => textPort_agrees rfl
                · intro port matched
                  exact (createSgRulesForPods_agrees.ensures rfl).marks
        | none =>
            rw [getNamespaceSubnetCidr]
            cases namespaceObj.subnetCidr with
            | none => exact Frame.marks_throw _
            | some nsCidr =>
                dsimp only
                rw [pure_bind]
                cases block.ports with
                | none => exact addressRule_agrees
                | some ports =>
                    apply overPorts_agrees
                    · exact fun _ _ => textPort_agrees rfl
                    · exact fun _ _ => addressRule_agrees

/-! ## Policies -/

/-- A pod that a policy is parsed for has an address. -/
def Subject.Addressed : Subject → Prop
  | .pod pod => pod.podIp.isSome
  | .namespaceObj _ => True

instance : (subject : Subject) → Decidable subject.Addressed
  | .pod pod => inferInstanceAs (Decidable (pod.podIp.isSome = true))
  | .namespaceObj _ => inferInstanceAs (Decidable True)

variable {subject : Subject}

theorem parsePeers_agrees (addressed : subject.Addressed) {peers : List Peer} {matched : Bool} :
    Agrees crd others matched (parsePeers snapshot direction crd subject block peers matched) := by
  induction peers generalizing matched with
  | nil => exact Frame.marks_pure
  | cons peer rest ih =>
      cases subject with
      | pod pod => exact (parseSelectorsOnPod_agrees addressed).bind fun _ => ih
      | namespaceObj namespaceObj => exact parseSelectorsOnNamespace_agrees.bind fun _ => ih

theorem parseOpenPorts_agrees {matched : Bool} :
    Agrees crd others matched (parseOpenPorts snapshot direction crd subject block matched) := by
  cases subject with
  | namespaceObj namespaceObj => exact Frame.marks_pure
  | pod pod =>
      apply Frame.Marks.ite
      · exact Frame.marks_pure
      · apply overPorts_agrees
        · intro port matched
          apply Frame.Marks.ite
          · exact textPort_agrees rfl
          · exact Frame.marks_pure
        · exact fun _ _ => Frame.marks_pure

theorem parseBlocks_agrees (addressed : subject.Addressed) {blocks : List RuleBlock}
    {matched : Bool} :
    Agrees crd others matched (parseBlocks snapshot direction crd subject blocks matched) := by
  induction blocks generalizing matched with
  | nil => exact Frame.marks_pure
  | cons block rest ih =>
      apply (parsePeers_agrees addressed).bind
      intro matchedByPeers
      exact parseOpenPorts_agrees.bind fun _ => ih

/-- Parsing a policy keeps resource and group in agreement, and reports every change. -/
theorem parseRules_agrees (addressed : subject.Addressed) :
    Agrees crd others false (parseRules snapshot direction crd subject) :=
  parseBlocks_agrees addressed

end KuryrKubernetes.Policy
