import KuryrKubernetes.Policy.GroupCompared

/-!
# The rules of a policy are replaced

The deletions take all rules of the resource away from the group, whatever the comparisons
say, and what is created afterwards has ids of its own.  So an update keeps the rules that it
should keep only where there are none, and in that case it does all that it should.
-/

namespace KuryrKubernetes.Policy.GroupUpdate

open KuryrKubernetes.Data
open KuryrKubernetes.Effect
open KuryrKubernetes.Policy.GroupCreation

/-! ## Sites -/

/-- Every call is carried out. -/
structure Served (answers : Answers) : Prop where
  neutron : ∀ call, answers.neutron call = .served
  kubernetes : ∀ call, answers.kubernetes call = .served

/-- The rules of one group may change. -/
structure Changed (sgId : Nat) (before after : Site) : Prop where
  answers : after.answers = before.answers
  resources : after.resources = before.resources
  group : sgId ∈ after.groups
  nextRule : before.nextRule ≤ after.nextRule

theorem Changed.refl {sgId : Nat} {site : Site} (group : sgId ∈ site.groups) :
    Changed sgId site site :=
  ⟨rfl, rfl, group, le_refl _⟩

theorem Changed.trans {sgId : Nat} {before middle after : Site}
    (first : Changed sgId before middle) (second : Changed sgId middle after) :
    Changed sgId before after where
  answers := second.answers.trans first.answers
  resources := second.resources.trans first.resources
  group := second.group
  nextRule := first.nextRule.trans second.nextRule

theorem rules_changeRules {site : Site} {sgId : Nat}
    (change : Dict Nat RuleRequest → Dict Nat RuleRequest) (group : sgId ∈ site.groups) :
    (site.changeRules sgId change).rules sgId = change (site.rules sgId) := by
  rcases Dict.mem_iff_exists_get?.mp group with ⟨found, there⟩
  unfold Site.changeRules Site.rules
  rw [there]
  dsimp only
  rw [Dict.get?_set_self]
  rfl

theorem changed_changeRules {site : Site} {sgId : Nat}
    (change : Dict Nat RuleRequest → Dict Nat RuleRequest) (group : sgId ∈ site.groups) :
    Changed sgId site (site.changeRules sgId change) := by
  unfold Site.changeRules
  split
  · exact .refl group
  · exact ⟨rfl, rfl, Dict.mem_set.mpr (.inl rfl), le_refl _⟩

/-! ## Deletions -/

/-- The ids at the positions are gone, and nothing else. -/
theorem exec_deleteRules (sgId : Nat) (sgrIds : List Nat) {positions : List Nat}
    (named : ∀ position ∈ positions, position < sgrIds.length) {site : Site}
    (served : Served site.answers) (group : sgId ∈ site.groups) :
    ∃ after, exec (deleteRules sgId sgrIds positions) site = (.ok ⟨⟩, after) ∧
      Changed sgId site after ∧
      ∀ id request, (after.rules sgId).get? id = some request ↔
        (site.rules sgId).get? id = some request ∧
          ∀ position ∈ positions, sgrIds[position]? ≠ some id := by
  induction positions generalizing site with
  | nil =>
      refine ⟨site, rfl, .refl group, ?_⟩
      intro id request
      simp
  | cons position rest ih =>
      rcases name : sgrIds[position]? with _ | first
      · have missing := List.getElem?_eq_none_iff.mp name
        exact absurd (named position List.mem_cons_self) (Nat.not_lt.mpr missing)
      let middle := site.changeRules sgId (·.erase first)
      have moved : Changed sgId site middle := changed_changeRules _ group
      have deleted : exec (NetworkClient.deleteSecurityGroupRule (.deleteRule position) sgId first)
          site = (.ok ⟨⟩, middle) := by
        apply exec_serve_of_served
        rw [served.neutron]
      have servedMiddle : Served middle.answers := by
        rw [moved.answers]
        exact served
      rcases ih (fun other member => named other (List.mem_cons_of_mem position member))
        servedMiddle moved.group with ⟨after, ran, changed, rules⟩
      refine ⟨after, ?_, moved.trans changed, ?_⟩
      · rw [deleteRules, name, Option.elim, settle_ok, exec_pure_bind, exec_bind_of_ok deleted, ran]
      · intro id request
        rw [rules id request, rules_changeRules _ group, Dict.get?_erase]
        by_cases gone : id = first
        · subst gone
          simp [name]
        · have kept : sgrIds[position]? ≠ some id := by
            rw [name]
            intro equal
            cases equal
            exact gone rfl
          simp [gone, name, Ne.symm gone]

/-! ## Creations -/

/-- What is created comes from a set of requests, under ids that no rule had; every other rule
stays. -/
structure Grown (requests : RuleRequest → Prop) (sgId : Nat) (before after : Site) : Prop where
  changed : Changed sgId before after
  kept : ∀ id request, (before.rules sgId).get? id = some request →
    (after.rules sgId).get? id = some request
  new : ∀ id request, (after.rules sgId).get? id = some request →
    (before.rules sgId).get? id = some request ∨ requests request ∧ before.nextRule ≤ id
  below : ∀ id ∈ after.rules sgId, id < after.nextRule

theorem Grown.refl {requests : RuleRequest → Prop} {sgId : Nat} {site : Site}
    (group : sgId ∈ site.groups) (below : ∀ id ∈ site.rules sgId, id < site.nextRule) :
    Grown requests sgId site site :=
  ⟨.refl group, fun _ _ there => there, fun _ _ there => .inl there, below⟩

theorem Grown.trans {requests : RuleRequest → Prop} {sgId : Nat} {before middle after : Site}
    (first : Grown requests sgId before middle) (second : Grown requests sgId middle after) :
    Grown requests sgId before after where
  changed := first.changed.trans second.changed
  kept id request there := second.kept id request (first.kept id request there)
  new id request there := by
    rcases second.new id request there with old | ⟨asked, fresh⟩
    · exact first.new id request old
    · exact .inr ⟨asked, first.changed.nextRule.trans fresh⟩
  below := second.below

theorem Grown.mono {requests wider : RuleRequest → Prop} {sgId : Nat} {before after : Site}
    (grown : Grown requests sgId before after) (implies : ∀ request, requests request → wider request) :
    Grown wider sgId before after where
  changed := grown.changed
  kept := grown.kept
  new id request there := by
    rcases grown.new id request there with old | ⟨asked, fresh⟩
    · exact .inl old
    · exact .inr ⟨implies request asked, fresh⟩
  below := grown.below

/-- The id that is found is that of the rule. -/
theorem get?_of_existingRule {rules : Dict Nat RuleRequest} {request : RuleRequest} {id : Nat}
    (found : existingRule rules request = some id) : rules.get? id = some request := by
  rcases Option.map_eq_some_iff.mp found with ⟨item, first, rfl⟩
  have equal : item.2 = request := by simpa using List.find?_some first
  rw [← equal]
  exact Dict.mem_items_iff.mp (List.mem_of_find?_eq_some first)

/-- A rule is created, or the id of the one that there is comes back. -/
theorem exec_createSecurityGroupRule (call : NeutronCall) {sgId : Nat} (request : RuleRequest)
    {site : Site} (served : Served site.answers) (group : sgId ∈ site.groups)
    (below : ∀ id ∈ site.rules sgId, id < site.nextRule) :
    ∃ id after, exec (GroupCreation.createSecurityGroupRule call sgId request) site =
        (.ok id, after) ∧
      Grown (· = request) sgId site after ∧ (after.rules sgId).get? id = some request := by
  unfold GroupCreation.createSecurityGroupRule
  rw [exec_tryCatch]
  rcases existing : existingRule (site.rules sgId) request with _ | id
  · let after : Site :=
      { site.changeRules sgId (·.set site.nextRule request) with nextRule := site.nextRule + 1 }
    have created : exec (NetworkClient.createSecurityGroupRule call sgId request) site =
        (.ok site.nextRule, after) := by
      unfold NetworkClient.createSecurityGroupRule neutron
      rw [exec_serve_of_served, exec_get_bind, existing]
      · rfl
      · rw [served.neutron]
        rfl
    have moved := changed_changeRules (·.set site.nextRule request) group
    have rules : after.rules sgId = (site.rules sgId).set site.nextRule request :=
      rules_changeRules _ group
    have unused : site.nextRule ∉ site.rules sgId :=
      fun used => absurd (below _ used) (Nat.lt_irrefl _)
    rw [created]
    refine ⟨site.nextRule, after, rfl, ⟨⟨moved.answers, moved.resources, moved.group, Nat.le_succ _⟩, ?_, ?_, ?_⟩, ?_⟩
    · intro other old there
      rw [rules, Dict.get?_set_of_ne]
      · exact there
      · rintro rfl
        exact unused (Dict.mem_iff_exists_get?.mpr ⟨old, there⟩)
    · intro other found there
      rw [rules, Dict.get?_set] at there
      split at there
      · rename_i equal
        cases there
        exact .inr ⟨rfl, le_of_eq equal.symm⟩
      · exact .inl there
    · intro other used
      rw [rules] at used
      rcases Dict.mem_set.mp used with rfl | old
      · exact Nat.lt_succ_self _
      · exact Nat.lt_succ_of_lt (below other old)
    · rw [rules, Dict.get?_set_self]
  · have refused : exec (NetworkClient.createSecurityGroupRule call sgId request) site =
        (.error .neutronConflict, site) := by
      unfold NetworkClient.createSecurityGroupRule neutron
      rw [exec_serve_of_served, exec_get_bind, existing]
      · rfl
      · rw [served.neutron]
        rfl
    rw [refused]
    dsimp only
    rw [if_pos rfl, exec_get_bind, existing]
    exact ⟨id, site, rfl, .refl group below, get?_of_existingRule existing⟩

/-- The ids of new rules are those of the rules that Neutron has for their bodies. -/
def Valid (sgId : Nat) (rules : NewRules) (site : Site) : Prop :=
  ∀ reference rule id, rules.get? reference = some rule → rule.id = some id →
    ∃ request, RuleRequest.ofParsed rule.body = .ok request ∧
      (site.rules sgId).get? id = some request

/-- A new rule is looked for in the list that it is in. -/
def Directed (rules : NewRules) (reference : Reference) : Prop :=
  ∀ rule, rules.get? reference = some rule →
    ∃ request, RuleRequest.ofParsed rule.body = .ok request ∧ direction request = reference.1

/-- What one of some new rules asks for. -/
def AskedBy (rules : NewRules) (references : List Reference) (request : RuleRequest) : Prop :=
  ∃ reference ∈ references, ∃ rule, rules.get? reference = some rule ∧
    RuleRequest.ofParsed rule.body = .ok request

theorem Directed.of_bodies {before after : NewRules} {reference : Reference}
    (bodies : ∀ direction, (after.list direction).map SgRuleEntry.body =
      (before.list direction).map SgRuleEntry.body)
    (directed : Directed before reference) : Directed after reference := by
  intro rule there
  rcases NewRules.get?_of_bodies (fun towards => (bodies towards).symm) there with
    ⟨old, oldThere, body⟩
  rw [← body]
  exact directed old oldThere

theorem AskedBy.of_bodies {before after : NewRules} {references : List Reference}
    (bodies : ∀ direction, (after.list direction).map SgRuleEntry.body =
      (before.list direction).map SgRuleEntry.body) {request : RuleRequest}
    (asked : AskedBy after references request) : AskedBy before references request := by
  rcases asked with ⟨reference, listed, rule, there, made⟩
  rcases NewRules.get?_of_bodies (fun towards => (bodies towards).symm) there with
    ⟨old, oldThere, body⟩
  rw [← body] at made
  exact ⟨reference, listed, old, oldThere, made⟩

/-- A rule is created and its id written. -/
theorem exec_addRule {sgId : Nat} {reference : Reference} {rules : NewRules} {sgRule : SgRuleEntry}
    (there : rules.get? reference = some sgRule) (directed : Directed rules reference) {site : Site}
    (served : Served site.answers) (group : sgId ∈ site.groups)
    (below : ∀ id ∈ site.rules sgId, id < site.nextRule) (valid : Valid sgId rules site) :
    ∃ final after, exec (addRule sgId reference sgRule rules) site = (.ok final, after) ∧
      Grown (AskedBy rules [reference]) sgId site after ∧
      (∀ direction, (final.list direction).map SgRuleEntry.body =
        (rules.list direction).map SgRuleEntry.body) ∧
      Valid sgId final after ∧
      (∀ other old rule, rules.get? other = some old → final.get? other = some rule →
        old.id.isSome → rule.id.isSome) ∧
      ∃ rule, final.get? reference = some rule ∧ rule.id.isSome := by
  rcases directed sgRule there with ⟨request, made, towards⟩
  rcases exec_createSecurityGroupRule (.createRule reference.1 reference.2) request served group
    below with ⟨id, after, created, grown, named⟩
  have assigned : NewRules.Assigned sgRule.body id rules
      (rules.assign reference (direction request) id) := NewRules.assigned_assign there _ id
  refine ⟨rules.assign reference (direction request) id, after, ?_, ?_, assigned.bodies, ?_, ?_, ?_⟩
  · rw [addRule, made, settle_ok, exec_pure_bind, exec_bind_of_ok created]
    rfl
  · apply grown.mono
    rintro other rfl
    exact ⟨reference, List.mem_singleton_self _, sgRule, there, made⟩
  · intro other rule ruleId ruleThere hasId
    rcases assigned.ids other rule ruleThere with ⟨old, oldThere, kept | ⟨written, equal⟩⟩
    · rcases NewRules.get?_of_bodies assigned.bodies oldThere with ⟨later, laterThere, body⟩
      rw [ruleThere] at laterThere
      cases laterThere
      rcases valid other old ruleId oldThere (kept.symm.trans hasId) with ⟨asked, oldMade, has⟩
      rw [body]
      exact ⟨asked, oldMade, grown.kept ruleId asked has⟩
    · rcases NewRules.get?_of_bodies assigned.bodies oldThere with ⟨later, laterThere, body⟩
      rw [ruleThere] at laterThere
      cases laterThere
      rw [hasId] at written
      cases written
      rw [body, ofParsed_of_same equal]
      exact ⟨request, made, named⟩
  · intro other old rule oldThere ruleThere had
    rcases assigned.ids other rule ruleThere with ⟨found, foundThere, kept | ⟨written, _⟩⟩
    · rw [oldThere] at foundThere
      cases foundThere
      rw [kept]
      exact had
    · rw [written]
      rfl
  · rcases NewRules.id_assign there id with ⟨rule, ruleThere, written⟩
    rw [← towards] at ruleThere
    refine ⟨rule, ruleThere, ?_⟩
    rw [written]
    rfl

/-- All rules to add get the id of a rule at Neutron. -/
theorem exec_addRules {sgId : Nat} (references : List Reference) {rules : NewRules}
    (directed : ∀ reference ∈ references, Directed rules reference) {site : Site}
    (served : Served site.answers) (group : sgId ∈ site.groups)
    (below : ∀ id ∈ site.rules sgId, id < site.nextRule) (valid : Valid sgId rules site) :
    ∃ final after, exec (addRules sgId references rules) site = (.ok final, after) ∧
      Grown (AskedBy rules references) sgId site after ∧
      (∀ direction, (final.list direction).map SgRuleEntry.body =
        (rules.list direction).map SgRuleEntry.body) ∧
      Valid sgId final after ∧
      ∀ reference old rule, rules.get? reference = some old → final.get? reference = some rule →
        reference ∈ references ∨ old.id.isSome → rule.id.isSome := by
  induction references generalizing rules site with
  | nil =>
      refine ⟨rules, site, rfl, .refl group below, fun _ => rfl, valid, ?_⟩
      intro reference old rule was there given
      rw [was] at there
      cases there
      rcases given with listed | had
      · cases listed
      · exact had
  | cons reference rest ih =>
      rcases there : rules.get? reference with _ | sgRule
      · rcases ih (fun other listed => directed other (List.mem_cons_of_mem reference listed)) served
          group below valid with ⟨final, after, ran, grown, bodies, stillValid, ids⟩
        refine ⟨final, after, ?_, grown.mono ?_, bodies, stillValid, ?_⟩
        · rw [addRules, there]
          exact ran
        · rintro request ⟨other, listed, rest⟩
          exact ⟨other, List.mem_cons_of_mem reference listed, rest⟩
        · intro other old rule was now given
          apply ids other old rule was now
          rcases given with listed | had
          · rcases List.mem_cons.mp listed with rfl | later
            · rw [there] at was
              cases was
            · exact .inl later
          · exact .inr had
      · rcases exec_addRule there (directed reference List.mem_cons_self) served group below valid
          with ⟨middleRules, middle, first, grown, bodies, middleValid, keptIds, own, ownThere, hasId⟩
        have servedMiddle : Served middle.answers := by
          rw [grown.changed.answers]
          exact served
        have directedRest : ∀ other ∈ rest, Directed middleRules other := fun other listed =>
          (directed other (List.mem_cons_of_mem reference listed)).of_bodies bodies
        rcases ih directedRest servedMiddle grown.changed.group grown.below middleValid with
          ⟨final, after, ran, further, bodiesToo, stillValid, ids⟩
        refine ⟨final, after, ?_, ?_, fun towards => (bodiesToo towards).trans (bodies towards),
          stillValid, ?_⟩
        · rw [addRules, there]
          dsimp only
          rw [exec_bind_of_ok first, ran]
        · apply Grown.trans
          · apply grown.mono
            rintro request ⟨other, listed, found⟩
            rw [List.mem_singleton.mp listed] at found
            exact ⟨reference, List.mem_cons_self, found⟩
          · apply further.mono
            intro request asked
            rcases asked.of_bodies bodies with ⟨other, listed, found⟩
            exact ⟨other, List.mem_cons_of_mem reference listed, found⟩
        · intro other old rule was now given
          rcases NewRules.get?_of_bodies bodies was with ⟨later, laterThere, _⟩
          apply ids other later rule laterThere now
          rcases given with listed | had
          · rcases List.mem_cons.mp listed with rfl | listedLater
            · rw [ownThere] at laterThere
              cases laterThere
              exact .inr hasId
            · exact .inl listedLater
          · exact .inr (keptIds other old later was laterThere had)

/-- Where the loop returns, it has met no list. -/
theorem asked_of_addRules {sgId : Nat} {references : List Reference} {rules final : NewRules}
    {site after : Site} (ran : exec (addRules sgId references rules) site = (.ok final, after)) :
    ∀ reference ∈ references, ∀ rule, rules.get? reference = some rule →
      ∃ request, RuleRequest.ofParsed rule.body = .ok request := by
  induction references generalizing rules site with
  | nil =>
      intro reference listed
      cases listed
  | cons first rest ih =>
      rcases firstThere : rules.get? first with _ | sgRule
      · rw [addRules, firstThere] at ran
        intro reference listed rule there
        rcases List.mem_cons.mp listed with rfl | later
        · rw [firstThere] at there
          cases there
        · exact ih ran reference later rule there
      · rw [addRules, firstThere] at ran
        rcases exec_bind_eq_ok ran with ⟨middle, middleSite, added, others⟩
        unfold addRule at added
        rcases made : RuleRequest.ofParsed sgRule.body with ex | request
        · rw [made] at added
          cases added
        · rw [made, settle_ok, exec_pure_bind] at added
          rcases exec_bind_eq_ok added with ⟨id, _, _, wrote⟩
          cases wrote
          have assigned : NewRules.Assigned sgRule.body id rules
              (rules.assign first (direction request) id) :=
            NewRules.assigned_assign firstThere _ id
          intro reference listed rule there
          rcases List.mem_cons.mp listed with rfl | later
          · rw [firstThere] at there
            cases there
            exact ⟨request, made⟩
          · rcases NewRules.get?_of_bodies assigned.bodies there with ⟨other, otherThere, body⟩
            rw [← body]
            exact ih others reference later other otherThere

end KuryrKubernetes.Policy.GroupUpdate
