import KuryrKubernetes.Policy.Allowed

/-!
# Rules that a pod adds

What the translation of a policy for a pod leaves in the custom resource, exactly.  A
named port without a selector of pods is first looked up: an entry with
`remote_ip_prefixes` is taken for it if its port is not lower.  An entry with prefixes is
made for every number that is found and taken for none, so that afterwards it is as if an
entry were there for each number found.
-/

namespace KuryrKubernetes.Policy

open KuryrKubernetes.Data
open KuryrKubernetes.Effect

/-! ## Entries -/

namespace ParseState

/-- There is an entry with the rule. -/
def Holds (state : ParseState) (rule : SgRule) : Prop :=
  ∃ entry ∈ state.crdRules, entry.rule = rule

/-- `_get_crd_rule` gives an entry for the port. -/
def Shadows (state : ParseState) (number : Nat) : Prop :=
  ∃ entry ∈ state.crdRules, ¬entry.remoteIpPrefixes.items.isEmpty ∧
    number ≤ entry.rule.portRangeMin ∧ number ≤ entry.rule.portRangeMax

/-- What gives an entry for a port gives one for lower ports. -/
theorem Shadows.anti {state : ParseState} {low high : Nat} (shadows : state.Shadows high)
    (below : low ≤ high) : state.Shadows low := by
  obtain ⟨entry, listed, prefixes, first, last⟩ := shadows
  exact ⟨entry, listed, prefixes, below.trans first, below.trans last⟩

end ParseState

/-- What is shadowed when numbers are as well, with what is below them. -/
def raised (shadows : Nat → Prop) (numbers : List Nat) (number : Nat) : Prop :=
  shadows number ∨ ∃ found ∈ numbers, number ≤ found

@[simp]
theorem raised_nil (shadows : Nat → Prop) : raised shadows [] = shadows := by
  funext number
  simp [raised]

theorem raised_append (shadows : Nat → Prop) (first second : List Nat) :
    raised shadows (first ++ second) = raised (raised shadows first) second := by
  funext number
  simp only [raised, List.mem_append, or_and_right, exists_or, or_assoc]

/-! ## Calls for named ports -/

namespace TextPort

variable (snapshot : Snapshot) (pod : Pod)

/-- Entries are looked up for the call. -/
def looksUp (call : TextPort) : Bool :=
  call.allowAll || call.namespaceName.isSome

/-- A call opens a rule for a number that it finds, unless an entry is taken for it. -/
def Opens (call : TextPort) (shadows : Nat → Prop) (rule : SgRule) : Prop :=
  ∃ number ∈ foundNumbers snapshot call [pod], ∃ cidr, call.Remote snapshot pod cidr ∧
    rule = call.rule number cidr ∧ (call.looksUp → ¬shadows number)

/-- Calls one after the other. -/
def OpenInTurn : List TextPort → (Nat → Prop) → SgRule → Prop
  | [], _, _ => False
  | call :: rest, shadows, rule =>
      call.Opens snapshot pod shadows rule ∨
        OpenInTurn rest (raised shadows (foundNumbers snapshot call [pod])) rule

variable {snapshot : Snapshot} {pod : Pod}

theorem openInTurn_append {first second : List TextPort} {shadows : Nat → Prop} {rule : SgRule} :
    OpenInTurn snapshot pod (first ++ second) shadows rule ↔
      OpenInTurn snapshot pod first shadows rule ∨
        OpenInTurn snapshot pod second
          (raised shadows (first.flatMap (foundNumbers snapshot · [pod]))) rule := by
  induction first generalizing shadows with
  | nil => simp [OpenInTurn]
  | cons call rest ih =>
      simp only [List.cons_append, OpenInTurn, ih, List.flatMap_cons, raised_append, or_assoc]

/-- A rule that is opened in turn is opened by one of the calls, after those before it. -/
theorem openInTurn_iff {calls : List TextPort} {shadows : Nat → Prop} {rule : SgRule} :
    OpenInTurn snapshot pod calls shadows rule ↔
      ∃ earlier call later, calls = earlier ++ call :: later ∧
        call.Opens snapshot pod
          (raised shadows (earlier.flatMap (foundNumbers snapshot · [pod]))) rule := by
  induction calls generalizing shadows with
  | nil => simp [OpenInTurn]
  | cons call rest ih =>
      rw [OpenInTurn, ih]
      constructor
      · rintro (opens | ⟨earlier, other, later, rfl, opens⟩)
        · exact ⟨[], call, rest, rfl, by simpa using opens⟩
        · refine ⟨call :: earlier, other, later, rfl, ?_⟩
          rw [List.flatMap_cons, raised_append]
          exact opens
      · rintro ⟨earlier, other, later, split, opens⟩
        cases earlier with
        | nil =>
            obtain ⟨rfl, rfl⟩ := List.cons.inj split
            exact .inl (by simpa using opens)
        | cons first earlier =>
            obtain ⟨rfl, rfl⟩ := List.cons.inj split
            rw [List.flatMap_cons, raised_append] at opens
            exact .inr ⟨earlier, other, later, rfl, opens⟩

end TextPort

/-! ## What a program leaves -/

/-- Between two states, some rules have been added and some calls carried out. -/
structure Follows (snapshot : Snapshot) (pod : Pod) (plain : SgRule → Prop)
    (calls : List TextPort) (before after : ParseState) : Prop where
  holds : ∀ rule, after.Holds rule ↔
    before.Holds rule ∨ plain rule ∨ TextPort.OpenInTurn snapshot pod calls before.Shadows rule
  shadows : after.Shadows =
    raised before.Shadows (calls.flatMap (foundNumbers snapshot · [pod]))

/-- A program gives a result and leaves rules and calls behind, if it returns. -/
def Adds {α : Type} (snapshot : Snapshot) (pod : Pod) (plain : SgRule → Prop)
    (calls : List TextPort) (program : PolicyM α) (result : α) : Prop :=
  ∀ before value after, exec program before = (.ok value, after) →
    value = result ∧ Follows snapshot pod plain calls before after

section

variable {snapshot : Snapshot} {pod : Pod} {plain also : SgRule → Prop}
  {calls more : List TextPort} {α β : Type} {result : α}

theorem Follows.refl (state : ParseState) :
    Follows snapshot pod (fun _ => False) [] state state where
  holds rule := by simp [TextPort.OpenInTurn]
  shadows := by simp

theorem Follows.trans {first second third : ParseState}
    (head : Follows snapshot pod plain calls first second)
    (tail : Follows snapshot pod also more second third) :
    Follows snapshot pod (fun rule => plain rule ∨ also rule) (calls ++ more) first third where
  holds rule := by
    rw [tail.holds, head.holds, TextPort.openInTurn_append, head.shadows]
    simp only [or_assoc]
    constructor <;> rintro (old | old | old | old | old) <;> simp [old]
  shadows := by
    rw [tail.shadows, head.shadows, List.flatMap_append, raised_append]

theorem adds_pure (value : α) :
    Adds snapshot pod (fun _ => False) [] (pure value : PolicyM α) value := by
  intro before result after ran
  cases ran
  exact ⟨rfl, Follows.refl before⟩

theorem Adds.bind {first : PolicyM α} {next : α → PolicyM β} {last : β}
    (head : Adds snapshot pod plain calls first result)
    (tail : Adds snapshot pod also more (next result) last) :
    Adds snapshot pod (fun rule => plain rule ∨ also rule) (calls ++ more) (first >>= next)
      last := by
  intro before value after ran
  obtain ⟨found, middle, ranFirst, ranNext⟩ := exec_bind_eq_ok ran
  obtain ⟨rfl, followsFirst⟩ := head before found middle ranFirst
  obtain ⟨rfl, followsNext⟩ := tail middle value after ranNext
  exact ⟨rfl, followsFirst.trans followsNext⟩

theorem Adds.congr {program : PolicyM α} (adds : Adds snapshot pod plain calls program result)
    (same : ∀ rule, plain rule ↔ also rule) : Adds snapshot pod also calls program result := by
  have equal : plain = also := funext fun rule => propext (same rule)
  exact equal ▸ adds

end

/-! ## One entry -/

/-- An entry has been added for a body. -/
structure Entered (body : RuleBody) (before after : ParseState) : Prop where
  holds : ∀ rule, after.Holds rule ↔ before.Holds rule ∨ rule = body.rule
  shadows : ∀ number, after.Shadows number ↔ before.Shadows number ∨
    ¬body.remoteIpPrefixes.items.isEmpty ∧ number ≤ body.rule.portRangeMin ∧
      number ≤ body.rule.portRangeMax

section

variable {snapshot : Snapshot} {before after : ParseState}

theorem createSecurityGroupRule_crdRules {rule : SgRule} {id : Nat}
    (ran : exec (createSecurityGroupRule snapshot rule) before = (.ok id, after)) :
    after.crdRules = before.crdRules := by
  rw [createSecurityGroupRule, exec_get_bind] at ran
  cases existing : existingId before.neutron rule with
  | some known =>
      rw [existing] at ran
      cases ran
      rfl
  | none =>
      rw [existing] at ran
      dsimp only at ran
      cases refused : snapshot.refuses rule with
      | some ex =>
          rw [refused] at ran
          cases ran
      | none =>
          rw [refused] at ran
          cases ran
          rfl

theorem createRule_returns {body : RuleBody} {entry : CrdRule}
    (ran : exec (createRule snapshot body) before = (.ok entry, after)) :
    entry.toRuleBody = body ∧ after.crdRules = before.crdRules := by
  obtain ⟨id, middle, created, returned⟩ := exec_bind_eq_ok ran
  cases returned
  exact ⟨rfl, createSecurityGroupRule_crdRules created⟩

/-- An entry that is appended, or is there already. -/
theorem entered_appendCrdRule (entry : CrdRule) (state : ParseState)
    (same : state.crdRules = before.crdRules) :
    Entered entry.toRuleBody before (exec (appendCrdRule entry) state).2 := by
  unfold appendCrdRule
  rw [exec_modify]
  dsimp only
  split
  · rename_i present
    obtain ⟨other, listed, equal⟩ := List.any_eq_true.mp present
    obtain ⟨_, sameRule, _, samePods⟩ := of_decide_eq_true equal
    rw [same] at listed
    constructor
    · intro rule
      rw [ParseState.Holds, same]
      constructor
      · exact .inl
      · rintro (old | rfl)
        · exact old
        · exact ⟨other, listed, sameRule⟩
    · intro number
      rw [ParseState.Shadows, same]
      constructor
      · exact .inl
      · rintro (old | ⟨pods, first, last⟩)
        · exact old
        · refine ⟨other, listed, ?_, sameRule ▸ first, sameRule ▸ last⟩
          intro empty
          apply pods
          rw [List.isEmpty_iff] at empty ⊢
          exact (empty ▸ samePods).nil_eq.symm
  · constructor
    · intro rule
      simp only [ParseState.Holds, same, List.mem_append, List.mem_singleton, or_and_right,
        exists_or, exists_eq_left]
      exact or_congr_right eq_comm
    · intro number
      simp only [ParseState.Shadows, same, List.mem_append, List.mem_singleton, or_and_right,
        exists_or, exists_eq_left]

theorem addRule_enters {body : RuleBody} {value : Unit}
    (ran : exec (addRule snapshot body) before = (.ok value, after)) :
    Entered body before after := by
  obtain ⟨entry, middle, created, appended⟩ := exec_bind_eq_ok ran
  obtain ⟨rfl, same⟩ := createRule_returns created
  have entered := entered_appendCrdRule entry middle same
  rw [appended] at entered
  exact entered

end

/-! ## Looking up -/

theorem extendCrdRule_eq_none_iff {number : Nat} {podIp podNamespace : String}
    {entries : List CrdRule} :
    extendCrdRule number podIp podNamespace entries = none ↔
      ∀ entry ∈ entries, ¬(¬entry.remoteIpPrefixes.items.isEmpty ∧
        number ≤ entry.rule.portRangeMin ∧ number ≤ entry.rule.portRangeMax) := by
  induction entries with
  | nil => simp [extendCrdRule]
  | cons entry rest ih =>
      rw [extendCrdRule, List.forall_mem_cons]
      split
      · rename_i taken
        constructor
        · intro impossible
          cases impossible
        · rintro ⟨passed, _⟩
          exact absurd taken passed
      · rename_i passed
        rw [Option.map_eq_none_iff, ih]
        exact (and_iff_right passed).symm

theorem not_isEmpty_set (dict : Dict String String) (key value : String) :
    ¬(dict.set key value).items.isEmpty := by
  intro empty
  have present : key ∈ dict.set key value := Dict.mem_set.mpr (.inl rfl)
  have none := get?_eq_none_of_isEmpty empty key
  exact Dict.not_mem_iff_get?_eq_none.mpr none present

/-- What is looked at of an entry stays the same when it is extended. -/
theorem extendCrdRule_view {number : Nat} {podIp podNamespace : String}
    {entries extended : List CrdRule}
    (found : extendCrdRule number podIp podNamespace entries = some extended) :
    extended.map (fun entry => (entry.rule, entry.remoteIpPrefixes.items.isEmpty)) =
      entries.map fun entry => (entry.rule, entry.remoteIpPrefixes.items.isEmpty) := by
  induction entries generalizing extended with
  | nil => cases found
  | cons entry rest ih =>
      rw [extendCrdRule] at found
      split at found
      · rename_i taken
        cases found
        have full := Bool.eq_false_iff.mpr (not_isEmpty_set entry.remoteIpPrefixes podIp podNamespace)
        simp only [List.map_cons, full, Bool.eq_false_iff.mpr taken.1]
      · obtain ⟨later, extends_, rfl⟩ := Option.map_eq_some_iff.mp found
        rw [List.map_cons, List.map_cons, ih extends_]

/-- Nothing has been added. -/
def Untouched (before after : ParseState) : Prop :=
  (∀ rule, after.Holds rule ↔ before.Holds rule) ∧ after.Shadows = before.Shadows

theorem untouched_of_view {before after : ParseState}
    (same : after.crdRules.map (fun entry => (entry.rule, entry.remoteIpPrefixes.items.isEmpty)) =
      before.crdRules.map fun entry => (entry.rule, entry.remoteIpPrefixes.items.isEmpty)) :
    Untouched before after := by
  have exists_iff (holds : SgRule × Bool → Prop) (state : ParseState) :
      (∃ entry ∈ state.crdRules, holds (entry.rule, entry.remoteIpPrefixes.items.isEmpty)) ↔
        ∃ view ∈ state.crdRules.map
          (fun entry => (entry.rule, entry.remoteIpPrefixes.items.isEmpty)), holds view := by
    simp
  constructor
  · intro rule
    have after_iff := exists_iff (fun view => view.1 = rule) after
    rw [same] at after_iff
    exact after_iff.trans (exists_iff (fun view => view.1 = rule) before).symm
  · funext number
    have after_iff := exists_iff (fun view => ¬view.2 ∧ number ≤ view.1.portRangeMin ∧
      number ≤ view.1.portRangeMax) after
    rw [same] at after_iff
    exact propext (after_iff.trans (exists_iff (fun view => ¬view.2 ∧
      number ≤ view.1.portRangeMin ∧ number ≤ view.1.portRangeMax) before).symm)

/-- What the loops over pods gather when they look up: the numbers that no entry is taken
for, each with its pods. -/
structure Gathered (before : ParseState) (known : MatchedPods) (numbers : List Nat)
    (matched : Bool) (result : Bool × MatchedPods) : Prop where
  matched : result.1 = (matched || !numbers.isEmpty)
  mem : ∀ number, number ∈ result.2 ↔
    number ∈ known ∨ number ∈ numbers ∧ ¬before.Shadows number
  full : (∀ number pods, known.get? number = some pods → ¬pods.items.isEmpty) →
    ∀ number pods, result.2.get? number = some pods → ¬pods.items.isEmpty

theorem gathered_nil (before : ParseState) (known : MatchedPods) (matched : Bool) :
    Gathered before known [] matched (matched, known) where
  matched := (Bool.or_false matched).symm
  mem number := by simp
  full := id

theorem Gathered.append {before : ParseState} {known middle : MatchedPods}
    {first second : List Nat} {matched halfway : Bool} {result : Bool × MatchedPods}
    (head : Gathered before known first matched (halfway, middle))
    (tail : Gathered before middle second halfway result) :
    Gathered before known (first ++ second) matched result where
  matched := by
    have halfwayMatched := head.matched
    dsimp only at halfwayMatched
    rw [tail.matched, halfwayMatched]
    cases first <;> simp
  mem number := by
    rw [tail.mem, head.mem, List.mem_append, or_assoc, or_and_right]
  full given := tail.full (head.full given)

/-- One number that is found: an entry is taken for it, or it is gathered. -/
theorem gathered_shadowed {before : ParseState} {number : Nat} (known : MatchedPods)
    (matched : Bool) (shadows : before.Shadows number) :
    Gathered before known [number] matched (true, known) where
  matched := by simp
  mem other := by
    simp only [List.mem_singleton]
    constructor
    · exact .inl
    · rintro (old | ⟨rfl, clear⟩)
      · exact old
      · exact absurd shadows clear
  full := id

theorem gathered_set {before : ParseState} {number : Nat} (known : MatchedPods)
    (matched : Bool) (clear : ¬before.Shadows number) (podIp podNamespace : String) :
    Gathered before known [number] matched
      (true, known.alter number ∅ (·.set podIp podNamespace)) where
  matched := by simp
  mem other := by
    simp only [Dict.alter, Dict.mem_set, List.mem_singleton]
    constructor
    · rintro (rfl | old)
      · exact .inr ⟨rfl, clear⟩
      · exact .inl old
    · rintro (old | ⟨same, _⟩)
      · exact .inr old
      · exact .inl same
  full given other pods found := by
    simp only [Dict.alter, Dict.get?_set] at found
    split at found
    · cases found
      exact not_isEmpty_set _ _ _
    · exact given other pods found

/-- The rule for a number is for that port only. -/
theorem TextPort.range_body (call : TextPort) {number : Nat} (positive : 0 < number)
    (cidr : Option String) (pods : Dict String String) :
    (call.body number cidr pods).rule.portRangeMin = number ∧
      (call.body number cidr pods).rule.portRangeMax = number := by
  cases number with
  | zero => exact absurd positive (Nat.lt_irrefl 0)
  | succ number => exact ⟨rfl, rfl⟩

/-- An entry with pods for a number raises what is shadowed to the number. -/
theorem Entered.shadows_number {call : TextPort} {number : Nat} {cidr : Option String}
    {pods : Dict String String} {before after : ParseState}
    (entered : Entered (call.body number cidr pods) before after) (positive : 0 < number)
    (full : ¬pods.items.isEmpty) : after.Shadows = raised before.Shadows [number] := by
  obtain ⟨first, last⟩ := call.range_body positive cidr pods
  funext other
  apply propext
  rw [entered.shadows, first, last]
  simp only [raised, List.mem_singleton, exists_eq_left]
  apply or_congr_right
  constructor
  · exact fun shadowed => shadowed.2.1
  · exact fun below => ⟨full, below, below⟩

section Loops

variable {snapshot : Snapshot} {call : TextPort} {ruleSelectedPod : Pod}

/-- With a lookup, a pod with an address is entered under a rule for its number, or else noted;
one without is passed over. -/
theorem createSgRulesWithContainerPorts_cons (lookup : call.looksUp = true) {pod : Pod}
    {containerPort : PortNumber} {rest : List (Pod × PortNumber)} {matched : Bool}
    {known : MatchedPods} {before after : ParseState} {result : Bool × MatchedPods}
    (ran : exec (createSgRulesWithContainerPorts snapshot call ruleSelectedPod
      ((pod, containerPort) :: rest) matched known) before = (.ok result, after)) :
    (pod.podIp = none ∧
      exec (createSgRulesWithContainerPorts snapshot call ruleSelectedPod rest matched known)
        before = (.ok result, after)) ∨
    ∃ podIp, pod.podIp = some podIp ∧
      ((extendCrdRule containerPort podIp pod.namespaceName before.crdRules = none ∧
        exec (createSgRulesWithContainerPorts snapshot call ruleSelectedPod rest true
          (known.alter containerPort ∅ (·.set podIp pod.namespaceName))) before =
          (.ok result, after)) ∨
      ∃ crdRules,
        extendCrdRule containerPort podIp pod.namespaceName before.crdRules = some crdRules ∧
        exec (createSgRulesWithContainerPorts snapshot call ruleSelectedPod rest true known)
          { before with crdRules } = (.ok result, after)) := by
  have asks : call.allowAll = true ∨ call.namespaceName.isSome = true := by
    simpa [TextPort.looksUp] using lookup
  rw [createSgRulesWithContainerPorts] at ran
  cases address : pod.podIp with
  | none =>
      rw [address] at ran
      exact .inl ⟨rfl, ran⟩
  | some podIp =>
      rw [address] at ran
      dsimp only at ran
      rw [if_pos asks, exec_get_bind] at ran
      refine .inr ⟨podIp, rfl, ?_⟩
      cases lookedUp : extendCrdRule containerPort podIp pod.namespaceName before.crdRules with
      | none =>
          rw [lookedUp] at ran
          exact .inl ⟨rfl, ran⟩
      | some crdRules =>
          rw [lookedUp] at ran
          dsimp only at ran
          rw [exec_set_bind] at ran
          exact .inr ⟨crdRules, rfl, ran⟩

/-- With a lookup, one turn of the loops over pods adds nothing and gathers. -/
theorem createSgRulesWithContainerPorts_gathers (lookup : call.looksUp = true)
    {ports : List (Pod × PortNumber)} {matched : Bool} {known : MatchedPods}
    {before after : ParseState} {result : Bool × MatchedPods}
    (ran : exec (createSgRulesWithContainerPorts snapshot call ruleSelectedPod ports matched known)
      before = (.ok result, after)) :
    Untouched before after ∧ Gathered before known (liveNumbers ports) matched result := by
  induction ports generalizing matched known before with
  | nil =>
      cases ran
      exact ⟨⟨fun _ => Iff.rfl, rfl⟩, gathered_nil _ known matched⟩
  | cons item rest ih =>
      obtain ⟨pod, containerPort⟩ := item
      rcases createSgRulesWithContainerPorts_cons lookup ran with
        ⟨address, ran⟩ | ⟨podIp, address, ⟨lookedUp, ran⟩ | ⟨crdRules, lookedUp, ran⟩⟩
      · rw [liveNumbers_cons_of_none address]
        exact ih ran
      · rw [liveNumbers_cons_of_some address]
        have clear : ¬before.Shadows containerPort := by
          rintro ⟨entry, listed, shadows⟩
          exact extendCrdRule_eq_none_iff.mp lookedUp entry listed shadows
        obtain ⟨untouched, gathered⟩ := ih ran
        exact ⟨untouched, (gathered_set known matched clear podIp _).append gathered⟩
      · rw [liveNumbers_cons_of_some address]
        have shadows : before.Shadows containerPort := by
          by_contra clear
          have passed : extendCrdRule containerPort podIp pod.namespaceName
              before.crdRules = none :=
            extendCrdRule_eq_none_iff.mpr fun entry listed taken =>
              clear ⟨entry, listed, taken⟩
          rw [passed] at lookedUp
          cases lookedUp
        have extended : Untouched before { before with crdRules } :=
          untouched_of_view (extendCrdRule_view lookedUp)
        obtain ⟨untouched, gathered⟩ := ih ran
        have same : Gathered before known (liveNumbers rest) true result := by
          constructor
          · exact gathered.matched
          · exact extended.2 ▸ gathered.mem
          · exact gathered.full
        constructor
        · constructor
          · intro rule
            rw [untouched.1, extended.1]
          · rw [untouched.2, extended.2]
        · exact (gathered_shadowed known matched shadows).append same

/-- Without a lookup, it adds a rule for every number that is found. -/
theorem createSgRulesWithContainerPorts_adds (direct : call.looksUp = false) {ruleIp : String}
    (selected : ruleSelectedPod.podIp = some ruleIp) {ports : List (Pod × PortNumber)}
    {matched : Bool} {known : MatchedPods} {before after : ParseState}
    {result : Bool × MatchedPods}
    (ran : exec (createSgRulesWithContainerPorts snapshot call ruleSelectedPod ports matched known)
      before = (.ok result, after)) :
    result = (matched || !(liveNumbers ports).isEmpty, known) ∧
      (∀ rule, after.Holds rule ↔ before.Holds rule ∨
        ∃ number ∈ liveNumbers ports, rule = call.rule number (some ruleIp)) ∧
      after.Shadows = raised before.Shadows (liveNumbers ports) := by
  have asks : ¬(call.allowAll = true ∨ call.namespaceName.isSome = true) := by
    simpa [TextPort.looksUp] using direct
  induction ports generalizing matched before with
  | nil =>
      cases ran
      simp [liveNumbers]
  | cons item rest ih =>
      obtain ⟨pod, containerPort⟩ := item
      rw [createSgRulesWithContainerPorts] at ran
      cases address : pod.podIp with
      | none =>
          rw [address] at ran
          rw [liveNumbers_cons_of_none address]
          exact ih ran
      | some podIp =>
          rw [address] at ran
          dsimp only at ran
          rw [if_neg asks, selected] at ran
          obtain ⟨_, middle, added, ranRest⟩ := exec_bind_eq_ok ran
          have entered := addRule_enters added
          obtain ⟨rfl, holds, shadows⟩ := ih ranRest
          rw [liveNumbers_cons_of_some address]
          refine ⟨by simp, ?_, ?_⟩
          · intro rule
            rw [holds, entered.holds, List.exists_mem_cons_iff, or_assoc]
            rfl
          · have raisedTo := entered.shadows_number containerPort.2.1 (not_isEmpty_set ∅ podIp _)
            rw [shadows, raisedTo, ← raised_append]
            rfl

/-- With a lookup, all turns together gather what they find. -/
theorem createSgRulesOnTurns_gathers (lookup : call.looksUp = true)
    {turns : List (List (Pod × PortNumber) × Pod)} {matched : Bool} {known : MatchedPods}
    {before after : ParseState} {result : Bool × MatchedPods}
    (ran : exec (createSgRulesOnTurns snapshot call turns matched known) before =
      (.ok result, after)) :
    Untouched before after ∧
      Gathered before known (turns.flatMap fun turn => liveNumbers turn.1) matched result := by
  induction turns generalizing matched known before with
  | nil =>
      cases ran
      exact ⟨⟨fun _ => Iff.rfl, rfl⟩, gathered_nil _ known matched⟩
  | cons turn rest ih =>
      obtain ⟨⟨halfway, grown⟩, middle, ranTurn, ranRest⟩ := exec_bind_eq_ok ran
      obtain ⟨untouched, head⟩ := createSgRulesWithContainerPorts_gathers lookup ranTurn
      obtain ⟨later, tail⟩ := ih ranRest
      have same : Gathered before grown (rest.flatMap fun turn => liveNumbers turn.1) halfway
          result := by
        constructor
        · exact tail.matched
        · exact untouched.2 ▸ tail.mem
        · exact tail.full
      constructor
      · constructor
        · intro rule
          rw [later.1, untouched.1]
        · rw [later.2, untouched.2]
      · exact head.append same

/-- Without a lookup, all turns for one pod add their rules. -/
theorem createSgRulesOnTurns_adds (direct : call.looksUp = false) {ruleIp : String}
    {turns : List (List (Pod × PortNumber) × Pod)}
    (selected : ∀ turn ∈ turns, turn.2.podIp = some ruleIp) {matched : Bool}
    {known : MatchedPods} {before after : ParseState} {result : Bool × MatchedPods}
    (ran : exec (createSgRulesOnTurns snapshot call turns matched known) before =
      (.ok result, after)) :
    result = (matched || !(turns.flatMap fun turn => liveNumbers turn.1).isEmpty, known) ∧
      (∀ rule, after.Holds rule ↔ before.Holds rule ∨
        ∃ number ∈ turns.flatMap (fun turn => liveNumbers turn.1),
          rule = call.rule number (some ruleIp)) ∧
      after.Shadows =
        raised before.Shadows (turns.flatMap fun turn => liveNumbers turn.1) := by
  induction turns generalizing matched before with
  | nil =>
      cases ran
      simp
  | cons turn rest ih =>
      obtain ⟨⟨halfway, grown⟩, middle, ranTurn, ranRest⟩ := exec_bind_eq_ok ran
      obtain ⟨turned, holdsTurn, shadowsTurn⟩ := createSgRulesWithContainerPorts_adds direct
        (selected turn List.mem_cons_self) ranTurn
      obtain ⟨rfl, rfl⟩ := Prod.mk.inj turned
      obtain ⟨rfl, holdsRest, shadowsRest⟩ :=
        ih (fun other listed => selected other (List.mem_cons_of_mem turn listed)) ranRest
      refine ⟨?_, ?_, ?_⟩
      · cases found : liveNumbers turn.1 <;> simp [found]
      · intro rule
        rw [holdsRest, holdsTurn]
        simp only [List.flatMap_cons, List.mem_append, or_and_right, exists_or, or_assoc]
      · rw [shadowsRest, shadowsTurn, List.flatMap_cons, raised_append]

/-! ## Numbers that are gathered -/

/-- The namespace that a call is for exists. -/
def TextPort.Placed (call : TextPort) (snapshot : Snapshot) : Prop :=
  call.allowAll = true ∨ ∃ name namespaceObj, call.namespaceName = some name ∧
    snapshot.getNamespace name = some namespaceObj

/-- A number that has been gathered gets its rule. -/
theorem createSgRuleOnMatchedPods_enters (ruleSelectedPod : Pod) (placed : call.Placed snapshot) {number : Nat}
    {pods : Dict String String} {value : Unit} {before after : ParseState}
    (ran : exec (createSgRuleOnMatchedPods snapshot call number pods) before =
      (.ok value, after)) :
    ∃ cidr, (∀ other, call.Remote snapshot ruleSelectedPod other ↔ other = cidr) ∧
      Entered (call.body number cidr pods) before after := by
  unfold createSgRuleOnMatchedPods at ran
  by_cases everyone : call.allowAll = true
  · rw [if_pos everyone] at ran
    use none
    constructor
    · intro other
      rw [TextPort.Remote, if_pos everyone]
    · exact addRule_enters ran
  · obtain ⟨name, namespaceObj, named, known⟩ := placed.resolve_left everyone
    rw [if_neg everyone, named, Option.bind_some, known] at ran
    dsimp only at ran
    obtain ⟨cidr, middle, read, added⟩ := exec_bind_eq_ok ran
    cases subnet : namespaceObj.subnetCidr with
    | none =>
        rw [getNamespaceSubnetCidr, subnet] at read
        cases read
    | some found =>
        rw [getNamespaceSubnetCidr, subnet] at read
        cases read
        use some cidr
        constructor
        · intro other
          rw [TextPort.Remote, if_neg everyone, named]
          simp [known, subnet]
        · exact addRule_enters added

/-- All numbers that have been gathered get their rules. -/
theorem forM_matchedPods_adds (ruleSelectedPod : Pod) (placed : call.Placed snapshot)
    {items : List (Nat × Dict String String)}
    (positive : ∀ item ∈ items, 0 < item.1) (full : ∀ item ∈ items, ¬item.2.items.isEmpty)
    {value : Unit} {before after : ParseState}
    (ran : exec (items.forM fun item => createSgRuleOnMatchedPods snapshot call item.1 item.2)
      before = (.ok value, after)) :
    (∀ rule, after.Holds rule ↔ before.Holds rule ∨ ∃ number ∈ items.map Prod.fst,
      ∃ cidr, call.Remote snapshot ruleSelectedPod cidr ∧ rule = call.rule number cidr) ∧
    after.Shadows = raised before.Shadows (items.map Prod.fst) := by
  induction items generalizing before with
  | nil =>
      cases ran
      simp
  | cons item rest ih =>
      rw [forM_cons_eq] at ran
      obtain ⟨_, middle, ranItem, ranRest⟩ := exec_bind_eq_ok ran
      obtain ⟨cidr, remote, entered⟩ :=
        createSgRuleOnMatchedPods_enters ruleSelectedPod placed ranItem
      obtain ⟨holds, shadows⟩ :=
        ih (fun other listed => positive other (List.mem_cons_of_mem item listed))
          (fun other listed => full other (List.mem_cons_of_mem item listed)) ranRest
      have raisedTo := entered.shadows_number (positive item List.mem_cons_self)
        (full item List.mem_cons_self)
      constructor
      · intro rule
        rw [holds, entered.holds, List.map_cons, List.exists_mem_cons_iff, or_assoc]
        simp only [remote, exists_eq_left]
        rfl
      · rw [shadows, raisedTo, List.map_cons, ← raised_append]
        rfl

end Loops

/-! ## One call -/

section Call

variable {snapshot : Snapshot} {call : TextPort} {pod : Pod} {podIp : String}

theorem positive_of_mem_foundNumbers {number : Nat}
    (found : number ∈ foundNumbers snapshot call [pod]) : 0 < number := by
  obtain ⟨turn, _, live⟩ := List.mem_flatMap.mp found
  obtain ⟨_, containerPort, _, _, rfl⟩ := mem_liveNumbers.mp live
  exact containerPort.2.1

/-- The numbers that were gathered raise what is shadowed as much as all that were
found: those that were not are shadowed already. -/
theorem raised_gathered {before : ParseState} {numbers gathered : List Nat}
    (mem : ∀ number, number ∈ gathered ↔ number ∈ numbers ∧ ¬before.Shadows number) :
    raised before.Shadows gathered = raised before.Shadows numbers := by
  funext number
  apply propext
  constructor
  · rintro (shadowed | ⟨found, member, below⟩)
    · exact .inl shadowed
    · exact .inr ⟨found, ((mem found).mp member).1, below⟩
  · rintro (shadowed | ⟨found, member, below⟩)
    · exact .inl shadowed
    · by_cases taken : before.Shadows found
      · exact .inl (taken.anti below)
      · exact .inr ⟨found, (mem found).mpr ⟨member, taken⟩, below⟩

/-- A call for one pod with an address does what it opens. -/
theorem createSgRuleOnTextPort_adds (address : pod.podIp = some podIp)
    (placed : call.looksUp = true → call.Placed snapshot) (matched : Bool) :
    Adds snapshot pod (fun _ => False) [call] (createSgRuleOnTextPort snapshot call [pod] matched)
      (matched || !(foundNumbers snapshot call [pod]).isEmpty) := by
  intro before value after ran
  obtain ⟨⟨found, gathered⟩, middle, ranTurns, ranRest⟩ := exec_bind_eq_ok ran
  obtain ⟨_, final, ranItems, returned⟩ := exec_bind_eq_ok ranRest
  cases returned
  cases lookup : call.looksUp with
  | true =>
      obtain ⟨untouched, collected⟩ := createSgRulesOnTurns_gathers lookup ranTurns
      have mem : ∀ number, number ∈ gathered.items.map Prod.fst ↔
          number ∈ foundNumbers snapshot call [pod] ∧ ¬before.Shadows number := by
        intro number
        have listed := collected.mem number
        simp only [Dict.not_mem_empty, false_or] at listed
        exact Dict.mem_keys_iff.trans listed
      have full : ∀ item ∈ gathered.items, ¬item.2.items.isEmpty := by
        rintro ⟨number, pods⟩ listed
        apply collected.full _ number pods (Dict.mem_items_iff.mp listed)
        intro other unknown impossible
        rw [Dict.get?_empty] at impossible
        cases impossible
      have positive : ∀ item ∈ gathered.items, 0 < item.1 := by
        intro item listed
        have member := (mem item.1).mp (List.mem_map_of_mem listed)
        exact positive_of_mem_foundNumbers member.1
      obtain ⟨holds, shadows⟩ := forM_matchedPods_adds pod (placed lookup)
        positive full ranItems
      constructor
      · exact collected.matched
      · constructor
        · intro rule
          rw [holds, untouched.1]
          simp only [TextPort.OpenInTurn, TextPort.Opens, lookup, forall_const, or_false, false_or]
          apply or_congr_right
          constructor
          · rintro ⟨number, listed, cidr, remote, rfl⟩
            obtain ⟨member, clear⟩ := (mem number).mp listed
            exact ⟨number, member, cidr, remote, rfl, clear⟩
          · rintro ⟨number, member, cidr, remote, rfl, clear⟩
            exact ⟨number, (mem number).mpr ⟨member, clear⟩, cidr, remote, rfl⟩
        · rw [shadows, untouched.2, raised_gathered mem, List.flatMap_singleton]
  | false =>
      have selected : ∀ turn ∈ textPortTurns snapshot call [pod], turn.2.podIp = some podIp := by
        intro turn taken
        rw [List.mem_singleton.mp (mem_of_turn taken)]
        exact address
      obtain ⟨result, holds, shadows⟩ := createSgRulesOnTurns_adds lookup selected ranTurns
      obtain ⟨rfl, rfl⟩ := Prod.mk.inj result
      cases ranItems
      constructor
      · rfl
      · constructor
        · intro rule
          rw [holds]
          have remote : ∀ cidr, call.Remote snapshot pod cidr ↔ cidr = some podIp := by
            intro cidr
            simp only [TextPort.looksUp, Bool.or_eq_false_iff, Option.isSome_eq_false_iff,
              Option.isNone_iff_eq_none] at lookup
            simp [TextPort.Remote, lookup.1, lookup.2, address]
          simp only [TextPort.OpenInTurn, TextPort.Opens, lookup, remote, exists_eq_left,
            Bool.false_eq_true, false_implies, and_true, or_false, false_or]
          rfl
        · rw [shadows, List.flatMap_singleton]
          rfl

end Call

end KuryrKubernetes.Policy
