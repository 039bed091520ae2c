import KuryrKubernetes.Policy.Lookups

/-!
# Pods behind named ports

Under which ports the addresses of pods end up when a named port is opened for everyone or
for a namespace.  The loops over pods enter an address under the first entry that the
search gives, and gather it when there is none; the numbers that are gathered get an entry
of their own afterwards.  The search asks for an entry that does not start below the port,
so that it gives entries for higher ports, and passes over those that start below and
reach the port.
-/

namespace KuryrKubernetes.Policy

open KuryrKubernetes.Data
open KuryrKubernetes.Effect

/-! ## The search -/

/-- The entry keeps addresses of pods. -/
def CrdRule.KeepsPods (entry : CrdRule) : Prop :=
  ¬entry.remoteIpPrefixes.items.isEmpty

instance (entry : CrdRule) : Decidable entry.KeepsPods :=
  inferInstanceAs (Decidable (¬_))

/-- The port is in the range of the rule. -/
def SgRule.Spans (rule : SgRule) (number : Nat) : Prop :=
  rule.portRangeMin ≤ number ∧ number ≤ rule.portRangeMax

/-- The test of `_get_crd_rule`. -/
def CrdRule.passes (containerPort : Nat) (entry : CrdRule) : Bool :=
  entry.KeepsPods ∧
    entry.rule.portRangeMin ≥ containerPort ∧ containerPort ≤ entry.rule.portRangeMax

/-- `_get_crd_rule`. -/
def getCrdRule (crdRules : List CrdRule) (containerPort : Nat) : Option CrdRule :=
  crdRules.find? (CrdRule.passes containerPort)

/-- The entries with pods tell the port: the first of them that the search does not pass
over starts at it, or all of them end below it. -/
def Tells (crdRules : List CrdRule) (number : Nat) : Prop :=
  (∃ earlier entry later, crdRules = earlier ++ entry :: later ∧ entry.KeepsPods ∧
    entry.rule.portRangeMin = number ∧ number ≤ entry.rule.portRangeMax ∧
    ∀ other ∈ earlier, other.KeepsPods →
      other.rule.portRangeMin < number ∨ other.rule.portRangeMax < number) ∨
  ∀ entry ∈ crdRules, entry.KeepsPods → entry.rule.portRangeMax < number

section Search

variable {crdRules : List CrdRule} {number : Nat}

theorem CrdRule.passes_iff {entry : CrdRule} :
    entry.passes number = true ↔
      entry.KeepsPods ∧ number ≤ entry.rule.portRangeMin ∧ number ≤ entry.rule.portRangeMax := by
  simp [CrdRule.passes]

theorem CrdRule.not_passes_iff {entry : CrdRule} :
    ¬entry.passes number = true ↔
      (entry.KeepsPods →
        entry.rule.portRangeMin < number ∨ entry.rule.portRangeMax < number) := by
  rw [CrdRule.passes_iff, not_and, not_and_or, not_le, not_le]

theorem getCrdRule_eq_none_iff :
    getCrdRule crdRules number = none ↔
      ∀ entry ∈ crdRules, entry.KeepsPods →
        entry.rule.portRangeMin < number ∨ entry.rule.portRangeMax < number := by
  simp only [getCrdRule, List.find?_eq_none, CrdRule.not_passes_iff]

theorem getCrdRule_eq_some_iff {entry : CrdRule} :
    getCrdRule crdRules number = some entry ↔
      entry.passes number = true ∧ ∃ earlier later, crdRules = earlier ++ entry :: later ∧
        ∀ other ∈ earlier, other.KeepsPods →
          other.rule.portRangeMin < number ∨ other.rule.portRangeMax < number := by
  rw [getCrdRule, List.find?_eq_some_iff_append]
  simp only [Bool.not_eq_true', ← Bool.not_eq_true, CrdRule.not_passes_iff]

theorem mem_of_getCrdRule {entry : CrdRule} (found : getCrdRule crdRules number = some entry) :
    entry ∈ crdRules :=
  List.mem_of_find?_eq_some found

/-- The search gives an entry with the port in its range whenever there is one, and no
other, exactly when the entries tell the port. -/
theorem getCrdRule_right_iff :
    (((getCrdRule crdRules number).isSome ↔
        ∃ entry ∈ crdRules, entry.KeepsPods ∧ entry.rule.Spans number) ∧
      ∀ entry, getCrdRule crdRules number = some entry → entry.rule.Spans number) ↔
    Tells crdRules number := by
  constructor
  · rintro ⟨given, right⟩
    cases found : getCrdRule crdRules number with
    | some entry =>
        left
        obtain ⟨passes, earlier, later, split, passed⟩ := getCrdRule_eq_some_iff.mp found
        obtain ⟨keeps, first, last⟩ := CrdRule.passes_iff.mp passes
        have starts := (right entry found).1
        exact ⟨earlier, entry, later, split, keeps, le_antisymm starts first, last, passed⟩
    | none =>
        right
        intro entry listed keeps
        have passed := getCrdRule_eq_none_iff.mp found entry listed keeps
        by_contra reaches
        have starts := passed.resolve_right reaches
        have wanted := given.mpr ⟨entry, listed, keeps, starts.le, Nat.le_of_not_lt reaches⟩
        rw [found] at wanted
        cases wanted
  · rintro (⟨earlier, entry, later, split, keeps, starts, last, passed⟩ | below)
    · have found : getCrdRule crdRules number = some entry :=
        getCrdRule_eq_some_iff.mpr
          ⟨CrdRule.passes_iff.mpr ⟨keeps, starts.ge, last⟩, earlier, later, split, passed⟩
      rw [found]
      constructor
      · have listed := mem_of_getCrdRule found
        exact iff_of_true rfl ⟨entry, listed, keeps, starts.le, last⟩
      · intro other same
        cases same
        exact ⟨starts.le, last⟩
    · have missed : getCrdRule crdRules number = none :=
        getCrdRule_eq_none_iff.mpr fun entry listed keeps => .inr (below entry listed keeps)
      rw [missed]
      constructor
      · constructor
        · intro impossible
          cases impossible
        · rintro ⟨entry, listed, keeps, spans⟩
          exact absurd spans.2 (Nat.not_le_of_lt (below entry listed keeps))
      · intro entry impossible
        cases impossible

theorem Tells.below_of_none (tells : Tells crdRules number)
    (missed : getCrdRule crdRules number = none) :
    ∀ entry ∈ crdRules, entry.KeepsPods → entry.rule.portRangeMax < number := by
  rcases tells with ⟨earlier, entry, later, rfl, keeps, starts, last, _⟩ | below
  · have listed : entry ∈ earlier ++ entry :: later :=
      List.mem_append_right earlier List.mem_cons_self
    rcases getCrdRule_eq_none_iff.mp missed entry listed keeps with lower | lower
    · exact absurd starts lower.ne
    · exact absurd last (Nat.not_le_of_lt lower)
  · exact below

/-- The entry that is extended is the one that the search gives. -/
theorem extendCrdRule_eq_some {podIp podNamespace : String} {extended : List CrdRule}
    (found : extendCrdRule number podIp podNamespace crdRules = some extended) :
    ∃ earlier entry later, crdRules = earlier ++ entry :: later ∧
      getCrdRule crdRules number = some entry ∧
      extended = earlier ++
        { entry with remoteIpPrefixes := entry.remoteIpPrefixes.set podIp podNamespace } ::
          later := by
  induction crdRules generalizing extended with
  | nil => cases found
  | cons entry rest ih =>
      rw [extendCrdRule] at found
      split at found
      · rename_i taken
        cases found
        have passes : entry.passes number = true := CrdRule.passes_iff.mpr taken
        exact ⟨[], entry, rest, rfl, List.find?_cons_of_pos passes, rfl⟩
      · rename_i passed
        obtain ⟨later, extends_, rfl⟩ := Option.map_eq_some_iff.mp found
        obtain ⟨earlier, other, behind, rfl, given, rfl⟩ := ih extends_
        have passes : ¬entry.passes number = true := mt CrdRule.passes_iff.mp passed
        refine ⟨entry :: earlier, other, behind, rfl, ?_, rfl⟩
        exact (List.find?_cons_of_neg passes).trans given

theorem getCrdRule_eq_none_of_extendCrdRule {podIp podNamespace : String}
    (missed : extendCrdRule number podIp podNamespace crdRules = none) :
    getCrdRule crdRules number = none := by
  apply List.find?_eq_none.mpr
  intro entry listed
  rw [CrdRule.passes_iff]
  exact extendCrdRule_eq_none_iff.mp missed entry listed

end Search

/-! ## Addresses under rules -/

namespace ParseState

/-- The address is entered under the rule. -/
def Lists (state : ParseState) (rule : SgRule) (podIp : String) : Prop :=
  ∃ entry ∈ state.crdRules, entry.rule = rule ∧ podIp ∈ entry.remoteIpPrefixes

/-- The search gives an entry with the rule. -/
def Takes (state : ParseState) (number : Nat) (rule : SgRule) : Prop :=
  ∃ entry, getCrdRule state.crdRules number = some entry ∧ entry.rule = rule

/-- The search gives no entry. -/
def Misses (state : ParseState) (number : Nat) : Prop :=
  getCrdRule state.crdRules number = none

/-- The search reads the same of two states. -/
def SameView (before after : ParseState) : Prop :=
  after.crdRules.map (fun entry => (entry.rule, entry.remoteIpPrefixes.items.isEmpty)) =
    before.crdRules.map fun entry => (entry.rule, entry.remoteIpPrefixes.items.isEmpty)

variable {before after : ParseState}

/-- The rule that the search gives, from what it reads. -/
theorem map_rule_getCrdRule (crdRules : List CrdRule) (number : Nat) :
    (getCrdRule crdRules number).map (·.rule) =
      ((crdRules.map fun entry => (entry.rule, entry.remoteIpPrefixes.items.isEmpty)).find?
        fun view => decide (¬view.2 ∧ view.1.portRangeMin ≥ number ∧
          number ≤ view.1.portRangeMax)).map Prod.fst := by
  rw [List.find?_map, Option.map_map]
  rfl

theorem SameView.takes (same : SameView before after) (number : Nat) (rule : SgRule) :
    after.Takes number rule ↔ before.Takes number rule := by
  unfold Takes
  rw [← Option.map_eq_some_iff (f := fun entry : CrdRule => entry.rule),
    ← Option.map_eq_some_iff (f := fun entry : CrdRule => entry.rule),
    map_rule_getCrdRule, map_rule_getCrdRule, same]

theorem SameView.misses (same : SameView before after) (number : Nat) :
    after.Misses number ↔ before.Misses number := by
  unfold Misses
  rw [← Option.map_eq_none_iff (f := fun entry : CrdRule => entry.rule),
    ← Option.map_eq_none_iff (f := fun entry : CrdRule => entry.rule),
    map_rule_getCrdRule, map_rule_getCrdRule, same]

theorem keepsPods_of_mem {entry : CrdRule} {podIp : String}
    (entered : podIp ∈ entry.remoteIpPrefixes) : entry.KeepsPods := by
  intro empty
  have absent := get?_eq_none_of_isEmpty empty podIp
  exact Dict.not_mem_iff_get?_eq_none.mpr absent entered

end ParseState

/-- The address is gathered for the number. -/
def MatchedPods.Has (matchedPods : MatchedPods) (number : Nat) (podIp : String) : Prop :=
  podIp ∈ matchedPods.getD number ∅

theorem MatchedPods.has_alter (matchedPods : MatchedPods) (number other : Nat)
    (podIp otherIp podNamespace : String) :
    MatchedPods.Has (matchedPods.alter number ∅ (·.set podIp podNamespace)) other otherIp ↔
      matchedPods.Has other otherIp ∨ otherIp = podIp ∧ other = number := by
  unfold MatchedPods.Has Dict.alter
  by_cases same : other = number
  · subst same
    rw [Dict.getD_of_get?_eq_some _ (Dict.get?_set_self _ _ _), Dict.mem_set]
    simp only [and_true]
    exact or_comm
  · have elsewhere : (matchedPods.set number
        ((matchedPods.getD number ∅).set podIp podNamespace)).getD other ∅ =
          matchedPods.getD other ∅ := by
      rw [Dict.getD, Dict.get?_set_of_ne _ _ same]
      rfl
    rw [elsewhere]
    simp [same]

/-! ## The loops over pods -/

/-- A pod of the list has the address and the port. -/
def ExposedIn (ports : List (Pod × PortNumber)) (podIp : String) (number : Nat) : Prop :=
  ∃ item ∈ ports, item.1.podIp = some podIp ∧ item.2.val = number

/-- Addresses with numbers have been entered where the search gives an entry for the
number, and gathered where it does not. -/
structure Swept (exposed : String → Nat → Prop) (before after : ParseState)
    (known gathered : MatchedPods) : Prop where
  view : before.SameView after
  lists : ∀ rule podIp, after.Lists rule podIp ↔ before.Lists rule podIp ∨
    ∃ number, exposed podIp number ∧ before.Takes number rule
  gathers : ∀ number podIp, gathered.Has number podIp ↔ known.Has number podIp ∨
    exposed podIp number ∧ before.Misses number

namespace Swept

variable {exposed also : String → Nat → Prop} {before middle after : ParseState}
  {known halfway gathered : MatchedPods}

theorem refl (state : ParseState) (known : MatchedPods) :
    Swept (fun _ _ => False) state state known known where
  view := rfl
  lists rule podIp := by simp
  gathers number podIp := by simp

theorem append (head : Swept exposed before middle known halfway)
    (tail : Swept also middle after halfway gathered) :
    Swept (fun podIp number => exposed podIp number ∨ also podIp number) before after known
      gathered where
  view := tail.view.trans head.view
  lists rule podIp := by
    rw [tail.lists, head.lists, or_assoc]
    simp only [head.view.takes, or_and_right, exists_or]
  gathers number podIp := by
    rw [tail.gathers, head.gathers, head.view.misses, or_assoc, or_and_right]

theorem congr (swept : Swept exposed before after known gathered)
    (same : ∀ podIp number, exposed podIp number ↔ also podIp number) :
    Swept also before after known gathered := by
  have equal : exposed = also := funext fun podIp => funext fun number =>
    propext (same podIp number)
  exact equal ▸ swept

/-- One address is entered under the entry that the search gives. -/
theorem extended {number : Nat} {podIp podNamespace : String} {crdRules : List CrdRule}
    (found : extendCrdRule number podIp podNamespace before.crdRules = some crdRules)
    (known : MatchedPods) :
    Swept (fun other asked => other = podIp ∧ asked = number) before { before with crdRules }
      known known where
  view := extendCrdRule_view found
  lists rule other := by
    obtain ⟨earlier, entry, later, split, given, rfl⟩ := extendCrdRule_eq_some found
    have taken : (∃ asked, (other = podIp ∧ asked = number) ∧ before.Takes asked rule) ↔
        other = podIp ∧ entry.rule = rule := by
      simp [ParseState.Takes, given]
    rw [taken]
    simp only [ParseState.Lists, split, List.mem_append, List.mem_cons, or_and_right, exists_or,
      exists_eq_left, Dict.mem_set]
    constructor
    · rintro (old | ⟨same, rfl | old⟩ | old)
      · exact .inl (.inl old)
      · exact .inr ⟨rfl, same⟩
      · exact .inl (.inr (.inl ⟨same, old⟩))
      · exact .inl (.inr (.inr old))
    · rintro ((old | ⟨same, old⟩ | old) | ⟨rfl, same⟩)
      · exact .inl old
      · exact .inr (.inl ⟨same, .inr old⟩)
      · exact .inr (.inr old)
      · exact .inr (.inl ⟨same, .inl rfl⟩)
  gathers asked other := by
    obtain ⟨earlier, entry, later, split, given, rfl⟩ := extendCrdRule_eq_some found
    constructor
    · exact .inl
    · rintro (old | ⟨⟨_, rfl⟩, misses⟩)
      · exact old
      · have impossible := given.symm.trans misses
        cases impossible

/-- One address is gathered. -/
theorem noted {number : Nat} (misses : before.Misses number) (known : MatchedPods)
    (podIp podNamespace : String) :
    Swept (fun other asked => other = podIp ∧ asked = number) before before known
      (known.alter number ∅ (·.set podIp podNamespace)) where
  view := rfl
  lists rule other := by
    constructor
    · exact .inl
    · rintro (old | ⟨asked, ⟨_, rfl⟩, entry, given, _⟩)
      · exact old
      · have impossible := given.symm.trans misses
        cases impossible
  gathers asked other := by
    rw [MatchedPods.has_alter]
    constructor
    · rintro (old | ⟨rfl, rfl⟩)
      · exact .inl old
      · exact .inr ⟨⟨rfl, rfl⟩, misses⟩
    · rintro (old | ⟨exposed, _⟩)
      · exact .inl old
      · exact .inr exposed

end Swept

section Loops

variable {snapshot : Snapshot} {call : TextPort}

/-- One turn of the loops over pods. -/
theorem createSgRulesWithContainerPorts_sweeps (lookup : call.looksUp = true)
    {ruleSelectedPod : Pod} {ports : List (Pod × PortNumber)} {matched : Bool}
    {known : MatchedPods} {before after : ParseState} {result : Bool × MatchedPods}
    (ran : exec (createSgRulesWithContainerPorts snapshot call ruleSelectedPod ports matched known)
      before = (.ok result, after)) :
    Swept (ExposedIn ports) before after known result.2 := by
  induction ports generalizing matched known before with
  | nil =>
      cases ran
      exact (Swept.refl _ known).congr fun podIp number => by simp [ExposedIn]
  | cons item rest ih =>
      obtain ⟨pod, containerPort⟩ := item
      have first (podIp : String) (address : pod.podIp = some podIp) : ∀ other number,
          (other = podIp ∧ number = containerPort.val) ∨ ExposedIn rest other number ↔
            ExposedIn ((pod, containerPort) :: rest) other number := by
        intro other number
        simp only [ExposedIn, List.exists_mem_cons_iff, address, Option.some.injEq]
        exact or_congr_left (and_congr eq_comm eq_comm)
      rcases createSgRulesWithContainerPorts_cons lookup ran with
        ⟨address, ran⟩ | ⟨podIp, address, ⟨lookedUp, ran⟩ | ⟨crdRules, lookedUp, ran⟩⟩
      · exact (ih ran).congr fun podIp number => by simp [ExposedIn, address]
      · have misses : before.Misses containerPort.val :=
          getCrdRule_eq_none_of_extendCrdRule lookedUp
        exact ((Swept.noted misses known podIp _).append (ih ran)).congr (first podIp address)
      · exact ((Swept.extended lookedUp known).append (ih ran)).congr (first podIp address)

/-- All turns of the loops over pods. -/
theorem createSgRulesOnTurns_sweeps (lookup : call.looksUp = true)
    {turns : List (List (Pod × PortNumber) × Pod)} {matched : Bool} {known : MatchedPods}
    {before after : ParseState} {result : Bool × MatchedPods}
    (ran : exec (createSgRulesOnTurns snapshot call turns matched known) before =
      (.ok result, after)) :
    Swept (fun podIp number => ∃ turn ∈ turns, ExposedIn turn.1 podIp number) before after known
      result.2 := by
  induction turns generalizing matched known before with
  | nil =>
      cases ran
      exact (Swept.refl _ known).congr fun podIp number => by simp
  | cons turn rest ih =>
      obtain ⟨⟨halfway, grown⟩, middle, ranTurn, ranRest⟩ := exec_bind_eq_ok ran
      have head := createSgRulesWithContainerPorts_sweeps lookup ranTurn
      exact (head.append (ih ranRest)).congr fun podIp number => by
        simp only [List.exists_mem_cons_iff]

end Loops

/-! ## Numbers that are gathered -/

/-- The rule is for the port only. -/
def SgRule.IsFor (rule : SgRule) (number : Nat) : Prop :=
  rule.portRangeMin = number ∧ rule.portRangeMax = number

/-- The addresses of each item have been entered under a rule for its number, and no
others. -/
structure Opened (items : List (Nat × Dict String String)) (before after : ParseState) :
    Prop where
  kept : ∀ rule podIp, before.Lists rule podIp → after.Lists rule podIp
  opened : ∀ item ∈ items, ∀ podIp ∈ item.2, ∃ rule : SgRule, rule.IsFor item.1 ∧
    after.Lists rule podIp
  only : ∀ rule podIp, after.Lists rule podIp → before.Lists rule podIp ∨
    ∃ item ∈ items, podIp ∈ item.2 ∧ rule.IsFor item.1

section Gathered

variable {snapshot : Snapshot} {call : TextPort} {before after : ParseState}

theorem Opened.cons {item : Nat × Dict String String} {rest : List (Nat × Dict String String)}
    {middle : ParseState} (head : Opened [item] before middle) (tail : Opened rest middle after) :
    Opened (item :: rest) before after where
  kept rule podIp listed := tail.kept rule podIp (head.kept rule podIp listed)
  opened other among podIp entered := by
    rcases List.mem_cons.mp among with rfl | later
    · obtain ⟨rule, isFor, listed⟩ := head.opened other List.mem_cons_self podIp entered
      exact ⟨rule, isFor, tail.kept rule podIp listed⟩
    · exact tail.opened other later podIp entered
  only rule podIp listed := by
    rcases tail.only rule podIp listed with listed | ⟨other, later, entered, isFor⟩
    · rcases head.only rule podIp listed with old | ⟨other, first, entered, isFor⟩
      · exact .inl old
      · rw [List.mem_singleton.mp first] at entered isFor
        exact .inr ⟨item, List.mem_cons_self, entered, isFor⟩
    · exact .inr ⟨other, List.mem_cons_of_mem item later, entered, isFor⟩

/-- What an entry lists is listed after it has been appended, or was found to be there. -/
theorem lists_appendCrdRule (entry : CrdRule) (state : ParseState)
    (same : state.crdRules = before.crdRules) (rule : SgRule) (podIp : String) :
    (exec (appendCrdRule entry) state).2.Lists rule podIp ↔
      before.Lists rule podIp ∨ entry.rule = rule ∧ podIp ∈ entry.remoteIpPrefixes := by
  unfold appendCrdRule
  rw [exec_modify]
  dsimp only
  split
  · rename_i present
    obtain ⟨other, listed, equal⟩ := List.any_eq_true.mp present
    obtain ⟨_, sameRule, _, samePods⟩ := of_decide_eq_true equal
    rw [same] at listed
    rw [ParseState.Lists, same]
    constructor
    · exact .inl
    · rintro (old | ⟨rfl, entered⟩)
      · exact old
      · refine ⟨other, listed, sameRule, ?_⟩
        rw [← Dict.mem_keys_iff] at entered ⊢
        exact (samePods.map Prod.fst).mem_iff.mpr entered
  · simp only [ParseState.Lists, same, List.mem_append, List.mem_singleton, or_and_right,
      exists_or, exists_eq_left]

theorem addRule_lists {body : RuleBody} {value : Unit}
    (ran : exec (addRule snapshot body) before = (.ok value, after)) (rule : SgRule)
    (podIp : String) :
    after.Lists rule podIp ↔
      before.Lists rule podIp ∨ body.rule = rule ∧ podIp ∈ body.remoteIpPrefixes := by
  obtain ⟨entry, middle, created, appended⟩ := exec_bind_eq_ok ran
  obtain ⟨rfl, same⟩ := createRule_returns created
  have lists := lists_appendCrdRule entry middle same rule podIp
  rw [appended] at lists
  exact lists

theorem addRule_opens {number : Nat} {pods : Dict String String}
    (positive : ∀ podIp ∈ pods, 0 < number) {cidr : Option String} {value : Unit}
    (ran : exec (addRule snapshot (call.body number cidr pods)) before = (.ok value, after)) :
    Opened [(number, pods)] before after where
  kept rule podIp listed := (addRule_lists ran rule podIp).mpr (.inl listed)
  opened item among podIp entered := by
    rw [List.mem_singleton.mp among] at entered ⊢
    exact ⟨_, call.range_body (positive podIp entered) cidr pods,
      (addRule_lists ran _ podIp).mpr (.inr ⟨rfl, entered⟩)⟩
  only rule podIp listed := by
    rcases (addRule_lists ran rule podIp).mp listed with old | ⟨rfl, entered⟩
    · exact .inl old
    · exact .inr ⟨_, List.mem_cons_self, entered,
        call.range_body (positive podIp entered) cidr pods⟩

/-- A number that has been gathered gets its rule. -/
theorem createSgRuleOnMatchedPods_opens (placed : call.Placed snapshot) {number : Nat}
    {pods : Dict String String} (positive : ∀ podIp ∈ pods, 0 < number) {value : Unit}
    (ran : exec (createSgRuleOnMatchedPods snapshot call number pods) before =
      (.ok value, after)) :
    Opened [(number, pods)] before after := by
  unfold createSgRuleOnMatchedPods at ran
  by_cases everyone : call.allowAll = true
  · rw [if_pos everyone] at ran
    exact addRule_opens positive ran
  · obtain ⟨name, namespaceObj, named, known⟩ := placed.resolve_left everyone
    rw [if_neg everyone, named, Option.bind_some, known] at ran
    dsimp only at ran
    obtain ⟨cidr, middle, read, added⟩ := exec_bind_eq_ok ran
    unfold getNamespaceSubnetCidr at read
    split at read
    · cases read
      exact addRule_opens positive added
    · cases read

theorem forM_matchedPods_opens (placed : call.Placed snapshot)
    {items : List (Nat × Dict String String)}
    (positive : ∀ item ∈ items, ∀ podIp ∈ item.2, 0 < item.1) {value : Unit}
    (ran : exec (items.forM fun item => createSgRuleOnMatchedPods snapshot call item.1 item.2)
      before = (.ok value, after)) :
    Opened items before after := by
  induction items generalizing before with
  | nil =>
      cases ran
      constructor
      · exact fun rule podIp listed => listed
      · intro item impossible
        cases impossible
      · exact fun rule podIp listed => .inl listed
  | cons item rest ih =>
      rw [forM_cons_eq] at ran
      obtain ⟨_, middle, ranItem, ranRest⟩ := exec_bind_eq_ok ran
      have head := createSgRuleOnMatchedPods_opens placed (positive item List.mem_cons_self) ranItem
      exact head.cons
        (ih (fun other later => positive other (List.mem_cons_of_mem item later)) ranRest)

/-- For a namespace that does not exist nothing is opened. -/
theorem forM_matchedPods_skips (lost : ¬call.Placed snapshot)
    {items : List (Nat × Dict String String)} {value : Unit}
    (ran : exec (items.forM fun item => createSgRuleOnMatchedPods snapshot call item.1 item.2)
      before = (.ok value, after)) :
    after = before := by
  have everyone : ¬call.allowAll = true := fun open_ => lost (.inl open_)
  have unknown : call.namespaceName.bind snapshot.getNamespace = none := by
    rw [Option.bind_eq_none_iff]
    intro name named
    by_contra known
    obtain ⟨namespaceObj, found⟩ := Option.ne_none_iff_exists'.mp known
    exact lost (.inr ⟨name, namespaceObj, named, found⟩)
  induction items generalizing before with
  | nil =>
      cases ran
      rfl
  | cons item rest ih =>
      rw [forM_cons_eq] at ran
      obtain ⟨_, middle, ranItem, ranRest⟩ := exec_bind_eq_ok ran
      rw [createSgRuleOnMatchedPods, if_neg everyone, unknown] at ranItem
      cases ranItem
      exact ih ranRest

end Gathered

/-! ## The call -/

namespace TextPort

variable (snapshot : Snapshot) (call : TextPort) (ruleSelectedPods : List Pod)

/-- The call looks at the ports of the pod: of a pod of the policy if some pod is matched,
or of a matched pod that the policy is not for. -/
def LooksAt (pod : Pod) : Prop :=
  match call.direction with
  | .ingress =>
      pod ∈ snapshot.getPods call.crd.podSelector call.crd.namespaceName ∧ ruleSelectedPods ≠ []
  | .egress =>
      pod ∈ ruleSelectedPods ∧
        ¬(matchSelector call.crd.podSelector.withoutTemplateHash (podLabels pod) ∧
          call.crd.namespaceName = pod.namespaceName)

/-- A pod that is looked at exposes the number under the name and has the address. -/
def Exposed (podIp : String) (number : Nat) : Prop :=
  ∃ pod, call.LooksAt snapshot ruleSelectedPods pod ∧
    ExposedIn (getPorts pod call.portName) podIp number

/-- Every number that is exposed is in the range of a rule under which the address is
entered, and addresses are entered under such rules only: the search gives an entry with
pods exactly if there is one with the number in its range, and gives such a one. -/
structure Covers (before after : ParseState) : Prop where
  covered : ∀ podIp number, call.Exposed snapshot ruleSelectedPods podIp number →
    ∃ rule : SgRule, rule.Spans number ∧ after.Lists rule podIp
  entered : ∀ rule podIp, after.Lists rule podIp → before.Lists rule podIp ∨
    ∃ number, call.Exposed snapshot ruleSelectedPods podIp number ∧ rule.Spans number
  given : ∀ podIp number, call.Exposed snapshot ruleSelectedPods podIp number →
    ((getCrdRule before.crdRules number).isSome ↔
      ∃ entry ∈ before.crdRules, entry.KeepsPods ∧ entry.rule.Spans number)
  right : ∀ podIp number, call.Exposed snapshot ruleSelectedPods podIp number →
    ∀ entry, getCrdRule before.crdRules number = some entry → entry.rule.Spans number

/-- The entries tell every number that is exposed, and a number below which all of them end
can get a rule. -/
def Told (crdRules : List CrdRule) : Prop :=
  ∀ podIp number, call.Exposed snapshot ruleSelectedPods podIp number →
    Tells crdRules number ∧
      ((∀ entry ∈ crdRules, entry.KeepsPods → entry.rule.portRangeMax < number) →
        call.Placed snapshot)

variable {snapshot call ruleSelectedPods}

theorem exposed_iff {podIp : String} {number : Nat} :
    (∃ turn ∈ textPortTurns snapshot call ruleSelectedPods, ExposedIn turn.1 podIp number) ↔
      call.Exposed snapshot ruleSelectedPods podIp number := by
  unfold textPortTurns Exposed LooksAt
  cases call.direction with
  | ingress =>
      constructor
      · rintro ⟨turn, turns, exposed⟩
        obtain ⟨specPod, own, turned⟩ := List.mem_flatMap.mp turns
        obtain ⟨selected, among, rfl⟩ := List.mem_map.mp turned
        exact ⟨specPod, ⟨own, List.ne_nil_of_mem among⟩, exposed⟩
      · rintro ⟨specPod, ⟨own, some_⟩, exposed⟩
        obtain ⟨selected, among⟩ := List.exists_mem_of_ne_nil ruleSelectedPods some_
        exact ⟨_, List.mem_flatMap.mpr ⟨specPod, own, List.mem_map_of_mem among⟩, exposed⟩
  | egress =>
      constructor
      · rintro ⟨turn, turns, exposed⟩
        obtain ⟨pod, kept, rfl⟩ := List.mem_map.mp turns
        obtain ⟨among, other⟩ := List.mem_filter.mp kept
        refine ⟨pod, ⟨among, ?_⟩, exposed⟩
        intro own
        rw [decide_eq_true own] at other
        cases other
      · rintro ⟨pod, ⟨among, other⟩, exposed⟩
        refine ⟨_, List.mem_map_of_mem (List.mem_filter.mpr ⟨among, ?_⟩), exposed⟩
        rw [decide_eq_false other]
        rfl

theorem positive_of_exposed {podIp : String} {number : Nat}
    (exposed : call.Exposed snapshot ruleSelectedPods podIp number) : 0 < number := by
  obtain ⟨_, _, item, _, _, rfl⟩ := exposed
  exact item.2.2.1

end TextPort

section Call

variable {snapshot : Snapshot} {call : TextPort} {ruleSelectedPods : List Pod}
  {before after : ParseState} {matched result : Bool}

theorem MatchedPods.has_of_mem_items {gathered : MatchedPods} {item : Nat × Dict String String}
    (listed : item ∈ gathered.items) {podIp : String} (entered : podIp ∈ item.2) :
    gathered.Has item.1 podIp := by
  have found := Dict.mem_items_iff.mp listed
  rw [MatchedPods.Has, Dict.getD_of_get?_eq_some _ found]
  exact entered

theorem MatchedPods.exists_item_of_has {gathered : MatchedPods} {number : Nat} {podIp : String}
    (has : gathered.Has number podIp) : ∃ item ∈ gathered.items, item.1 = number ∧ podIp ∈ item.2 := by
  unfold MatchedPods.Has at has
  cases found : gathered.get? number with
  | none =>
      rw [Dict.getD_of_get?_eq_none _ found] at has
      exact absurd has (Dict.not_mem_empty podIp)
  | some pods =>
      rw [Dict.getD_of_get?_eq_some _ found] at has
      exact ⟨(number, pods), Dict.mem_items_iff.mpr found, rfl, has⟩

/-- Where a call leaves the addresses of the pods that it looks at. -/
structure TextPort.Enters (snapshot : Snapshot) (call : TextPort) (ruleSelectedPods : List Pod)
    (before after : ParseState) : Prop where
  taken : ∀ podIp number rule, call.Exposed snapshot ruleSelectedPods podIp number →
    before.Takes number rule → after.Lists rule podIp
  opened : ∀ podIp number, call.Exposed snapshot ruleSelectedPods podIp number →
    before.Misses number → call.Placed snapshot →
    ∃ rule : SgRule, rule.IsFor number ∧ after.Lists rule podIp
  only : ∀ rule podIp, after.Lists rule podIp → before.Lists rule podIp ∨
    ∃ number, call.Exposed snapshot ruleSelectedPods podIp number ∧
      (before.Takes number rule ∨ call.Placed snapshot ∧ rule.IsFor number)

theorem createSgRuleOnTextPort_enters (lookup : call.looksUp = true)
    (ran : exec (createSgRuleOnTextPort snapshot call ruleSelectedPods matched) before =
      (.ok result, after)) :
    call.Enters snapshot ruleSelectedPods before after := by
  obtain ⟨⟨_, gathered⟩, middle, ranTurns, ranRest⟩ := exec_bind_eq_ok ran
  obtain ⟨_, final, ranItems, returned⟩ := exec_bind_eq_ok ranRest
  cases returned
  have swept : Swept (call.Exposed snapshot ruleSelectedPods) before middle ∅ gathered :=
    (createSgRulesOnTurns_sweeps lookup ranTurns).congr fun _ _ => TextPort.exposed_iff
  have gathers : ∀ number podIp, gathered.Has number podIp ↔
      call.Exposed snapshot ruleSelectedPods podIp number ∧ before.Misses number := by
    intro number podIp
    rw [swept.gathers]
    exact or_iff_right (Dict.not_mem_empty podIp)
  by_cases placed : call.Placed snapshot
  · have positive : ∀ item ∈ gathered.items, ∀ podIp ∈ item.2, 0 < item.1 :=
      fun item listed podIp entered => TextPort.positive_of_exposed
        ((gathers item.1 podIp).mp (MatchedPods.has_of_mem_items listed entered)).1
    have items := forM_matchedPods_opens placed positive ranItems
    constructor
    · intro podIp number rule exposed takes
      exact items.kept rule podIp ((swept.lists rule podIp).mpr (.inr ⟨number, exposed, takes⟩))
    · intro podIp number exposed misses _
      obtain ⟨item, listed, rfl, entered⟩ :=
        MatchedPods.exists_item_of_has ((gathers number podIp).mpr ⟨exposed, misses⟩)
      exact items.opened item listed podIp entered
    · intro rule podIp listed
      rcases items.only rule podIp listed with listed | ⟨item, among, entered, isFor⟩
      · rcases (swept.lists rule podIp).mp listed with old | ⟨number, exposed, takes⟩
        · exact .inl old
        · exact .inr ⟨number, exposed, .inl takes⟩
      · have exposed := ((gathers item.1 podIp).mp (MatchedPods.has_of_mem_items among entered)).1
        exact .inr ⟨item.1, exposed, .inr ⟨placed, isFor⟩⟩
  · have same := forM_matchedPods_skips placed ranItems
    subst same
    constructor
    · intro podIp number rule exposed takes
      exact (swept.lists rule podIp).mpr (.inr ⟨number, exposed, takes⟩)
    · intro podIp number _ _ impossible
      exact absurd impossible placed
    · intro rule podIp listed
      rcases (swept.lists rule podIp).mp listed with old | ⟨number, exposed, takes⟩
      · exact .inl old
      · exact .inr ⟨number, exposed, .inl takes⟩

/-- A call covers what it finds exactly if the entries tell the numbers. -/
theorem create_sg_rule_on_text_port_covers_iff (lookup : call.looksUp = true)
    (ran : exec (createSgRuleOnTextPort snapshot call ruleSelectedPods matched) before =
      (.ok result, after)) :
    call.Covers snapshot ruleSelectedPods before after ↔
      call.Told snapshot ruleSelectedPods before.crdRules := by
  have enters := createSgRuleOnTextPort_enters lookup ran
  constructor
  · intro covers podIp number exposed
    have tells := getCrdRule_right_iff.mp
      ⟨covers.given podIp number exposed, covers.right podIp number exposed⟩
    refine ⟨tells, ?_⟩
    intro below
    -- The rule that covers the number was not there before.
    obtain ⟨rule, spans, listed⟩ := covers.covered podIp number exposed
    have unlisted : ∀ entry ∈ before.crdRules, entry.KeepsPods → entry.rule ≠ rule := by
      rintro entry member keeps rfl
      exact absurd spans.2 (Nat.not_le_of_lt (below entry member keeps))
    rcases enters.only rule podIp listed with old | ⟨other, _, taken | opened⟩
    · obtain ⟨entry, member, same, entered⟩ := old
      exact absurd same (unlisted entry member (ParseState.keepsPods_of_mem entered))
    · obtain ⟨entry, found, same⟩ := taken
      have keeps := (CrdRule.passes_iff.mp (List.find?_some found)).1
      exact absurd same (unlisted entry (mem_of_getCrdRule found) keeps)
    · exact opened.1
  · intro told
    have search : ∀ podIp number, call.Exposed snapshot ruleSelectedPods podIp number →
        ((getCrdRule before.crdRules number).isSome ↔
          ∃ entry ∈ before.crdRules, entry.KeepsPods ∧ entry.rule.Spans number) ∧
        ∀ entry, getCrdRule before.crdRules number = some entry → entry.rule.Spans number :=
      fun podIp number exposed => getCrdRule_right_iff.mpr (told podIp number exposed).1
    constructor
    · intro podIp number exposed
      cases found : getCrdRule before.crdRules number with
      | some entry =>
          have takes : before.Takes number entry.rule := ⟨entry, found, rfl⟩
          exact ⟨entry.rule, (search podIp number exposed).2 entry found,
            enters.taken podIp number entry.rule exposed takes⟩
      | none =>
          have below := (told podIp number exposed).1.below_of_none found
          obtain ⟨rule, isFor, listed⟩ :=
            enters.opened podIp number exposed found ((told podIp number exposed).2 below)
          exact ⟨rule, ⟨isFor.1.le, isFor.2.ge⟩, listed⟩
    · intro rule podIp listed
      rcases enters.only rule podIp listed with old | ⟨number, exposed, taken | ⟨_, isFor⟩⟩
      · exact .inl old
      · obtain ⟨entry, found, rfl⟩ := taken
        exact .inr ⟨number, exposed, (search podIp number exposed).2 entry found⟩
      · exact .inr ⟨number, exposed, isFor.1.le, isFor.2.ge⟩
    · exact fun podIp number exposed => (search podIp number exposed).1
    · exact fun podIp number exposed => (search podIp number exposed).2

end Call

/-! ## Two pods with metrics at different ports

A named port is open to everyone; there is a rule for one pod already. -/

namespace Metrics

def pod : Pod :=
  { name := "backend", namespaceName := "metrics", uid := "backend"
    labels := some ((∅ : Labels).set "app" "metrics")
    vifAnnotation := some
      { defaultVif := { id := "backend", network := ⟨"net"⟩, ipAddress := "10.0.0.9" } }
    containers := [{ ports := [{ name := some "metrics", containerPort := ⟨9090, by decide⟩ }] }] }

def cluster : Snapshot :=
  { pods := [pod] }

def call : TextPort :=
  { crd :=
      { namespaceName := "metrics", name := "open", securityGroupId := "group"
        podSelector := { matchLabels := (∅ : Labels).set "app" "metrics" } }
    direction := .ingress
    port := { port := some (.name "metrics") }
    allowAll := true }

/-- The resource with the rule for a pod that has the port at the number. -/
def state (number : Nat) (prefixes : Dict String String) : ParseState :=
  { neutron := (∅ : Dict Nat SgRule).set 1 (call.body number none prefixes).rule
    crdRules := [{ call.body number none prefixes with id := 1 }] }

/-- The other pod. -/
def frontend : Dict String String :=
  (∅ : Dict String String).set "10.0.0.8" "metrics"

theorem exposed_iff {podIp : String} {number : Nat} :
    call.Exposed cluster [pod] podIp number ↔ podIp = "10.0.0.9" ∧ number = 9090 := by
  have policyPods : cluster.getPods call.crd.podSelector call.crd.namespaceName = [pod] := by decide
  have ports : getPorts pod call.portName = [(pod, ⟨9090, by decide⟩)] := by decide
  have address : pod.podIp = some "10.0.0.9" := rfl
  constructor
  · rintro ⟨other, ⟨own, _⟩, item, listed, addressed, rfl⟩
    rw [policyPods, List.mem_singleton] at own
    rw [own, ports, List.mem_singleton] at listed
    rw [listed, address] at addressed
    exact ⟨(Option.some.inj addressed).symm, by rw [listed]⟩
  · rintro ⟨rfl, rfl⟩
    refine ⟨pod, ⟨?_, List.cons_ne_nil pod []⟩, ?_⟩
    · rw [policyPods]
      exact List.mem_singleton_self pod
    · rw [ports]
      exact ⟨_, List.mem_singleton_self _, address, rfl⟩

end Metrics

/-- The pod joins the rule for its port. -/
theorem metrics_covered :
    Metrics.call.Covers Metrics.cluster [Metrics.pod] (Metrics.state 9090 Metrics.frontend)
      (Metrics.state 9090 (Metrics.frontend.set "10.0.0.9" "metrics")) := by
  have ran : exec (createSgRuleOnTextPort Metrics.cluster Metrics.call [Metrics.pod] false)
      (Metrics.state 9090 Metrics.frontend) =
        (.ok true, Metrics.state 9090 (Metrics.frontend.set "10.0.0.9" "metrics")) := rfl
  apply (create_sg_rule_on_text_port_covers_iff rfl ran).mpr
  intro podIp number exposed
  obtain ⟨_, rfl⟩ := Metrics.exposed_iff.mp exposed
  constructor
  · left
    refine ⟨[], _, [], rfl, by decide, rfl, le_rfl, ?_⟩
    intro other impossible
    cases impossible
  · exact fun _ => .inl rfl

/-- The pod joins a rule for another port. -/
theorem create_sg_rule_on_text_port_misplaces :
    ¬∀ (snapshot : Snapshot) (call : TextPort) (ruleSelectedPods : List Pod)
      (matched result : Bool) (before after : ParseState), call.looksUp = true →
      exec (createSgRuleOnTextPort snapshot call ruleSelectedPods matched) before =
        (.ok result, after) →
      call.Covers snapshot ruleSelectedPods before after := by
  intro covers
  have claimed := covers Metrics.cluster Metrics.call [Metrics.pod] false true
    (Metrics.state 9443 Metrics.frontend)
    (Metrics.state 9443 (Metrics.frontend.set "10.0.0.9" "metrics")) rfl rfl
  obtain ⟨rule, spans, entry, listed, rfl, _⟩ :=
    claimed.covered "10.0.0.9" 9090 (Metrics.exposed_iff.mpr ⟨rfl, rfl⟩)
  rw [List.mem_singleton.mp listed] at spans
  exact absurd spans.1 (by decide)

end KuryrKubernetes.Policy
