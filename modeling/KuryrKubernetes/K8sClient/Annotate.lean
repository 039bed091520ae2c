import KuryrKubernetes.Objects
import KuryrKubernetes.Transition.Run

/-!
# Annotating a resource

`K8sClient.annotate` patches the annotations of a resource and, told that its version is
stale, looks at the resource and patches again.  In between, others write the resource.
-/

namespace KuryrKubernetes.K8sClient.Annotate

open KuryrKubernetes.Data
open KuryrKubernetes.Transition

/-- The values that are asked for; without a value the key is to be removed. -/
abbrev Request := Dict String (Option String)

/-- A resource of the API server. -/
structure Resource where
  version : Nat
  annotations : Dict String String

namespace Resource

/-- `annotations` in the metadata of the resource, left out where there is none. -/
def shown (resource : Resource) : Option (Dict String String) :=
  if resource.annotations.items.isEmpty then none else some resource.annotations

/-- The resource has what is asked for. -/
def Holds (resource : Resource) (request : Request) : Prop :=
  ∀ key value, request.get? key = some value → resource.annotations.get? key = value

end Resource

/-- A key of the merge patch. -/
def mergeKey (annotations : Dict String String) (item : String × Option String) :
    Dict String String :=
  match item.2 with
  | some value => annotations.set item.1 value
  | none => annotations.erase item.1

/-- The merge patch. -/
def merge (annotations : Dict String String) (request : Request) : Dict String String :=
  request.items.foldl mergeKey annotations

/-- `K8sClient.annotate` on its way.  With an exception stands the status of the response
that it was raised for. -/
inductive Call where
  | patching (resourceVersion : Option Nat)
  | getting
  | returned (annotations : Dict String String)
  | raised (exception : PyException) (status : Option Nat)

/-- `_raise_from_response`, for a response that is not ok. -/
def raiseFromResponse (status : Nat) : Call :=
  .raised (if status = 404 then .k8sResourceNotFound else .k8sClientException) (some status)

/-- After a patch that was answered with the resource. -/
def patched (resource : Resource) : Call :=
  match resource.shown with
  | some annotations => .returned annotations
  | none => .raised .keyError none

/-- After a patch that was answered with an error. -/
def unpatched (status : Nat) : Call :=
  if status = 409 then .getting else raiseFromResponse status

/-- The values are there already. -/
def Request.present (request : Request) (retrieved : Dict String String) : Bool :=
  request.items.all fun item => retrieved.get? item.1 = item.2

/-- After the resource was read. -/
def retrieved (request : Request) (resource : Resource) : Call :=
  let annotations := resource.shown.getD ∅
  if request.present annotations then
    .returned annotations
  else
    .patching (some resource.version)

/-- The resource with the version that was given out last, and the call.  The resource at
every moment of the call, and whether a patch was applied, is only noted. -/
structure Site where
  resource : Option Resource
  newest : Nat
  call : Call
  moments : List (Option Resource)
  applied : Bool

/-- What happens: someone else writes or deletes the resource, or a request of the call is
answered, as it should be or with an error of the server. -/
inductive Label where
  | written (annotations : Dict String String)
  | deleted
  | patch
  | get
  | failure (status : Nat)

/-- The call makes the step. -/
def Label.isOwn : Label → Bool
  | patch | get | failure _ => true
  | written _ | deleted => false

/-- The resource becomes another one. -/
def Site.become (site : Site) (resource : Option Resource) : Site :=
  { site with resource, newest := site.newest + 1, moments := resource :: site.moments }

/-- The given version is not that of the resource. -/
def Resource.stale (resource : Resource) (resourceVersion : Option Nat) : Bool :=
  resourceVersion.any (· ≠ resource.version)

/-- A patch at the server. -/
def Site.patch (site : Site) (request : Request) (resourceVersion : Option Nat) : Site :=
  match site.resource with
  | none => { site with call := unpatched 404 }
  | some resource =>
      if resource.stale resourceVersion then
        { site with call := unpatched 409 }
      else
        let merged : Resource := ⟨site.newest + 1, merge resource.annotations request⟩
        { site.become (some merged) with call := patched merged, applied := true }

/-- The steps of the resource and of the call. -/
def step (request : Request) : Step Site Label
  | site, .written annotations =>
      some (site.become (some ⟨site.newest + 1, annotations⟩))
  | site, .deleted => some (site.become none)
  | site, .patch =>
      match site.call with
      | .patching resourceVersion => some (site.patch request resourceVersion)
      | _ => none
  | site, .get =>
      match site.call, site.resource with
      | .getting, some resource => some { site with call := retrieved request resource }
      | .getting, none => some { site with call := raiseFromResponse 404 }
      | _, _ => none
  | site, .failure status =>
      match site.call with
      | .patching _ | .getting =>
          if 400 ≤ status ∧ status ≠ 409 then
            some { site with call := raiseFromResponse status }
          else
            none
      | _ => none

/-! ## The merge patch -/

/-- The keys that are asked for get what is asked for, and the others stay as they are. -/
theorem get?_merge (annotations : Dict String String) (request : Request) (key : String) :
    (merge annotations request).get? key =
      (request.get? key).getD (annotations.get? key) := by
  have merged (items : List (String × Option String)) (distinct : (items.map Prod.fst).Nodup)
      (start : Dict String String) :
      (items.foldl mergeKey start).get? key =
        (Dict.lookupItems key items).getD (start.get? key) := by
    induction items generalizing start with
    | nil => rfl
    | cons item rest ih =>
        rcases item with ⟨head, value⟩
        rw [List.map_cons, List.nodup_cons] at distinct
        rw [List.foldl_cons, ih distinct.2, Dict.lookupItems]
        by_cases equal : head = key
        · subst head
          rw [if_pos rfl, (Dict.lookupItems_eq_none_iff key rest).mpr distinct.1]
          cases value <;> simp [mergeKey]
        · rw [if_neg equal]
          cases value <;> simp [mergeKey, Dict.get?_set, Dict.get?_erase, Ne.symm equal]
  exact merged request.items request.nodupKeys annotations

theorem holds_merge (version : Nat) (annotations : Dict String String) (request : Request) :
    Resource.Holds ⟨version, merge annotations request⟩ request := by
  intro key value asked
  change (merge annotations request).get? key = value
  rw [get?_merge, asked, Option.getD_some]

/-- What the resource shows is what it has. -/
theorem get?_shown (resource : Resource) (key : String) :
    (resource.shown.getD ∅).get? key = resource.annotations.get? key := by
  unfold Resource.shown
  split
  · rename_i empty
    have same : resource.annotations = ∅ := Dict.ext_items (List.isEmpty_iff.mp empty)
    rw [same]
    rfl
  · rfl

theorem shown_eq_none_iff (resource : Resource) :
    resource.shown = none ↔ ∀ key, key ∉ resource.annotations := by
  unfold Resource.shown
  split
  · rename_i empty
    have same : resource.annotations = ∅ := Dict.ext_items (List.isEmpty_iff.mp empty)
    rw [same]
    constructor
    · exact fun _ key => Dict.not_mem_empty key
    · exact fun _ => rfl
  · rename_i some_
    constructor
    · rintro ⟨⟩
    · intro absent
      exfalso
      apply some_
      cases items : resource.annotations.items with
      | nil => rfl
      | cons item rest =>
          apply absurd _ (absent item.1)
          rw [Dict.mem_iff_exists_get?]
          refine ⟨item.2, Dict.mem_items_iff.mp ?_⟩
          rw [items]
          exact List.mem_cons_self

theorem present_iff (request : Request) (resource : Resource) :
    request.present (resource.shown.getD ∅) = true ↔ resource.Holds request := by
  unfold Request.present
  rw [List.all_eq_true]
  constructor
  · intro all key value asked
    rw [← get?_shown resource key]
    exact of_decide_eq_true (all (key, value) (Dict.mem_items_iff.mpr asked))
  · rintro holds ⟨key, value⟩ listed
    apply decide_eq_true
    rw [get?_shown resource key]
    exact holds key value (Dict.mem_items_iff.mp listed)

/-! ## The whole call -/

/-- The call has just begun. -/
structure Site.Begun (site : Site) : Prop where
  patching : ∃ resourceVersion, site.call = .patching resourceVersion
  moments : site.moments = [site.resource]
  unapplied : site.applied = false

/-- What holds of the call at any time: it returned only after the resource held what was
asked for, no step of its own changes another key, it raised only for an error other than a
conflict, and not after its change was applied. -/
structure Site.Kept (request : Request) (site : Site) : Prop where
  returned : ∀ annotations, site.call = .returned annotations →
    ∃ resource, some resource ∈ site.moments ∧ resource.Holds request
  others : ∀ label after, label.isOwn → step request site label = some after →
    ∀ key, key ∉ request → (after.resource.bind (·.annotations.get? key)) =
      site.resource.bind (·.annotations.get? key)
  raised : ∀ exception status, site.call = .raised exception status →
    ∃ error, status = some error ∧ 400 ≤ error ∧ error ≠ 409
  applied : site.applied → ∀ exception status, site.call ≠ .raised exception status

/-- A patch that is applied leaves an annotation: one that is set, or another one that was
there. -/
def LeavesAny (request : Request) (site : Site) (label : Label) : Prop :=
  ∀ resourceVersion resource, label = .patch → site.call = .patching resourceVersion →
    site.resource = some resource → ¬resource.stale resourceVersion →
    ∃ key, (∃ value, request.get? key = some (some value)) ∨
      key ∉ request ∧ key ∈ resource.annotations

/-- A patched resource shows an annotation if one is set or another one was there. -/
theorem shown_merge_eq_none_iff (version : Nat) (annotations : Dict String String)
    (request : Request) :
    Resource.shown ⟨version, merge annotations request⟩ = none ↔
      ¬∃ key, (∃ value, request.get? key = some (some value)) ∨
        key ∉ request ∧ key ∈ annotations := by
  rw [shown_eq_none_iff, not_exists]
  apply forall_congr'
  intro key
  apply not_congr
  change key ∈ merge annotations request ↔ _
  rw [Dict.mem_iff_isSome, get?_merge, Dict.mem_iff_isSome, Dict.mem_iff_isSome]
  cases request.get? key with
  | none => simp
  | some value => cases value <;> simp

section

variable {request : Request} {site after : Site} {label : Label}

/-- A step of someone else, or the call goes on with the resource as it is, or its patch is
applied. -/
theorem step_cases (taken : step request site label = some after) :
    (¬label.isOwn ∧ ∃ resource, after = site.become resource) ∨
    (label.isOwn ∧ (∃ version, site.call = .patching version) ∧ ∃ status, 400 ≤ status ∧
      after = { site with call := unpatched status }) ∨
    (label = .get ∧ site.call = .getting ∧ ∃ resource, site.resource = some resource ∧
      after = { site with call := retrieved request resource }) ∨
    (label.isOwn ∧ site.call = .getting ∧ ∃ status, 400 ≤ status ∧ status ≠ 409 ∧
      after = { site with call := raiseFromResponse status }) ∨
    ∃ version resource merged, label = .patch ∧ site.call = .patching version ∧
      site.resource = some resource ∧ ¬resource.stale version ∧
      merged = ⟨site.newest + 1, merge resource.annotations request⟩ ∧
      after = { site.become (some merged) with call := patched merged, applied := true } := by
  cases label with
  | written annotations =>
      cases taken
      exact .inl ⟨Bool.false_ne_true, _, rfl⟩
  | deleted =>
      cases taken
      exact .inl ⟨Bool.false_ne_true, _, rfl⟩
  | patch =>
      unfold step at taken
      dsimp only at taken
      cases call : site.call with
      | patching version =>
          rw [call] at taken
          cases taken
          unfold Site.patch
          cases there : site.resource with
          | none => exact .inr (.inl ⟨rfl, ⟨version, rfl⟩, 404, by decide, rfl⟩)
          | some resource =>
              dsimp only
              split
              · exact .inr (.inl ⟨rfl, ⟨version, rfl⟩, 409, by decide, rfl⟩)
              · rename_i fresh
                right; right; right; right
                exact ⟨version, resource, _, rfl, rfl, rfl, fresh, rfl, rfl⟩
      | getting | returned | raised =>
          rw [call] at taken
          cases taken
  | get =>
      unfold step at taken
      dsimp only at taken
      cases call : site.call with
      | getting =>
          rw [call] at taken
          cases there : site.resource with
          | none =>
              rw [there] at taken
              cases taken
              right; right; right; left
              exact ⟨rfl, rfl, 404, by decide, by decide, rfl⟩
          | some resource =>
              rw [there] at taken
              cases taken
              right; right; left
              exact ⟨rfl, rfl, resource, rfl, rfl⟩
      | patching | returned | raised =>
          rw [call] at taken
          cases taken
  | failure status =>
      unfold step at taken
      dsimp only at taken
      cases call : site.call with
      | patching version =>
          rw [call, Option.ite_none_right_eq_some] at taken
          rcases taken with ⟨⟨error, other⟩, same⟩
          cases same
          right; left
          refine ⟨rfl, ⟨version, rfl⟩, status, error, ?_⟩
          unfold unpatched
          rw [if_neg other]
      | getting =>
          rw [call, Option.ite_none_right_eq_some] at taken
          rcases taken with ⟨⟨error, other⟩, same⟩
          cases same
          right; right; right; left
          exact ⟨rfl, rfl, status, error, other, rfl⟩
      | returned | raised =>
          rw [call] at taken
          cases taken

/-- A call that has ended makes no step any more. -/
theorem not_isOwn_of_ended (ended : (∃ annotations, site.call = .returned annotations) ∨
      ∃ exception status, site.call = .raised exception status)
    (taken : step request site label = some after) :
    ¬label.isOwn ∧ after.call = site.call := by
  have other (call : Call) (going : site.call = call)
      (open_ : (∃ version, call = .patching version) ∨ call = .getting) : False := by
    rcases ended with ⟨_, same⟩ | ⟨_, _, same⟩
    · rw [going] at same
      rcases open_ with ⟨_, rfl⟩ | rfl
      · cases same
      · cases same
    · rw [going] at same
      rcases open_ with ⟨_, rfl⟩ | rfl
      · cases same
      · cases same
  rcases step_cases taken with ⟨others, resource, rfl⟩ | ⟨_, ⟨version, going⟩, _⟩ |
    ⟨_, going, _⟩ | ⟨_, going, _⟩ | ⟨version, _, _, _, going, _⟩
  · exact ⟨others, rfl⟩
  · exact (other _ going (.inl ⟨version, rfl⟩)).elim
  · exact (other _ going (.inr rfl)).elim
  · exact (other _ going (.inr rfl)).elim
  · exact (other _ going (.inl ⟨version, rfl⟩)).elim

/-- An own step does not change the other keys. -/
theorem others_kept (own : label.isOwn) (taken : step request site label = some after)
    {key : String} (other : key ∉ request) :
    (after.resource.bind (·.annotations.get? key)) =
      site.resource.bind (·.annotations.get? key) := by
  rcases step_cases taken with ⟨others, _⟩ | ⟨_, _, _, _, rfl⟩ | ⟨_, _, _, _, rfl⟩ |
    ⟨_, _, _, _, _, rfl⟩ | ⟨_, resource, merged, _, _, there, _, rfl, rfl⟩
  · exact absurd own others
  · rfl
  · rfl
  · rfl
  · rw [there]
    change (merge resource.annotations request).get? key = resource.annotations.get? key
    rw [get?_merge, Dict.not_mem_iff_get?_eq_none.mp other, Option.getD_none]

/-- A call that was told of an error, other than a conflict, raises for it. -/
theorem raiseFromResponse_cases (status : Nat) : ∃ exception,
    raiseFromResponse status = .raised exception (some status) :=
  ⟨_, rfl⟩

theorem patched_cases (resource : Resource) :
    (∃ annotations, resource.shown = some annotations ∧
      patched resource = .returned annotations) ∨
    resource.shown = none ∧ patched resource = .raised .keyError none := by
  unfold patched
  cases resource.shown with
  | none => exact .inr ⟨rfl, rfl⟩
  | some annotations => exact .inl ⟨annotations, rfl, rfl⟩

/-- What holds at any time as long as patches leave an annotation. -/
structure Site.Sound (request : Request) (site : Site) : Prop where
  now : site.resource ∈ site.moments
  returned : ∀ annotations, site.call = .returned annotations →
    ∃ resource, some resource ∈ site.moments ∧ resource.Holds request
  raised : ∀ exception status, site.call = .raised exception status →
    ∃ error, status = some error ∧ 400 ≤ error ∧ error ≠ 409
  applied : site.applied → ∃ annotations, site.call = .returned annotations

theorem Site.Begun.sound (begun : site.Begun) : site.Sound request := by
  rcases begun.patching with ⟨version, patching⟩
  constructor
  · rw [begun.moments]
    exact List.mem_singleton_self _
  · rw [patching]
    rintro annotations ⟨⟩
  · rw [patching]
    rintro exception status ⟨⟩
  · rw [begun.unapplied]
    rintro ⟨⟩

theorem Site.Sound.kept (sound : site.Sound request) : site.Kept request := by
  constructor
  · exact sound.returned
  · intro label after own taken key other
    exact others_kept own taken other
  · exact sound.raised
  · intro applied exception status raised
    rcases sound.applied applied with ⟨annotations, returned⟩
    rw [returned] at raised
    cases raised

/-- A call that has not returned has applied nothing. -/
theorem Site.Sound.not_applied (sound : site.Sound request) {call : Call}
    (going : site.call = call) (open_ : ∀ annotations, call ≠ .returned annotations) :
    ¬site.applied = true := by
  intro applied
  rcases sound.applied applied with ⟨annotations, returned⟩
  rw [going] at returned
  exact open_ annotations returned

theorem sound_preserved :
    PreservedBy (step request) (LeavesAny request) (Site.Sound request) := by
  intro site label after leaves sound taken
  rcases step_cases taken with ⟨_, resource, rfl⟩ | ⟨_, ⟨version, going⟩, status, error, rfl⟩ |
    ⟨_, going, resource, there, rfl⟩ | ⟨_, going, status, error, other, rfl⟩ |
      ⟨version, resource, merged, isPatch, going, there, fresh, rfl, rfl⟩
  · constructor
    · exact List.mem_cons_self
    · intro annotations returned
      rcases sound.returned annotations returned with ⟨held, among, holds⟩
      exact ⟨held, List.mem_cons_of_mem _ among, holds⟩
    · exact sound.raised
    · exact sound.applied
  · -- the patch was refused
    have unapplied := sound.not_applied going (by rintro _ ⟨⟩)
    have refused : unpatched status = .getting ∨
        status ≠ 409 ∧ ∃ exception, unpatched status = .raised exception (some status) := by
      unfold unpatched
      split
      · exact .inl rfl
      · rename_i other
        exact .inr ⟨other, raiseFromResponse_cases status⟩
    constructor
    · exact sound.now
    · intro annotations returned
      change unpatched status = _ at returned
      rcases refused with same | ⟨_, _, same⟩
      · rw [same] at returned
        cases returned
      · rw [same] at returned
        cases returned
    · intro exception raisedFor raised
      change unpatched status = _ at raised
      rcases refused with same | ⟨other, _, same⟩
      · rw [same] at raised
        cases raised
      · rw [same] at raised
        cases raised
        exact ⟨status, rfl, error, other⟩
    · exact fun applied => absurd applied unapplied
  · -- the resource was read
    have unapplied := sound.not_applied going (by rintro _ ⟨⟩)
    have read : (resource.Holds request ∧ ∃ annotations,
        retrieved request resource = .returned annotations) ∨
        ∃ version, retrieved request resource = .patching version := by
      unfold retrieved
      dsimp only
      split
      · rename_i present
        exact .inl ⟨(present_iff request resource).mp present, _, rfl⟩
      · exact .inr ⟨_, rfl⟩
    constructor
    · exact sound.now
    · intro annotations returned
      rcases read with ⟨holds, _⟩ | ⟨_, same⟩
      · refine ⟨resource, ?_, holds⟩
        rw [← there]
        exact sound.now
      · change retrieved request resource = _ at returned
        rw [same] at returned
        cases returned
    · intro exception status raised
      change retrieved request resource = _ at raised
      rcases read with ⟨_, _, same⟩ | ⟨_, same⟩
      · rw [same] at raised
        cases raised
      · rw [same] at raised
        cases raised
    · exact fun applied => absurd applied unapplied
  · -- the resource could not be read
    have unapplied := sound.not_applied going (by rintro _ ⟨⟩)
    constructor
    · exact sound.now
    · rintro annotations ⟨⟩
    · rintro exception raisedFor ⟨⟩
      exact ⟨status, rfl, error, other⟩
    · exact fun applied => absurd applied unapplied
  · -- the patch was applied
    have some_ := leaves version resource isPatch going there fresh
    rcases patched_cases ⟨site.newest + 1, merge resource.annotations request⟩ with
      ⟨annotations, _, same⟩ | ⟨empty, _⟩
    · constructor
      · exact List.mem_cons_self
      · intro _ _
        exact ⟨_, List.mem_cons_self, holds_merge _ _ _⟩
      · intro exception status raised
        change patched _ = _ at raised
        rw [same] at raised
        cases raised
      · exact fun _ => ⟨annotations, same⟩
    · exact absurd some_ ((shown_merge_eq_none_iff _ _ _).mp empty)

/-- What a call raises stays raised. -/
theorem run_raised {labels : List Label} {exception : PyException} {status : Option Nat}
    (raised : site.call = .raised exception status)
    (taken : run (step request) labels site = some after) :
    after.call = .raised exception status := by
  induction labels generalizing site with
  | nil =>
      cases taken
      exact raised
  | cons label rest ih =>
      rw [run_cons] at taken
      rcases Option.bind_eq_some_iff.mp taken with ⟨middle, first, remaining⟩
      have same := (not_isOwn_of_ended (.inr ⟨exception, status, raised⟩) first).2
      exact ih (same.trans raised) remaining

/-- Where all is well at the end, every patch that was applied left an annotation. -/
theorem guardedRun_of_kept {labels : List Label} (kept : after.Kept request)
    (taken : run (step request) labels site = some after) :
    GuardedRun (step request) (LeavesAny request) site labels after := by
  induction labels generalizing site with
  | nil =>
      cases taken
      exact .nil _
  | cons label rest ih =>
      rw [run_cons] at taken
      rcases Option.bind_eq_some_iff.mp taken with ⟨middle, first, remaining⟩
      apply GuardedRun.cons _ first (ih remaining)
      rintro version resource rfl going there fresh
      by_contra bare
      have empty := (shown_merge_eq_none_iff (site.newest + 1) resource.annotations request).mpr
        bare
      have raised : middle.call = .raised .keyError none := by
        unfold step Site.patch at first
        dsimp only at first
        rw [going, there] at first
        dsimp only at first
        rw [if_neg fresh] at first
        cases first
        change patched _ = _
        unfold patched
        rw [empty]
      rcases kept.raised _ _ (run_raised raised remaining) with ⟨_, ⟨⟩, _⟩

end

/-- In every run the call keeps its promises if and only if every patch that is applied leaves
an annotation. -/
theorem annotate_kept_iff {request : Request} {start final : Site} {labels : List Label}
    (begun : start.Begun) (taken : run (step request) labels start = some final) :
    final.Kept request ↔
      GuardedRun (step request) (LeavesAny request) start labels final := by
  constructor
  · exact fun kept => guardedRun_of_kept kept taken
  · intro guarded
    exact (guarded.invariant sound_preserved begun.sound).kept

/-! ## Two calls -/

/-- A call that begins with a resource of version 7. -/
def started (resourceVersion : Option Nat) (annotations : Dict String String) : Site where
  resource := some ⟨7, annotations⟩
  newest := 7
  call := .patching resourceVersion
  moments := [some ⟨7, annotations⟩]
  applied := false

theorem begun_started (resourceVersion : Option Nat) (annotations : Dict String String) :
    (started resourceVersion annotations).Begun :=
  ⟨⟨_, rfl⟩, rfl, rfl⟩

/-- One key is removed and one is set. -/
def exchange : Request :=
  .ofList [("vif", none), ("state", some "active")]

/-- The first version is stale, and someone else writes before the second patch. -/
def conflicting : List Label :=
  [.patch, .get, .written (.ofList [("vif", "2")]), .patch, .get, .patch]

theorem annotate_kept_after_conflicts : ∃ final,
    run (step exchange) conflicting (started (some 6) (.ofList [("vif", "1")])) = some final ∧
      final.Kept exchange := by
  have ends : ∃ final,
      run (step exchange) conflicting (started (some 6) (.ofList [("vif", "1")])) =
        some final :=
    ⟨_, rfl⟩
  rcases ends with ⟨final, ran⟩
  refine ⟨final, ran, (annotate_kept_iff (begun_started _ _) ran).mpr ?_⟩
  apply (guardedRun_of_run ran).mono
  intro site label _ _ _ _ _ _ _
  exact ⟨"state", .inl ⟨"active", by decide⟩⟩

/-- The last annotation is removed, and then the call fails on the answer. -/
theorem annotate_fails_once_applied : ∃ final,
    run (step (.ofList [("vif", none)])) [.patch]
      (started (some 7) (.ofList [("vif", "1")])) = some final ∧
    final.applied ∧ final.call = .raised .keyError none ∧
    ¬final.Kept (.ofList [("vif", none)]) := by
  refine ⟨_, rfl, rfl, rfl, ?_⟩
  intro kept
  exact kept.applied rfl .keyError none rfl

end KuryrKubernetes.K8sClient.Annotate
