import Mathlib.Data.Rat.Floor
import Mathlib.Tactic.Linarith

/-!
# Retrying events

`Retry` calls a handler again for the same event as long as it fails with an exception that
may pass, until a deadline.  An attempt for an object that exists or has changed starts
with a look at whether the object is still there.
-/

namespace KuryrKubernetes.Handlers

/-- Exceptions by the classes that `Retry` tells apart. -/
inductive Raised where
  | resourceNotReady
  | connectFailure
  | connectionError
  | conflict (details : Option String)
  | k8sResourceNotFound
  | k8sClientException
  | attributeError
  | other (name : String)
  deriving DecidableEq

/-- The details of a conflict over a quota. -/
def isQuotaExceeded (details : String) : Bool :=
  "Quota exceeded for resources".toList.isPrefixOf details.toList

/-- The failures that pass. -/
def Raised.isTransient : Raised → Bool
  | resourceNotReady | connectFailure | connectionError => true
  | conflict (some details) => isQuotaExceeded details
  | _ => false

/-- `type` of an event. -/
inductive WatchType where
  | added
  | modified
  | deleted
  | other (name : String)
  deriving DecidableEq

/-- The object of an event: its `selfLink`, if there is one in its metadata. -/
structure WatchObject where
  selfLink : Option String
  deriving DecidableEq

/-- An event, as far as `Retry` reads it. -/
structure WatchEvent where
  type : Option WatchType
  object : Option WatchObject
  deriving DecidableEq

/-- The link that is looked at before the handler is called. -/
def WatchEvent.objLink (event : WatchEvent) : Option String :=
  if event.type = some .modified ∨ event.type = some .added then
    event.object.bind WatchObject.selfLink
  else
    none

/-- What an attempt meets: how `K8sClient.get` and the handler end, what the clock shows
when the attempt fails, and the random number of `exponential_sleep`. -/
structure Attempt where
  get : String → Option Raised
  handler : Option Raised
  now : ℚ
  draw : Nat

/-- When `Retry` is called, and what its attempts meet. -/
structure Course where
  start : ℚ
  attempt : Nat → Attempt

/-- `Retry`, with the exceptions that it was given. -/
structure Retry where
  exceptions : Raised → Bool
  timeout : ℚ := 500
  interval : ℚ := 3

/-- `random.randint(1, 2 ** attempt - 1)`. -/
def randint (draw attempt : Nat) : Nat :=
  1 + draw % (2 ^ attempt - 1)

/-- `exponential_sleep`: for how long it slept. -/
def exponentialSleep (deadline now interval : ℚ) (attempt draw : Nat) : ℚ :=
  if deadline - now ≤ 0 then
    0
  else
    max interval (min (deadline - now) (randint draw attempt * interval))

/-- How a call of `Retry` ends, and whether the handler is still taken for alive. -/
inductive Outcome where
  | returned
  | raised (exception : Raised) (alive : Bool)
  deriving DecidableEq

/-- The exception that leaves the call. -/
def Outcome.exception? : Outcome → Option Raised
  | returned => none
  | raised exception _ => some exception

namespace Retry

variable (retry : Retry)

/-- The handler is called in an attempt; `none` says that there is another attempt. -/
def handle (deadline : ℚ) (count : Nat) (attempt : Attempt) : Option Outcome :=
  let slept := exponentialSleep deadline attempt.now retry.interval count attempt.draw
  match attempt.handler with
  | none => some .returned
  | some (.conflict none) => some (.raised .attributeError true)
  | some (.conflict (some details)) =>
      if isQuotaExceeded details ∧ slept ≠ 0 then
        none
      else
        some (.raised (.conflict (some details)) true)
  | some exception =>
      if retry.exceptions exception ∧ slept ≠ 0 then
        none
      else
        some (.raised exception false)

/-- One turn of the loop. -/
def turn (event : WatchEvent) (deadline : ℚ) (count : Nat) (attempt : Attempt) :
    Option Outcome :=
  match event.objLink.bind attempt.get with
  | some .k8sResourceNotFound => some .returned
  | none | some .k8sClientException => retry.handle deadline count attempt
  | some exception => some (.raised exception true)

/-- The loop, from an attempt on: the last attempt, and how it ended. -/
def attempts (event : WatchEvent) (deadline : ℚ) (course : Course) :
    (fuel count : Nat) → Option (Nat × Outcome)
  | 0, _ => none
  | fuel + 1, count =>
      match retry.turn event deadline count (course.attempt count) with
      | some outcome => some (count, outcome)
      | none => attempts event deadline course fuel (count + 1)

/-- `__call__`. -/
def call (event : WatchEvent) (course : Course) (fuel : Nat) : Option (Nat × Outcome) :=
  retry.attempts event (course.start + retry.timeout) course fuel 1

end Retry

/-- The `Retry` of `ControllerPipeline._wrap_consumer`. -/
def wrapConsumer : Retry where
  exceptions
    | .resourceNotReady | .connectFailure | .connectionError => true
    | _ => false

/-! ## Single attempts -/

/-- The exception that ends an attempt: the look at the object fails, and not with an
exception of the client, or else the handler fails. -/
def Attempt.failure (attempt : Attempt) (event : WatchEvent) : Option Raised :=
  match event.objLink.bind attempt.get with
  | some .k8sResourceNotFound => none
  | none | some .k8sClientException => attempt.handler
  | some exception => some exception

/-- The look at the object fails with an exception that passes. -/
def Attempt.LookFails (attempt : Attempt) (event : WatchEvent) : Prop :=
  ∃ exception, event.objLink.bind attempt.get = some exception ∧ exception.isTransient

/-- The attempt fails for a reason that passes, before the deadline. -/
def Attempt.MayPass (attempt : Attempt) (event : WatchEvent) (deadline : ℚ) : Prop :=
  ∃ exception, attempt.failure event = some exception ∧ exception.isTransient ∧
    attempt.now < deadline

/-- The handler succeeds, or the object is gone. -/
def Attempt.Settles (attempt : Attempt) (event : WatchEvent) : Prop :=
  attempt.handler = none ∨ event.objLink.bind attempt.get = some .k8sResourceNotFound

/-- Nothing is slept from the deadline on, and something before it. -/
theorem exponentialSleep_ne_zero_iff {deadline now interval : ℚ} {attempt draw : Nat}
    (positive : 0 < interval) :
    exponentialSleep deadline now interval attempt draw ≠ 0 ↔ now < deadline := by
  unfold exponentialSleep
  split
  · rename_i expired
    constructor
    · intro slept
      exact absurd rfl slept
    · intro before
      linarith
  · rename_i left
    constructor
    · intro _
      linarith
    · intro _
      have least : interval ≤
          max interval (min (deadline - now) (randint draw attempt * interval)) :=
        le_max_left _ _
      linarith

/-- What is slept is nothing or the interval at least, and more than the time left only where
that is less than the interval. -/
theorem exponentialSleep_bounds {deadline now interval : ℚ} (attempt draw : Nat)
    (positive : 0 < interval) :
    (exponentialSleep deadline now interval attempt draw = 0 ∨
      interval ≤ exponentialSleep deadline now interval attempt draw) ∧
    (deadline - now < exponentialSleep deadline now interval attempt draw →
      deadline - now < interval) := by
  unfold exponentialSleep
  split
  · rename_i expired
    constructor
    · exact .inl rfl
    · intro _
      linarith
  · constructor
    · exact .inr (le_max_left _ _)
    · intro longer
      rcases lt_max_iff.mp longer with short | long
      · exact short
      · exact absurd long (not_lt.mpr (min_le_left _ _))

/-- Another attempt follows only before the deadline. -/
theorem turn_eq_none {retry : Retry} {event : WatchEvent} {deadline : ℚ} {count : Nat}
    {attempt : Attempt} (positive : 0 < retry.interval)
    (again : retry.turn event deadline count attempt = none) : attempt.now < deadline := by
  have handled : retry.handle deadline count attempt = none := by
    unfold Retry.turn at again
    split at again
    · cases again
    · exact again
    · exact again
    · cases again
  have slept :
      exponentialSleep deadline attempt.now retry.interval count attempt.draw ≠ 0 := by
    unfold Retry.handle at handled
    dsimp only at handled
    split at handled
    · cases handled
    · cases handled
    · split at handled
      · rename_i retried
        exact retried.2
      · cases handled
    · split at handled
      · rename_i retried
        exact retried.2
      · cases handled
  exact (exponentialSleep_ne_zero_iff positive).mp slept

/-- The handler succeeds, or it fails for a reason that passes before the deadline and is
called once more, or its exception ends the call. -/
theorem handle_cases (deadline : ℚ) (count : Nat) (attempt : Attempt) :
    (attempt.handler = none ∧
      wrapConsumer.handle deadline count attempt = some .returned) ∨
    (∃ exception, attempt.handler = some exception ∧ exception.isTransient ∧
      attempt.now < deadline ∧ wrapConsumer.handle deadline count attempt = none) ∨
    ∃ exception raised alive, attempt.handler = some exception ∧
      wrapConsumer.handle deadline count attempt = some (.raised raised alive) ∧
      (exception.isTransient ∨ raised.isTransient → raised = exception ∧
        deadline ≤ attempt.now) := by
  have slept : exponentialSleep deadline attempt.now wrapConsumer.interval count attempt.draw ≠ 0 ↔
      attempt.now < deadline :=
    exponentialSleep_ne_zero_iff (by decide)
  -- an exception that is retried as long as there is time
  have timed (exception : Raised) (retried alive : Bool)
      (given : attempt.handler = some exception) (transient : exception.isTransient = retried)
      (result : wrapConsumer.handle deadline count attempt =
        if retried ∧ exponentialSleep deadline attempt.now wrapConsumer.interval count
          attempt.draw ≠ 0 then none else some (.raised exception alive)) :
      (∃ exception, attempt.handler = some exception ∧ exception.isTransient ∧
        attempt.now < deadline ∧ wrapConsumer.handle deadline count attempt = none) ∨
      ∃ exception raised alive, attempt.handler = some exception ∧
        wrapConsumer.handle deadline count attempt = some (.raised raised alive) ∧
        (exception.isTransient ∨ raised.isTransient → raised = exception ∧
          deadline ≤ attempt.now) := by
    rw [result]
    split
    · rename_i again
      left
      exact ⟨exception, given, transient.trans again.1, slept.mp again.2, rfl⟩
    · rename_i last
      right
      refine ⟨exception, exception, alive, given, rfl, ?_⟩
      rw [or_self, transient]
      intro isRetried
      constructor
      · rfl
      · apply le_of_not_gt
        intro before
        exact last ⟨isRetried, slept.mpr before⟩
  cases given : attempt.handler with
  | none =>
      left
      unfold Retry.handle
      rw [given]
      exact ⟨rfl, rfl⟩
  | some exception =>
      right
      rw [← given]
      cases exception with
      | conflict details =>
          cases details with
          | none =>
              right
              refine ⟨_, .attributeError, true, given, ?_, ?_⟩
              · unfold Retry.handle
                rw [given]
              · rintro (transient | transient)
                · cases transient
                · cases transient
          | some details =>
              apply timed _ (isQuotaExceeded details) true given rfl
              unfold Retry.handle
              rw [given]
      | resourceNotReady | connectFailure | connectionError =>
          apply timed _ true false given rfl
          unfold Retry.handle
          rw [given]
          rfl
      | k8sResourceNotFound | k8sClientException | attributeError | other =>
          apply timed _ false false given rfl
          unfold Retry.handle
          rw [given]
          rfl

/-- The object is gone, or the handler is called, or the look at the object ends the call. -/
theorem look_cases (event : WatchEvent) (deadline : ℚ) (count : Nat) (attempt : Attempt) :
    (event.objLink.bind attempt.get = some .k8sResourceNotFound ∧
      attempt.failure event = none ∧ ¬attempt.LookFails event ∧
      wrapConsumer.turn event deadline count attempt = some .returned) ∨
    (attempt.failure event = attempt.handler ∧ ¬attempt.LookFails event ∧
      wrapConsumer.turn event deadline count attempt =
        wrapConsumer.handle deadline count attempt) ∨
    ∃ exception, attempt.failure event = some exception ∧
      (attempt.LookFails event ↔ exception.isTransient) ∧
      wrapConsumer.turn event deadline count attempt = some (.raised exception true) := by
  unfold Attempt.LookFails Attempt.failure Retry.turn
  cases look : event.objLink.bind attempt.get with
  | none =>
      right; left
      refine ⟨rfl, ?_, rfl⟩
      rintro ⟨_, ⟨⟩, _⟩
  | some exception =>
      have fails : (∃ raised, some exception = some raised ∧ raised.isTransient) ↔
          exception.isTransient := by
        simp
      rw [fails]
      cases exception with
      | k8sResourceNotFound => exact .inl ⟨rfl, rfl, by decide, rfl⟩
      | k8sClientException => exact .inr (.inl ⟨rfl, by decide, rfl⟩)
      | resourceNotReady | connectFailure | connectionError | conflict | attributeError | other =>
          exact .inr (.inr ⟨_, rfl, Iff.rfl, rfl⟩)

/-- An attempt settles the event, or it may pass and is followed by another one, or it ends
the call with an exception. -/
theorem turn_cases (event : WatchEvent) (deadline : ℚ) (count : Nat) (attempt : Attempt) :
    (attempt.Settles event ∧ attempt.failure event = none ∧ ¬attempt.LookFails event ∧
      wrapConsumer.turn event deadline count attempt = some .returned) ∨
    (attempt.MayPass event deadline ∧ ¬attempt.LookFails event ∧
      wrapConsumer.turn event deadline count attempt = none) ∨
    ∃ exception raised alive, attempt.failure event = some exception ∧
      wrapConsumer.turn event deadline count attempt = some (.raised raised alive) ∧
      (exception.isTransient ∨ raised.isTransient → raised = exception ∧
        (attempt.LookFails event ∨ deadline ≤ attempt.now)) ∧
      (attempt.LookFails event → exception.isTransient) := by
  rcases look_cases event deadline count attempt with
    ⟨gone, failure, spared, result⟩ | ⟨failure, spared, result⟩ |
      ⟨exception, failure, fails, result⟩
  · exact .inl ⟨.inr gone, failure, spared, result⟩
  · rw [failure, result]
    rcases handle_cases deadline count attempt with
      ⟨given, handled⟩ | ⟨exception, given, transient, before, handled⟩ |
        ⟨exception, raised, alive, given, handled, expired⟩
    · exact .inl ⟨.inl given, given, spared, handled⟩
    · right; left
      exact ⟨⟨exception, failure.trans given, transient, before⟩, spared, handled⟩
    · right; right
      refine ⟨exception, raised, alive, given, handled, ?_, ?_⟩
      · intro transient
        exact (expired transient).imp_right .inr
      · exact fun fails => absurd fails spared
  · right; right
    refine ⟨exception, exception, true, failure, result, ?_, fails.mp⟩
    rw [or_self]
    intro transient
    exact ⟨rfl, .inl (fails.mpr transient)⟩

/-! ## Whole calls -/

/-- The attempts before this one may all pass. -/
def Course.Reaches (course : Course) (event : WatchEvent) (deadline : ℚ) (count : Nat) : Prop :=
  ∀ earlier, 1 ≤ earlier → earlier < count →
    (course.attempt earlier).MayPass event deadline ∧
      ¬(course.attempt earlier).LookFails event

/-- Between two attempts time passes: `time.sleep` returns no earlier than asked for. -/
structure Course.Elapses (course : Course) (interval : ℚ) : Prop where
  first : course.start ≤ (course.attempt 1).now
  next : ∀ count, 1 ≤ count →
    (course.attempt count).now + interval ≤ (course.attempt (count + 1)).now

/-- The call returns only if the event is settled, raises what may pass only from the
deadline on, and goes on after a failure that may pass. -/
structure KeepsEvent (course : Course) (event : WatchEvent) (deadline : ℚ) (last : Nat)
    (outcome : Outcome) : Prop where
  settled : outcome = .returned → (course.attempt last).Settles event
  raised : ∀ exception, outcome.exception? = some exception → exception.isTransient →
    deadline ≤ (course.attempt last).now
  retried : ∀ count, 1 ≤ count → count ≤ last →
    (course.attempt count).MayPass event deadline → count < last

/-- No look at the object fails, before the deadline, for a reason that may pass. -/
def Course.SparesLook (course : Course) (event : WatchEvent) (deadline : ℚ) : Prop :=
  ∀ count, 1 ≤ count → course.Reaches event deadline count →
    (course.attempt count).LookFails event → deadline ≤ (course.attempt count).now

section

variable {course : Course} {event : WatchEvent} {deadline : ℚ} {last : Nat} {outcome : Outcome}

/-- The attempts before the last one may all pass, and it is the last one's turn that ends
the call. -/
theorem attempts_eq_some {fuel count : Nat}
    (reached : course.Reaches event deadline count)
    (ended : wrapConsumer.attempts event deadline course fuel count = some (last, outcome)) :
    count ≤ last ∧ course.Reaches event deadline last ∧
      wrapConsumer.turn event deadline last (course.attempt last) = some outcome := by
  induction fuel generalizing count with
  | zero => cases ended
  | succ fuel ih =>
      unfold Retry.attempts at ended
      cases turn : wrapConsumer.turn event deadline count (course.attempt count) with
      | some result =>
          rw [turn] at ended
          cases ended
          exact ⟨le_rfl, reached, turn⟩
      | none =>
          rw [turn] at ended
          have passed : (course.attempt count).MayPass event deadline ∧
              ¬(course.attempt count).LookFails event := by
            rcases turn_cases event deadline count (course.attempt count) with
              ⟨_, _, _, result⟩ | ⟨passes, spared, _⟩ | ⟨_, _, _, _, result, _⟩
            · rw [turn] at result
              cases result
            · exact ⟨passes, spared⟩
            · rw [turn] at result
              cases result
          have reachedNext : course.Reaches event deadline (count + 1) := by
            intro earlier first before
            rcases Nat.lt_succ_iff_lt_or_eq.mp before with older | rfl
            · exact reached earlier first older
            · exact passed
          rcases ih reachedNext ended with ⟨later, rest⟩
          exact ⟨by omega, rest⟩

/-- More turns do not change how the call ends. -/
theorem attempts_mono {retry : Retry} {fuel more count : Nat} {result : Nat × Outcome}
    (enough : fuel ≤ more)
    (ended : retry.attempts event deadline course fuel count = some result) :
    retry.attempts event deadline course more count = some result := by
  induction fuel generalizing more count with
  | zero => cases ended
  | succ fuel ih =>
      cases more with
      | zero => omega
      | succ more =>
          unfold Retry.attempts at ended ⊢
          cases turn : retry.turn event deadline count (course.attempt count) with
          | some outcome =>
              rw [turn] at ended
              exact ended
          | none =>
              rw [turn] at ended
              exact ih (by omega) ended

/-- While attempts follow each other, the clock goes on. -/
theorem Course.Elapses.now_le {interval : ℚ} (elapses : course.Elapses interval) (count : Nat) :
    course.start + count * interval ≤ (course.attempt (count + 1)).now := by
  induction count with
  | zero =>
      have first := elapses.first
      simpa using first
  | succ count ih =>
      have next := elapses.next (count + 1) (Nat.succ_pos count)
      push_cast
      linarith

/-- With enough turns there is a last attempt. -/
theorem attempts_ends {retry : Retry} (positive : 0 < retry.interval) {fuel count : Nat}
    (expired : ∀ later, count + fuel ≤ later + 1 → deadline ≤ (course.attempt later).now)
    (some_ : 0 < fuel) :
    ∃ last outcome, last < count + fuel ∧
      retry.attempts event deadline course fuel count = some (last, outcome) := by
  induction fuel generalizing count with
  | zero => omega
  | succ fuel ih =>
      unfold Retry.attempts
      cases turn : retry.turn event deadline count (course.attempt count) with
      | some outcome => exact ⟨count, outcome, by omega, rfl⟩
      | none =>
          have before := turn_eq_none positive turn
          dsimp only
          have left : 0 < fuel := by
            by_contra spent
            exact absurd before (not_lt.mpr (expired count (by omega)))
          have later : ∀ later, count + 1 + fuel ≤ later + 1 →
              deadline ≤ (course.attempt later).now :=
            fun later reaches => expired later (by omega)
          rcases ih later left with ⟨last, outcome, within, ended⟩
          exact ⟨last, outcome, by omega, ended⟩

/-- Only the look of the last attempt matters. -/
theorem sparesLook_iff (reached : course.Reaches event deadline last) (first : 1 ≤ last)
    (ends : (course.attempt last).MayPass event deadline →
      (course.attempt last).LookFails event) :
    course.SparesLook event deadline ↔
      ((course.attempt last).LookFails event → deadline ≤ (course.attempt last).now) := by
  constructor
  · exact fun spares => spares last first reached
  · intro spared count isCount reachedCount fails
    rcases Nat.lt_trichotomy count last with earlier | rfl | later
    · exact absurd fails (reached count isCount earlier).2
    · exact spared fails
    · rcases reachedCount last first later with ⟨passes, sparedLast⟩
      exact absurd (ends passes) sparedLast

/-- The last attempt keeps the event unless it ends, too early, with the look at the
object. -/
theorem keepsEvent_iff (reached : course.Reaches event deadline last) (first : 1 ≤ last)
    (ended : wrapConsumer.turn event deadline last (course.attempt last) = some outcome) :
    KeepsEvent course event deadline last outcome ↔ course.SparesLook event deadline := by
  rcases turn_cases event deadline last (course.attempt last) with
    ⟨settles, unfailing, spared, result⟩ | ⟨_, _, result⟩ |
      ⟨exception, raised, alive, failure, result, expired, fails⟩
  · rw [ended] at result
    cases result
    have never : ¬(course.attempt last).MayPass event deadline := by
      rintro ⟨exception, failure, _⟩
      rw [unfailing] at failure
      cases failure
    rw [sparesLook_iff reached first fun passes => absurd passes never]
    constructor
    · exact fun _ fails => absurd fails spared
    · intro _
      constructor
      · exact fun _ => settles
      · rintro exception ⟨⟩
      · intro count _ upTo passes
        apply lt_of_le_of_ne upTo
        rintro rfl
        exact never passes
  · rw [ended] at result
    cases result
  · rw [ended] at result
    cases result
    have ends (passes : (course.attempt last).MayPass event deadline) :
        (course.attempt last).LookFails event := by
      rcases passes with ⟨same, failureToo, transient, before⟩
      rw [failure] at failureToo
      cases failureToo
      exact (expired (.inl transient)).2.resolve_right (not_le.mpr before)
    rw [sparesLook_iff reached first ends]
    constructor
    · intro keeps looked
      have transient := fails looked
      have same := (expired (.inl transient)).1
      rw [← same] at transient
      exact keeps.raised raised rfl transient
    · intro spared
      constructor
      · rintro ⟨⟩
      · rintro _ ⟨⟩ transient
        exact (expired (.inr transient)).2.elim spared id
      · intro count _ upTo passes
        apply lt_of_le_of_ne upTo
        rintro rfl
        have due := spared (ends passes)
        rcases passes with ⟨_, _, _, before⟩
        exact absurd due (not_le.mpr before)

/-- Time passes between two attempts: the clock never goes back, and `time.sleep` returns no
earlier than asked for. -/
structure Course.Sleeps (course : Course) (retry : Retry) : Prop where
  first : course.start ≤ (course.attempt 1).now
  next : ∀ count, 1 ≤ count →
    (course.attempt count).now +
        exponentialSleep (course.start + retry.timeout) (course.attempt count).now
          retry.interval count (course.attempt count).draw ≤
      (course.attempt (count + 1)).now

/-- Each attempt before the deadline brings it nearer by the interval. -/
theorem Course.Sleeps.now_le {retry : Retry} (sleeps : course.Sleeps retry)
    (positive : 0 < retry.interval) (count : Nat) :
    course.start + count * retry.interval ≤ (course.attempt (count + 1)).now ∨
      course.start + retry.timeout ≤ (course.attempt (count + 1)).now := by
  induction count with
  | zero =>
      left
      have first := sleeps.first
      simpa using first
  | succ count ih =>
      have next := sleeps.next (count + 1) (Nat.succ_pos count)
      have slept :
          exponentialSleep (course.start + retry.timeout) (course.attempt (count + 1)).now
              retry.interval (count + 1) (course.attempt (count + 1)).draw = 0 ∨
            retry.interval ≤ exponentialSleep (course.start + retry.timeout)
              (course.attempt (count + 1)).now retry.interval (count + 1)
              (course.attempt (count + 1)).draw :=
        (exponentialSleep_bounds _ _ positive).1
      rcases ih with before | due
      · rcases slept with spent | long
        · right
          have due : course.start + retry.timeout ≤ (course.attempt (count + 1)).now := by
            by_contra left
            exact (exponentialSleep_ne_zero_iff positive).mpr (not_le.mp left) spent
          linarith
        · left
          push_cast
          linarith
      · right
        rcases slept with spent | long
        · linarith
        · linarith

end

/-- A call ends after at most `ceil(timeout / interval) + 1` attempts, and what is slept
between them is nothing or the interval at least, and more than the time left only where that
is less than the interval. -/
theorem retry_stops (retry : Retry) (event : WatchEvent) (course : Course)
    (positive : 0 < retry.interval) (sleeps : course.Sleeps retry) :
    (∃ last outcome, last ≤ ⌈retry.timeout / retry.interval⌉₊ + 1 ∧
      ∀ fuel, ⌈retry.timeout / retry.interval⌉₊ + 1 ≤ fuel →
        retry.call event course fuel = some (last, outcome)) ∧
    ∀ deadline now attempt draw,
      (exponentialSleep deadline now retry.interval attempt draw = 0 ∨
        retry.interval ≤ exponentialSleep deadline now retry.interval attempt draw) ∧
      (deadline - now < exponentialSleep deadline now retry.interval attempt draw →
        deadline - now < retry.interval) := by
  constructor
  · have expired (later : Nat)
        (reaches : 1 + (⌈retry.timeout / retry.interval⌉₊ + 1) ≤ later + 1) :
        course.start + retry.timeout ≤ (course.attempt later).now := by
      rcases Nat.exists_eq_add_of_le reaches with ⟨more, sum⟩
      have isNext : later = ⌈retry.timeout / retry.interval⌉₊ + more + 1 := by omega
      have enough : retry.timeout / retry.interval ≤
          (⌈retry.timeout / retry.interval⌉₊ + more : Nat) :=
        (Nat.le_ceil _).trans (Nat.cast_le.mpr (Nat.le_add_right _ _))
      rw [isNext]
      rcases sleeps.now_le positive (⌈retry.timeout / retry.interval⌉₊ + more) with
        passed | due
      · have covered := (div_le_iff₀ positive).mp enough
        linarith
      · exact due
    rcases attempts_ends positive expired (Nat.succ_pos _) with ⟨last, outcome, within, ended⟩
    exact ⟨last, outcome, by omega, fun fuel enough => attempts_mono enough ended⟩
  · exact fun deadline now attempt draw => exponentialSleep_bounds attempt draw positive

/-- A call ends after at most 168 attempts, and it keeps the event if and only if no look at
the object fails, before the deadline, for a reason that passes. -/
theorem retry_keeps_event_iff (event : WatchEvent) (course : Course)
    (elapses : course.Elapses wrapConsumer.interval) :
    ∃ last outcome,
      (∀ fuel, 168 ≤ fuel → wrapConsumer.call event course fuel = some (last, outcome)) ∧
      (KeepsEvent course event (course.start + wrapConsumer.timeout) last outcome ↔
        course.SparesLook event (course.start + wrapConsumer.timeout)) := by
  have expired (later : Nat) (reaches : 1 + 168 ≤ later + 1) :
      course.start + wrapConsumer.timeout ≤ (course.attempt later).now := by
    rcases Nat.exists_eq_add_of_le reaches with ⟨more, sum⟩
    have isNext : later = 167 + more + 1 := by omega
    have passed := elapses.now_le (167 + more)
    rw [← isNext] at passed
    have nonneg : (0 : ℚ) ≤ more := Nat.cast_nonneg more
    have timeout : wrapConsumer.timeout = 500 := rfl
    have interval : wrapConsumer.interval = 3 := rfl
    rw [interval] at passed
    rw [timeout]
    push_cast at passed
    linarith
  have positive : 0 < wrapConsumer.interval := by decide
  rcases attempts_ends positive expired (by decide) with ⟨last, outcome, _, ended⟩
  have reachesFirst : course.Reaches event (course.start + wrapConsumer.timeout) 1 := by
    intro earlier first before
    omega
  rcases attempts_eq_some reachesFirst ended with ⟨first, reached, turn⟩
  exact ⟨last, outcome, fun fuel enough => attempts_mono enough ended,
    keepsEvent_iff reached first turn⟩

/-- The handler fails twice, the second time with a conflict over a quota, and then
succeeds. -/
def thirdTime : Course where
  start := 0
  attempt count :=
    { get := fun _ => if count = 2 then some .k8sClientException else none
      handler :=
        if count = 1 then some .resourceNotReady
        else if count = 2 then some (.conflict (some "Quota exceeded for resources: ['port']"))
        else none
      now := 5 * count
      draw := 0 }

/-- An event of a pod that was added. -/
def podAdded : WatchEvent where
  type := some .added
  object := some { selfLink := some "/api/v1/namespaces/default/pods/web-0" }

theorem retry_keeps_event_third_time : ∃ last outcome,
    (∀ fuel, 168 ≤ fuel → wrapConsumer.call podAdded thirdTime fuel = some (last, outcome)) ∧
    KeepsEvent thirdTime podAdded (thirdTime.start + wrapConsumer.timeout) last outcome := by
  have elapses : thirdTime.Elapses wrapConsumer.interval := by
    constructor
    · change (0 : ℚ) ≤ 5 * ((1 : Nat) : ℚ)
      norm_num
    · intro count _
      change 5 * (count : ℚ) + 3 ≤ 5 * ((count + 1 : Nat) : ℚ)
      push_cast
      linarith
  rcases retry_keeps_event_iff podAdded thirdTime elapses with ⟨last, outcome, ended, keeps⟩
  refine ⟨last, outcome, ended, keeps.mpr ?_⟩
  rintro count _ _ ⟨exception, look, transient⟩
  change (if count = 2 then some Raised.k8sClientException else none) = some exception at look
  split at look
  · cases look
    cases transient
  · cases look

/-- The first look at a pod fails because there is no connection. -/
def unconnected : Course where
  start := 0
  attempt _ := { get := fun _ => some .connectionError, handler := none, now := 1, draw := 0 }

/-- The call raises at once, though the failure passes and there is time. -/
theorem retry_loses_event :
    wrapConsumer.call podAdded unconnected 168 = some (1, .raised .connectionError true) ∧
      Raised.connectionError.isTransient ∧
      ¬KeepsEvent unconnected podAdded (unconnected.start + wrapConsumer.timeout) 1
        (.raised .connectionError true) := by
  refine ⟨by decide, rfl, ?_⟩
  intro keeps
  have due : (0 : ℚ) + 500 ≤ 1 := keeps.raised .connectionError rfl rfl
  norm_num at due

/-- A `Retry` of what is not ready, with time for three intervals. -/
def impatient : Retry where
  exceptions exception := exception = .resourceNotReady
  timeout := 7
  interval := 3

/-- The handler is never ready, and the least is slept. -/
def neverReady : Course where
  start := 0
  attempt count :=
    { get := fun _ => none, handler := some .resourceNotReady, now := 3 * count - 3, draw := 0 }

theorem retry_stops_never_ready : ∃ last outcome, last ≤ 4 ∧
    ∀ fuel, 4 ≤ fuel → impatient.call podAdded neverReady fuel = some (last, outcome) := by
  have positive : 0 < impatient.interval := by decide
  have sleeps : neverReady.Sleeps impatient := by
    constructor
    · change (0 : ℚ) ≤ 3 * ((1 : Nat) : ℚ) - 3
      norm_num
    · intro count _
      have slept : exponentialSleep (0 + 7) (3 * count - 3) 3 count 0 ≤ 3 := by
        unfold exponentialSleep
        split
        · norm_num
        · apply max_le le_rfl
          apply (min_le_right _ _).trans
          simp [randint]
      change 3 * (count : ℚ) - 3 + exponentialSleep (0 + 7) (3 * count - 3) 3 count 0 ≤
        3 * ((count + 1 : Nat) : ℚ) - 3
      push_cast
      linarith
  have turns : ⌈impatient.timeout / impatient.interval⌉₊ = 3 := by
    apply (Nat.ceil_eq_iff (by decide)).mpr
    change ((3 - 1 : Nat) : ℚ) < 7 / 3 ∧ (7 : ℚ) / 3 ≤ ((3 : Nat) : ℚ)
    norm_num
  have stops := (retry_stops impatient podAdded neverReady positive sleeps).1
  rw [turns] at stops
  exact stops

end KuryrKubernetes.Handlers
