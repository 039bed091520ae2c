import KuryrKubernetes.Effect.Ensures
import KuryrKubernetes.Effect.Returns

/-!
# Where programs lead

A program leads from the states before it to the states after it, with one assertion for
its results and one for its exceptions.  The rules follow the constructors of programs.
-/

namespace KuryrKubernetes.Effect

universe u

variable {ε σ α β ι : Type u}

/-- From the states in `pre` the program returns into `post` or raises into `escape`. -/
def Leads (pre : σ → Prop) (program : Program ε σ α) (post : α → σ → Prop)
    (escape : ε → σ → Prop) : Prop :=
  ∀ before, pre before →
    (∀ value after, exec program before = (.ok value, after) → post value after) ∧
      ∀ exception after, exec program before = (.error exception, after) →
        escape exception after

variable {pre : σ → Prop} {post : α → σ → Prop} {escape : ε → σ → Prop}

theorem leads_pure {value : α} (holds : ∀ state, pre state → post value state) :
    Leads pre (pure value : Program ε σ α) post escape := by
  intro before given
  constructor
  · intro result after ran
    cases ran
    exact holds before given
  · intro exception after ran
    cases ran

theorem leads_throw {exception : ε} (holds : ∀ state, pre state → escape exception state) :
    Leads pre (throw exception : Program ε σ α) post escape := by
  intro before given
  constructor
  · intro result after ran
    cases ran
  · intro raised after ran
    cases ran
    exact holds before given

theorem Leads.bind {mid : β → σ → Prop} {first : Program ε σ β} {next : β → Program ε σ α}
    (head : Leads pre first mid escape) (tail : ∀ value, Leads (mid value) (next value) post escape) :
    Leads pre (first >>= next) post escape := by
  intro before given
  rcases head before given with ⟨returns, raises⟩
  rcases ran : exec first before with ⟨outcome, middle⟩
  cases outcome with
  | ok value =>
      rw [exec_bind_of_ok ran]
      exact tail value middle (returns value middle ran)
  | error exception =>
      rw [exec_bind_of_error ran]
      constructor
      · intro result after ended
        cases ended
      · intro raised after ended
        cases ended
        exact raises exception middle ran

/-- The exceptions of the first program are those of the whole. -/
theorem Leads.bind_of {mid : β → σ → Prop} {raised : ε → σ → Prop} {first : Program ε σ β}
    {next : β → Program ε σ α} (head : Leads pre first mid raised)
    (escapes : ∀ exception state, raised exception state → escape exception state)
    (tail : ∀ value, Leads (mid value) (next value) post escape) :
    Leads pre (first >>= next) post escape := by
  have whole : Leads pre first mid escape := by
    intro before given
    rcases head before given with ⟨returns, raises⟩
    exact ⟨returns, fun exception after ran => escapes exception after (raises exception after ran)⟩
  exact whole.bind tail

/-- The handler starts where the body raised. -/
theorem Leads.tryCatch {caught : ε → σ → Prop} {body : Program ε σ α}
    {handler : ε → Program ε σ α} (head : Leads pre body post caught)
    (tail : ∀ exception, Leads (caught exception) (handler exception) post escape) :
    Leads pre (tryCatch body handler) post escape := by
  intro before given
  rcases head before given with ⟨returns, raises⟩
  rw [exec_tryCatch]
  rcases ran : exec body before with ⟨outcome, middle⟩
  cases outcome with
  | ok value =>
      constructor
      · intro result after ended
        cases ended
        exact returns value middle ran
      · intro raised after ended
        cases ended
  | error exception => exact tail exception middle (raises exception middle ran)

theorem Leads.weaken {stronger : σ → Prop} {program : Program ε σ α}
    (leads : Leads pre program post escape) (implies : ∀ state, stronger state → pre state) :
    Leads stronger program post escape :=
  fun before given => leads before (implies before given)

theorem Leads.mono {weaker : α → σ → Prop} {wider : ε → σ → Prop} {program : Program ε σ α}
    (leads : Leads pre program post escape)
    (implies : ∀ value state, post value state → weaker value state)
    (escapes : ∀ exception state, escape exception state → wider exception state) :
    Leads pre program weaker wider := by
  intro before given
  rcases leads before given with ⟨returns, raises⟩
  constructor
  · intro value after ran
    exact implies value after (returns value after ran)
  · intro exception after ran
    exact escapes exception after (raises exception after ran)

/-- Two assertions about one program. -/
theorem Leads.both {pre' : σ → Prop} {post' : α → σ → Prop} {escape' : ε → σ → Prop}
    {program : Program ε σ α} (left : Leads pre program post escape)
    (right : Leads pre' program post' escape') :
    Leads (fun state => pre state ∧ pre' state) program
      (fun value state => post value state ∧ post' value state)
      fun exception state => escape exception state ∧ escape' exception state := by
  intro before given
  obtain ⟨returns, raises⟩ := left before given.1
  obtain ⟨returnsToo, raisesToo⟩ := right before given.2
  constructor
  · intro value after ran
    exact ⟨returns value after ran, returnsToo value after ran⟩
  · intro exception after ran
    exact ⟨raises exception after ran, raisesToo exception after ran⟩

/-- What follows a computation without state. -/
theorem Leads.settle_bind {outcome : Except ε β} {next : β → Program ε σ α}
    (raises : ∀ exception, outcome = .error exception → ∀ state, pre state →
      escape exception state)
    (tail : ∀ value, outcome = .ok value → Leads pre (next value) post escape) :
    Leads pre (settle outcome >>= next) post escape := by
  cases outcome with
  | ok value =>
      intro before given
      rw [settle_ok, exec_pure_bind]
      exact tail value rfl before given
  | error exception =>
      intro before given
      rw [settle_error, exec_throw_bind]
      exact leads_throw (raises exception rfl) before given

/-- A loop whose turns all keep the assertion. -/
theorem Leads.forM {body : ι → Program ε σ PUnit} {items : List ι}
    (each : ∀ item ∈ items, Leads pre (body item) (fun _ => pre) escape) :
    Leads pre (items.forM body) (fun _ => pre) escape := by
  induction items with
  | nil => exact leads_pure fun _ given => given
  | cons item rest ih =>
      rw [forM_cons_eq]
      apply (each item List.mem_cons_self).bind
      intro _
      exact ih fun other member => each other (List.mem_cons_of_mem item member)

/-- A fact that does not depend on the state. -/
theorem Leads.of_fact {fact : Prop} {program : Program ε σ α}
    (leads : fact → Leads pre program post escape) :
    Leads (fun state => fact ∧ pre state) program post escape :=
  fun before given => leads given.1 before given.2

/-- A program that ensures its results within a frame leads to where the frame leads. -/
theorem Frame.Ensures.leads {frame : Frame σ} {holds : α → Prop} {program : Program ε σ α}
    (ensured : frame.Ensures program holds)
    (returns : ∀ value before after, pre before → frame.rel before after → holds value →
      post value after)
    (raises : ∀ exception before after, pre before → frame.rel before after →
      escape exception after) : Leads pre program post escape := by
  intro before given
  rcases ensured before with ⟨moved, value⟩
  constructor
  · intro result after ran
    rw [ran] at moved value
    exact returns result before after given moved (value result rfl)
  · intro exception after ran
    rw [ran] at moved
    exact raises exception before after given moved

end KuryrKubernetes.Effect
