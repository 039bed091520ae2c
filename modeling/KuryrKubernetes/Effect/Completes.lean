import KuryrKubernetes.Effect.Returns

/-!
# Programs that complete

From every state with a property, a program completes within a frame if it returns, in a
related state, and the value and that state have another property.  Where it may raise it
is left open whether it returns.  What the frame preserves need not be carried through the
rules: it is added at the end.
-/

namespace KuryrKubernetes.Effect

universe u

variable {ε σ α β ι : Type u}

namespace Frame

/-- From a state with `pre`, `program` returns within the frame and with `post`, or raises
if it may. -/
def Completes (frame : Frame σ) (mayRaise : Prop) (pre : σ → Prop) (program : Program ε σ α)
    (post : α → σ → Prop) : Prop :=
  ∀ before, pre before →
    (∃ value after, exec program before = (.ok value, after) ∧
      frame.rel before after ∧ post value after) ∨
    mayRaise ∧ ∃ exception after, exec program before = (.error exception, after)

variable {frame : Frame σ} {mayRaise : Prop} {pre : σ → Prop} {post : α → σ → Prop}

theorem completes_pure {value : α} (holds : ∀ state, pre state → post value state) :
    frame.Completes mayRaise pre (pure value : Program ε σ α) post := by
  intro before given
  exact .inl ⟨value, before, rfl, frame.refl before, holds before given⟩

theorem completes_throw (exception : ε) (may : mayRaise) :
    frame.Completes mayRaise pre (throw exception : Program ε σ α) post := by
  intro before _
  exact .inr ⟨may, exception, before, rfl⟩

theorem Completes.bind {mid : α → σ → Prop} {last : β → σ → Prop} {first : Program ε σ α}
    {next : α → Program ε σ β} (head : frame.Completes mayRaise pre first mid)
    (tail : ∀ value, frame.Completes mayRaise (mid value) (next value) last) :
    frame.Completes mayRaise pre (first >>= next) last := by
  intro before given
  rcases head before given with ⟨value, middle, ran, moved, reached⟩ | ⟨may, exception, after, ran⟩
  · rw [exec_bind_of_ok ran]
    rcases tail value middle reached with ⟨result, after, ranOn, movedOn, holds⟩ | raised
    · exact .inl ⟨result, after, ranOn, frame.trans moved movedOn, holds⟩
    · exact .inr raised
  · exact .inr ⟨may, exception, after, exec_bind_of_error ran⟩

theorem Completes.mono {weaker : α → σ → Prop} {program : Program ε σ α}
    (completes : frame.Completes mayRaise pre program post)
    (implies : ∀ value state, post value state → weaker value state) :
    frame.Completes mayRaise pre program weaker := by
  intro before given
  rcases completes before given with ⟨value, after, ran, moved, reached⟩ | raised
  · exact .inl ⟨value, after, ran, moved, implies value after reached⟩
  · exact .inr raised

theorem Completes.weaken {stronger : σ → Prop} {program : Program ε σ α}
    (completes : frame.Completes mayRaise pre program post)
    (implies : ∀ state, stronger state → pre state) :
    frame.Completes mayRaise stronger program post :=
  fun before given => completes before (implies before given)

/-- What the frame preserves is still there at the end. -/
theorem Completes.keeping {fact : σ → Prop} {program : Program ε σ α}
    (completes : frame.Completes mayRaise pre program post)
    (preserved : ∀ before after, frame.rel before after → fact before → fact after) :
    frame.Completes mayRaise (fun state => pre state ∧ fact state) program
      (fun value state => post value state ∧ fact state) := by
  intro before given
  rcases completes before given.1 with ⟨value, after, ran, moved, reached⟩ | raised
  · exact .inl ⟨value, after, ran, moved, reached, preserved before after moved given.2⟩
  · exact .inr raised

/-- A fact that does not depend on the state. -/
theorem Completes.of_fact {fact : Prop} {program : Program ε σ α}
    (completes : fact → frame.Completes mayRaise pre program post) :
    frame.Completes mayRaise (fun state => fact ∧ pre state) program post :=
  fun before given => completes given.1 before given.2

/-- What follows a computation without state. -/
theorem Completes.settle_bind {outcome : Except ε α} {last : β → σ → Prop}
    {next : α → Program ε σ β} (may : ∀ exception, outcome = .error exception → mayRaise)
    (tail : ∀ value, outcome = .ok value → frame.Completes mayRaise pre (next value) last) :
    frame.Completes mayRaise pre (settle outcome >>= next) last := by
  intro before given
  cases outcome with
  | ok value =>
      rw [settle_ok, exec_pure_bind]
      exact tail value rfl before given
  | error exception =>
      rw [settle_error, exec_throw_bind]
      exact .inr ⟨may exception rfl, exception, before, rfl⟩

/-- A loop whose turns all complete. -/
theorem Completes.forM {body : ι → Program ε σ PUnit} {items : List ι}
    (each : ∀ item ∈ items, frame.Completes mayRaise pre (body item) fun _ => pre) :
    frame.Completes mayRaise pre (items.forM body) fun _ => pre := by
  induction items with
  | nil => exact completes_pure fun _ given => given
  | cons item rest ih =>
      rw [forM_cons_eq]
      apply (each item List.mem_cons_self).bind
      intro _
      exact ih fun other member => each other (List.mem_cons_of_mem item member)

/-- A program that returned did so as it completes. -/
theorem Completes.post_of_ok {program : Program ε σ α}
    (completes : frame.Completes mayRaise pre program post) {before after : σ} {value : α}
    (given : pre before) (ran : exec program before = (.ok value, after)) :
    frame.rel before after ∧ post value after := by
  rcases completes before given with ⟨found, middle, ended, moved, reached⟩ | ⟨_, _, _, raised⟩
  · rw [ended] at ran
    cases ran
    exact ⟨moved, reached⟩
  · rw [raised] at ran
    cases ran

/-- A program that may not raise returns. -/
theorem Completes.returns {program : Program ε σ α}
    (completes : frame.Completes False pre program post) {before : σ} (given : pre before) :
    ∃ value after, exec program before = (.ok value, after) ∧
      frame.rel before after ∧ post value after :=
  (completes before given).resolve_right fun raised => raised.1

end Frame

end KuryrKubernetes.Effect
