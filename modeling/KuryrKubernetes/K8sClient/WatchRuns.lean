import KuryrKubernetes.K8sClient.Watch

/-!
# What a watch delivers

After a reconnection the server replays what lies above the last version yielded.
The existing objects come first and in no order of versions, so a connection lost
among them leaves those with lower versions behind for good.  Where every
reconnection asks for a version below all that is missing, each object and each later
event is yielded or on its way, and the later events come in the order of the server.
-/

namespace KuryrKubernetes.K8sClient

open KuryrKubernetes.Data
open KuryrKubernetes.Transition

/-- An event, or the state of the object that it leaves, has been yielded. -/
def Watch.Delivered (watch : Watch) (event : Event) : Prop :=
  ∃ line ∈ watch.yielded, line.metadata = some ⟨event.name, some event.version⟩

instance (watch : Watch) (event : Event) : Decidable (watch.Delivered event) :=
  inferInstanceAs (Decidable (∃ line ∈ watch.yielded, _))

/-- The condition on a step.  A connection is opened again only where everything
missing has a version above that of the last line, or, with no line yielded yet,
where every object to be sent still is in the same state.  Connections end in one of
the ways after which `watch` goes on. -/
def Resumable (world : World) : Label → Prop
  | .connect _ =>
      match world.client.yielded.getLast? with
      | none => ∀ event ∈ world.due.getD [], event ∈ existing world.history
      | some last =>
          ∀ event ∈ world.due.getD [], ¬ world.client.Delivered event →
            ∀ version ∈ last.resourceVersion, version < event.version
  | .disconnect disconnection => disconnection.retried = true
  | .refuse => False
  | .commit _ | .deliver | .keepAlive => True

instance (world : World) : (label : Label) → Decidable (Resumable world label)
  | .connect _ =>
      match yielded : world.client.yielded.getLast? with
      | none =>
          decidable_of_iff (∀ event ∈ world.due.getD [], event ∈ existing world.history)
            (by simp [Resumable, yielded])
      | some last =>
          decidable_of_iff
            (∀ event ∈ world.due.getD [], ¬ world.client.Delivered event →
              ∀ version ∈ last.resourceVersion.toList, version < event.version)
            (by simp [Resumable, yielded])
  | .disconnect disconnection => inferInstanceAs (Decidable (disconnection.retried = true))
  | .refuse => isFalse fun impossible => impossible
  | .commit _ | .deliver | .keepAlive => isTrue trivial

namespace World

/-- Everything due is yielded or will be sent over the open connection. -/
def Coming (world : World) : Prop :=
  ∀ stream, world.stream = some stream → ∀ event ∈ world.due.getD [],
    world.client.Delivered event ∨ ∃ sent ∈ stream, sent.Shows event

/-- The lines yielded are some of the existing objects followed by events in the order
of the server. -/
def InServerOrder (world : World) : Prop :=
  ∃ first later, world.client.yielded = (first ++ later).map Event.line ∧
    first <+: world.burst ∧ later.Sublist world.history

/-- The same with what is on its way: the rest of the existing objects, then events. -/
def Ordered (world : World) : Prop :=
  ∃ first later, world.client.yielded = (first ++ later).map Event.line ∧
    match world.stream with
    | none => first <+: world.burst ∧ later.Sublist world.history
    | some stream =>
        ∃ rest tail, stream = rest ++ tail ∧ first ++ rest <+: world.burst ∧
          (rest = [] ∨ later = []) ∧ (later ++ tail).Sublist world.history

/-- What every resumable step preserves. -/
structure Sound (world : World) : Prop where
  increasing : IncreasingBy Event.version world.history
  dueHappened : ∀ event ∈ world.due.getD [], event ∈ world.history
  unstarted : world.due = none → world.stream = none ∧ world.client.yielded = []
  resume : world.client.resourceVersion =
    world.client.yielded.getLast?.bind LineDict.resourceVersion
  coming : world.Coming
  ordered : world.Ordered

end World

/-! ## The initial list -/

theorem mem_existing {history : List Event} {event : Event} (member : event ∈ existing history) :
    event ∈ history :=
  List.mem_of_mem_filter member

/-- Every existing object is in the list that a connection starts with. -/
theorem shows_of_existing {history burst : List Event} {event : Event}
    (sent : burst.Perm ((existing history).map Event.synthetic))
    (member : event ∈ existing history) : ∃ shown ∈ burst, shown.Shows event :=
  ⟨event.synthetic, sent.mem_iff.mpr (List.mem_map_of_mem member), rfl, rfl⟩

namespace Watch

theorem delivered_receive_of_shows {watch : Watch} {sent event : Event}
    (shows_it : sent.Shows event) : (watch.receive (some sent.line)).Delivered event := by
  have same : sent.line.metadata = some ⟨event.name, some event.version⟩ := by
    rw [← shows_it.1, ← shows_it.2]
    rfl
  exact ⟨sent.line, List.mem_append_right _ List.mem_cons_self, same⟩

theorem Delivered.receive {watch : Watch} {event : Event} (delivered : watch.Delivered event)
    (line : Option LineDict) : (watch.receive line).Delivered event := by
  obtain ⟨seen, yielded, same⟩ := delivered
  cases line with
  | none => exact ⟨seen, yielded, same⟩
  | some line => exact ⟨seen, List.mem_append_left [line] yielded, same⟩

end Watch

namespace World

/-! ## Steps -/

theorem sound_start {history : List Event} (increasing : IncreasingBy Event.version history) :
    (start history).Sound where
  increasing := increasing
  dueHappened := by simp [start]
  unstarted := by simp [start]
  resume := rfl
  coming := by
    intro stream open_
    cases open_
  ordered := ⟨[], [], rfl, List.nil_prefix, List.nil_sublist history⟩

theorem Sound.commit {world after : World} {event : Event} (sound : world.Sound)
    (taken : world.commit event = some after) : after.Sound := by
  simp only [World.commit, Option.ite_none_right_eq_some, Option.some.injEq] at taken
  obtain ⟨above, rfl⟩ := taken
  have extended : world.history.Sublist (world.history ++ [event]) :=
    List.sublist_append_left _ _
  constructor
  · exact sound.increasing.snoc above
  · intro other due
    cases asked : world.due with
    | none =>
        simp [asked] at due
    | some events =>
        simp only [asked, Option.map_some, Option.getD_some, List.mem_append,
          List.mem_singleton] at due
        rcases due with earlier | same
        · have happened := sound.dueHappened other (by simpa [asked] using earlier)
          exact List.mem_append_left _ happened
        · exact List.mem_append_right _ (List.mem_singleton.mpr same)
  · intro unasked
    have unstarted := sound.unstarted (Option.map_eq_none_iff.mp unasked)
    exact ⟨Option.map_eq_none_iff.mpr unstarted.1, unstarted.2⟩
  · exact sound.resume
  · intro stream connected other due
    obtain ⟨old, wasOpen, rfl⟩ := Option.map_eq_some_iff.mp connected
    cases asked : world.due with
    | none =>
        rw [(sound.unstarted asked).1] at wasOpen
        cases wasOpen
    | some events =>
        simp only [asked, Option.map_some, Option.getD_some, List.mem_append,
          List.mem_singleton] at due
        rcases due with earlier | rfl
        · rcases sound.coming old wasOpen other (by simpa [asked] using earlier) with
            delivered | ⟨sent, member, shown⟩
          · exact .inl delivered
          · exact .inr ⟨sent, List.mem_append_left _ member, shown⟩
        · exact .inr ⟨other, List.mem_append_right _ List.mem_cons_self, rfl, rfl⟩
  · obtain ⟨first, later, yielded, order⟩ := sound.ordered
    refine ⟨first, later, yielded, ?_⟩
    cases wasOpen : world.stream with
    | none =>
        rw [wasOpen] at order
        exact ⟨order.1, order.2.trans extended⟩
    | some stream =>
        rw [wasOpen] at order
        obtain ⟨rest, tail, rfl, begun, apart, order⟩ := order
        refine ⟨rest, tail ++ [event], by simp, begun, apart, ?_⟩
        rw [← List.append_assoc]
        exact order.append_right [event]

/-- What lies above the last line continues the lines yielded. -/
theorem Ordered.replay {world : World} (ordered : world.Ordered) (idle : world.stream = none)
    (increasing : IncreasingBy Event.version world.history) {last : LineDict} {version : Nat}
    (final : world.client.yielded.getLast? = some last)
    (saved : last.resourceVersion = some version) :
    ∃ first later, world.client.yielded = (first ++ later).map Event.line ∧
      first <+: world.burst ∧
      (later ++ Data.replay Event.version version world.history).Sublist world.history := by
  obtain ⟨first, later, yielded, order⟩ := ordered
  rw [idle] at order
  refine ⟨first, later, yielded, order.1, ?_⟩
  apply increasing.append_replay_sublist order.2
  intro event member
  rcases List.eq_nil_or_concat' later with rfl | ⟨front, newest, rfl⟩
  · cases member
  · have known : last = newest.line := by
      rw [yielded, ← List.append_assoc, List.map_append, List.map_singleton,
        List.getLast?_concat] at final
      exact (Option.some.inj final).symm
    have sameVersion : newest.version = version := by
      rw [known] at saved
      exact Option.some.inj saved
    rw [← sameVersion]
    have sorted : IncreasingBy Event.version (front ++ [newest]) := increasing.sublist order.2
    exact sorted.le_getLast List.getLast?_concat event member

theorem Sound.connect {world after : World} {burst : List Event} (sound : world.Sound)
    (resumable : Resumable world (.connect burst)) (taken : world.connect burst = some after) :
    after.Sound := by
  unfold World.connect at taken
  split at taken
  · rename_i idle
    have happened : ∀ event ∈ world.due.getD (existing world.history), event ∈ world.history := by
      intro event due
      cases asked : world.due with
      | none =>
          rw [asked] at due
          exact mem_existing due
      | some events =>
          rw [asked] at due
          exact sound.dueHappened event (by rw [asked]; exact due)
    dsimp only at taken
    split at taken
    · rename_i fresh
      split at taken
      · rename_i sent
        cases taken
        have unread : world.client.yielded = [] := by
          obtain ⟨first, later, yielded, _⟩ := sound.ordered
          rcases List.eq_nil_or_concat' (first ++ later) with none_yet | ⟨front, newest, some_⟩
          · rw [yielded, none_yet]
            rfl
          · have saved := sound.resume
            rw [fresh, yielded, some_, List.map_append, List.map_singleton,
              List.getLast?_concat] at saved
            cases saved
        constructor
        · exact sound.increasing
        · exact happened
        · rintro ⟨⟩
        · exact sound.resume
        · intro stream connected event due
          cases connected
          right
          apply shows_of_existing sent
          simp only [Option.getD_some] at due
          cases asked : world.due with
          | none =>
              rw [asked] at due
              exact due
          | some events =>
              rw [asked] at due
              simp only [Resumable, unread, List.getLast?_nil, asked, Option.getD_some] at resumable
              exact resumable event due
        · refine ⟨[], [], unread, burst, [], (List.append_nil _).symm, ?_, .inr rfl, ?_⟩
          · exact List.prefix_refl burst
          · exact List.nil_sublist _
      · cases taken
    · rename_i version saved
      cases taken
      have resumed := sound.resume
      rw [saved] at resumed
      obtain ⟨last, final, known⟩ := Option.bind_eq_some_iff.mp resumed.symm
      constructor
      · exact sound.increasing
      · exact happened
      · rintro ⟨⟩
      · exact sound.resume
      · intro stream connected event due
        cases connected
        by_cases delivered : world.client.Delivered event
        · exact .inl delivered
        · right
          have above : version < event.version := by
            simp only [Resumable, final] at resumable
            cases asked : world.due with
            | none =>
                rw [(sound.unstarted asked).2] at final
                cases final
            | some events =>
                rw [asked] at resumable due
                exact resumable event due delivered version known
          exact ⟨event, mem_replay.mpr ⟨happened event due, above⟩, rfl, rfl⟩
      · obtain ⟨first, later, yielded, begun, order⟩ :=
          sound.ordered.replay idle.1 sound.increasing final known
        refine ⟨first, later, yielded, [], _, rfl, ?_, .inl rfl, order⟩
        rw [List.append_nil]
        exact begun
  · cases taken

theorem Sound.deliver {world after : World} (sound : world.Sound)
    (taken : world.deliver = some after) : after.Sound := by
  unfold World.deliver at taken
  split at taken
  · rename_i event rest connected
    cases taken
    constructor
    · exact sound.increasing
    · exact sound.dueHappened
    · intro unasked
      rw [(sound.unstarted unasked).1] at connected
      cases connected
    · simp [Watch.receive]
    · intro stream same other due
      cases same
      rcases sound.coming _ connected other due with delivered | ⟨sent, member, shown⟩
      · exact .inl (delivered.receive _)
      · rcases List.mem_cons.mp member with rfl | later
        · exact .inl (Watch.delivered_receive_of_shows shown)
        · exact .inr ⟨sent, later, shown⟩
    · obtain ⟨first, later, yielded, order⟩ := sound.ordered
      rw [connected] at order
      obtain ⟨remaining, tail, split, begun, apart, order⟩ := order
      cases remaining with
      | nil =>
          rw [List.nil_append] at split
          subst tail
          refine ⟨first, later ++ [event], ?_, [], rest, rfl, begun, .inl rfl, ?_⟩
          · simp [Watch.receive, yielded]
          · rw [List.append_assoc]
            exact order
      | cons object more =>
          obtain ⟨rfl, rfl⟩ := List.cons.inj split
          have unread : later = [] := by
            rcases apart with absurd_ | unread
            · cases absurd_
            · exact unread
          subst later
          refine ⟨first ++ [event], [], ?_, more, tail, rfl, ?_, .inr rfl, order⟩
          · simp [Watch.receive, yielded]
          · rw [List.append_assoc]
            exact begun
  · cases taken

theorem Sound.disconnect {world : World} (sound : world.Sound) (disconnection : Disconnection) :
    Sound
      { world with
        stream := none
        client := world.client.interrupted disconnection } where
  increasing := sound.increasing
  dueHappened := sound.dueHappened
  unstarted unasked := ⟨rfl, (sound.unstarted unasked).2⟩
  resume := sound.resume
  coming := by
    intro stream connected
    cases connected
  ordered := by
    obtain ⟨first, later, yielded, order⟩ := sound.ordered
    refine ⟨first, later, yielded, ?_⟩
    cases wasOpen : world.stream with
    | none =>
        rw [wasOpen] at order
        exact order
    | some stream =>
        rw [wasOpen] at order
        obtain ⟨rest, tail, _, begun, _, order⟩ := order
        exact ⟨(List.prefix_append first rest).trans begun,
          (List.sublist_append_left later tail).trans order⟩

/-- Every resumable step is sound. -/
theorem sound_step : PreservedBy step Resumable Sound := by
  intro world label after resumable sound taken
  cases label with
  | commit event => exact sound.commit taken
  | connect burst => exact sound.connect resumable taken
  | refuse => cases resumable
  | deliver => exact sound.deliver taken
  | keepAlive =>
      simp only [step, Option.ite_none_left_eq_some, Option.some.injEq] at taken
      obtain ⟨_, rfl⟩ := taken
      exact sound
  | disconnect disconnection =>
      cases taken
      exact sound.disconnect disconnection

/-! ## Reading an open connection to its end -/

/-- An open connection can be read to its end, and then everything due is yielded. -/
theorem Sound.readThrough {stream : List Event} {world : World} (sound : world.Sound)
    (connected : world.stream = some stream) :
    ∃ after, run step (List.replicate stream.length .deliver) world = some after ∧
      after.due = world.due ∧ ∀ event ∈ world.due.getD [], after.client.Delivered event := by
  induction stream generalizing world with
  | nil =>
      refine ⟨world, rfl, rfl, ?_⟩
      intro event due
      rcases sound.coming [] connected event due with delivered | ⟨sent, member, _⟩
      · exact delivered
      · cases member
  | cons event rest ih =>
      have taken : world.deliver =
          some
            { world with
              stream := some rest
              client := world.client.receive (some event.line) } := by
        rw [World.deliver, connected]
      obtain ⟨after, executed, kept, delivered⟩ := ih (sound.deliver taken) rfl
      refine ⟨after, ?_, kept, delivered⟩
      rw [List.length_cons, List.replicate_succ, run_cons, step, taken]
      exact executed

theorem Ordered.inServerOrder {world : World} (ordered : world.Ordered) :
    world.InServerOrder := by
  obtain ⟨first, later, yielded, order⟩ := ordered
  cases connected : world.stream with
  | none =>
      rw [connected] at order
      exact ⟨first, later, yielded, order⟩
  | some stream =>
      rw [connected] at order
      obtain ⟨rest, tail, _, begun, _, order⟩ := order
      exact ⟨first, later, yielded, (List.prefix_append first rest).trans begun,
        (List.sublist_append_left later tail).trans order⟩

end World

/-- In every run whose reconnections are resumable, whatever is due is yielded or on
its way over the open connection, which can be read to its end, and what is yielded
after the existing objects comes in the order of the server. -/
theorem watch_skips_nothing {history : List Event} {labels : List Label} {world : World}
    (increasing : IncreasingBy Event.version history)
    (resumable : GuardedRun step Resumable (start history) labels world) :
    world.InServerOrder ∧ world.Coming ∧
      ∀ stream, world.stream = some stream →
        ∃ after, run step (List.replicate stream.length .deliver) world = some after ∧
          after.due = world.due ∧ ∀ event ∈ world.due.getD [], after.client.Delivered event := by
  have sound := resumable.invariant World.sound_step (World.sound_start increasing)
  exact ⟨sound.ordered.inServerOrder, sound.coming, fun _ => sound.readThrough⟩

namespace Restart

def first : Event := ⟨.added, "first", 1⟩

def second : Event := ⟨.added, "second", 2⟩

def third : Event := ⟨.modified, "first", 3⟩

/-- Both objects are listed before the connection is lost. -/
def afterList : List Label :=
  [.connect [first, second], .deliver, .deliver, .disconnect .readTimeout, .commit third,
    .connect []]

/-- The connection is lost after the newer of the two objects. -/
def amidList : List Label :=
  [.connect [second, first], .deliver, .disconnect .chunkedEncodingError, .connect []]

end Restart

/-- A connection lost after the list of the objects is resumed without a gap. -/
theorem watch_skips_nothing_after_list :
    ∃ world, GuardedRun step Resumable (start [Restart.first, Restart.second])
        Restart.afterList world ∧
      world.InServerOrder ∧ world.Coming ∧ world.stream = some [Restart.third] := by
  have executed : ((runIf step Resumable Restart.afterList
      (start [Restart.first, Restart.second])).map (·.stream)) =
        some (some [Restart.third]) := by decide
  obtain ⟨world, reached, connected⟩ := Option.map_eq_some_iff.mp executed
  have resumable := guardedRun_of_runIf reached
  have increasing : IncreasingBy Event.version [Restart.first, Restart.second] := by
    simp [IncreasingBy, Restart.first, Restart.second]
  have delivered := watch_skips_nothing increasing resumable
  exact ⟨world, resumable, delivered.1, delivered.2.1, connected⟩

/-- Of two objects the newer one is listed first and the connection is lost behind it.
The older one is not sent again. -/
theorem watch_skips_object :
    ∃ world, run step Restart.amidList (start [Restart.first, Restart.second]) = some world ∧
      world.stream = some [] ∧
      ∃ event ∈ world.due.getD [], ¬ world.client.Delivered event := by
  refine ⟨⟨[Restart.first, Restart.second], some [], ⟨some 2, [Restart.second.line], false⟩,
    some [Restart.first, Restart.second], [Restart.second, Restart.first]⟩, ?_, rfl,
    Restart.first, ?_, ?_⟩ <;> decide

end KuryrKubernetes.K8sClient
