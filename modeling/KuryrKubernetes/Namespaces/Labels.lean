import KuryrKubernetes.Namespaces.KuryrNetwork
import KuryrKubernetes.Transition.Run

/-!
# Labels of a namespace

The labels of a namespace are copied into the `spec` of its KuryrNetwork by
`NamespaceHandler`, and from there into the `status` by `KuryrNetworkHandler`.  Each of them
works on the events of its own queue, one at a time, and events that others follow may be
dropped.
-/

namespace KuryrKubernetes.Namespaces

open KuryrKubernetes.Transition

/-- `NamespaceHandler.on_present` between its requests. -/
inductive NamespaceTask where
  | idle
  | reading (nsLabels : Labels)
  | writing (nsLabels : Labels) (knsCrd : Option KuryrNetwork)
  | written (nsLabels : Labels)
  deriving DecidableEq

/-- The labels of the event that is handled. -/
def NamespaceTask.nsLabels : NamespaceTask → List Labels
  | idle => []
  | reading nsLabels | writing nsLabels _ | written nsLabels => [nsLabels]

/-- `KuryrNetworkHandler.on_present` between its requests: the KuryrNetwork of the event, and
the patches that are still to be made. -/
inductive NetworkTask where
  | idle
  | patching (crd : KuryrNetwork) (patches : List StatusPatch)
  deriving DecidableEq

/-- The namespace and its KuryrNetwork, the events that wait, and the handlers. -/
structure Site where
  nsName : String
  projectId : String
  nsLabels : Labels
  nsEvents : List Labels
  nsTask : NamespaceTask
  crd : Option KuryrNetwork
  crdEvents : List KuryrNetwork
  crdTask : NetworkTask
  deriving DecidableEq

/-- What happens: the labels of the namespace change, and for either queue an event is
dropped or taken, the handler makes its next request or is done, or it fails and is called
again. -/
inductive Move where
  | relabel (nsLabels : Labels)
  | dropNs
  | takeNs
  | readNs
  | writeNs
  | doneNs
  | failNs
  | dropCrd
  | takeCrd (answers : Answers)
  | patchCrd
  | doneCrd
  | failCrd (answers : Answers)

/-- The KuryrNetwork is written; there is an event if it changed. -/
def Site.putCrd (site : Site) (crd : KuryrNetwork) : Site :=
  if site.crd = some crd then
    site
  else
    { site with crd := some crd, crdEvents := site.crdEvents ++ [crd] }

/-- `_update_labels` has nothing to do. -/
def KuryrNetwork.upToDate (knsCrd : KuryrNetwork) (nsLabels : Labels) : Bool :=
  knsCrd.status ≠ {} ∧ knsCrd.status.labels = nsLabels

/-- The write of `NamespaceHandler`: the spec of the KuryrNetwork that it read is patched
unless its status is up to date.  Where there was none, a new one is posted, which is
refused if there is one by now. -/
def Site.writeLabels (site : Site) (nsLabels : Labels) (knsCrd : Option KuryrNetwork) :
    Option Site :=
  match knsCrd, site.crd with
  | some knsCrd, some crd =>
      some (if knsCrd.upToDate nsLabels then site else site.putCrd { crd with nsLabels })
  | some _, none => some site
  | none, none =>
      some (site.putCrd { nsName := site.nsName, projectId := site.projectId, nsLabels })
  | none, some _ => none

/-- A patch of the status; without the KuryrNetwork it does nothing. -/
def Site.patchStatus (site : Site) (patch : StatusPatch) : Site :=
  match site.crd with
  | some crd => site.putCrd { crd with status := crd.status.patch patch }
  | none => site

/-- The steps of the namespace and of the handlers. -/
def step : Step Site Move
  | site, .relabel nsLabels =>
      some { site with nsLabels, nsEvents := site.nsEvents ++ [nsLabels] }
  | site, .dropNs =>
      match site.nsEvents with
      | _ :: later :: rest => some { site with nsEvents := later :: rest }
      | _ => none
  | site, .takeNs =>
      match site.nsTask, site.nsEvents with
      | .idle, event :: rest => some { site with nsTask := .reading event, nsEvents := rest }
      | _, _ => none
  | site, .readNs =>
      match site.nsTask with
      | .reading nsLabels => some { site with nsTask := .writing nsLabels site.crd }
      | _ => none
  | site, .writeNs =>
      match site.nsTask with
      | .writing nsLabels knsCrd =>
          (site.writeLabels nsLabels knsCrd).map fun after =>
            { after with nsTask := .written nsLabels }
      | _ => none
  | site, .doneNs =>
      match site.nsTask with
      | .written _ => some { site with nsTask := .idle }
      | _ => none
  | site, .failNs =>
      match site.nsTask with
      | .idle => none
      | .reading nsLabels | .writing nsLabels _ | .written nsLabels =>
          some { site with nsTask := .reading nsLabels }
  | site, .dropCrd =>
      match site.crdEvents with
      | _ :: later :: rest => some { site with crdEvents := later :: rest }
      | _ => none
  | site, .takeCrd answers =>
      match site.crdTask, site.crdEvents with
      | .idle, event :: rest =>
          some { site with
            crdTask := .patching event (event.patches answers)
            crdEvents := rest }
      | _, _ => none
  | site, .patchCrd =>
      match site.crdTask with
      | .patching crd (patch :: rest) =>
          some { site.patchStatus patch with crdTask := .patching crd rest }
      | _ => none
  | site, .doneCrd =>
      match site.crdTask with
      | .patching _ [] => some { site with crdTask := .idle }
      | _ => none
  | site, .failCrd answers =>
      match site.crdTask with
      | .patching crd _ => some { site with crdTask := .patching crd (crd.patches answers) }
      | .idle => none

/-- What each move does where it is possible. -/
inductive Moves (site : Site) : Move → Site → Prop
  | relabel (nsLabels : Labels) :
      Moves site (.relabel nsLabels)
        { site with nsLabels, nsEvents := site.nsEvents ++ [nsLabels] }
  | dropNs {first later : Labels} {rest : List Labels}
      (waiting : site.nsEvents = first :: later :: rest) :
      Moves site .dropNs { site with nsEvents := later :: rest }
  | takeNs {event : Labels} {rest : List Labels} (idle : site.nsTask = .idle)
      (waiting : site.nsEvents = event :: rest) :
      Moves site .takeNs { site with nsTask := .reading event, nsEvents := rest }
  | readNs {nsLabels : Labels} (reading : site.nsTask = .reading nsLabels) :
      Moves site .readNs { site with nsTask := .writing nsLabels site.crd }
  | writeNs {nsLabels : Labels} {knsCrd : Option KuryrNetwork} {after : Site}
      (writing : site.nsTask = .writing nsLabels knsCrd)
      (wrote : site.writeLabels nsLabels knsCrd = some after) :
      Moves site .writeNs { after with nsTask := .written nsLabels }
  | doneNs {nsLabels : Labels} (written : site.nsTask = .written nsLabels) :
      Moves site .doneNs { site with nsTask := .idle }
  | failNs {nsLabels : Labels} (busy : site.nsTask.nsLabels = [nsLabels]) :
      Moves site .failNs { site with nsTask := .reading nsLabels }
  | dropCrd {first later : KuryrNetwork} {rest : List KuryrNetwork}
      (waiting : site.crdEvents = first :: later :: rest) :
      Moves site .dropCrd { site with crdEvents := later :: rest }
  | takeCrd (answers : Answers) {event : KuryrNetwork} {rest : List KuryrNetwork}
      (idle : site.crdTask = .idle) (waiting : site.crdEvents = event :: rest) :
      Moves site (.takeCrd answers)
        { site with crdTask := .patching event (event.patches answers), crdEvents := rest }
  | patchCrd {crd : KuryrNetwork} {patch : StatusPatch} {rest : List StatusPatch}
      (patching : site.crdTask = .patching crd (patch :: rest)) :
      Moves site .patchCrd { site.patchStatus patch with crdTask := .patching crd rest }
  | doneCrd {crd : KuryrNetwork} (patching : site.crdTask = .patching crd []) :
      Moves site .doneCrd { site with crdTask := .idle }
  | failCrd (answers : Answers) {crd : KuryrNetwork} {patches : List StatusPatch}
      (patching : site.crdTask = .patching crd patches) :
      Moves site (.failCrd answers)
        { site with crdTask := .patching crd (crd.patches answers) }

theorem moves_of_step {site after : Site} {move : Move} (taken : step site move = some after) :
    Moves site move after := by
  cases move with
  | relabel nsLabels =>
      cases taken
      exact .relabel nsLabels
  | dropNs =>
      simp only [step] at taken
      split at taken
      · cases taken
        exact .dropNs ‹_›
      · cases taken
  | takeNs =>
      simp only [step] at taken
      split at taken
      · cases taken
        exact .takeNs ‹_› ‹_›
      · cases taken
  | readNs =>
      simp only [step] at taken
      split at taken
      · cases taken
        exact .readNs ‹_›
      · cases taken
  | writeNs =>
      simp only [step] at taken
      split at taken
      · rcases Option.map_eq_some_iff.mp taken with ⟨written, wrote, rfl⟩
        exact .writeNs ‹_› wrote
      · cases taken
  | doneNs =>
      simp only [step] at taken
      split at taken
      · cases taken
        exact .doneNs ‹_›
      · cases taken
  | failNs =>
      cases task : site.nsTask with
      | idle =>
          simp only [step, task] at taken
          cases taken
      | reading nsLabels | writing nsLabels | written nsLabels =>
          simp only [step, task] at taken
          cases taken
          apply Moves.failNs
          rw [task]
          rfl
  | dropCrd =>
      simp only [step] at taken
      split at taken
      · cases taken
        exact .dropCrd ‹_›
      · cases taken
  | takeCrd answers =>
      simp only [step] at taken
      split at taken
      · cases taken
        exact .takeCrd answers ‹_› ‹_›
      · cases taken
  | patchCrd =>
      simp only [step] at taken
      split at taken
      · cases taken
        exact .patchCrd ‹_›
      · cases taken
  | doneCrd =>
      simp only [step] at taken
      split at taken
      · cases taken
        exact .doneCrd ‹_›
      · cases taken
  | failCrd answers =>
      simp only [step] at taken
      split at taken
      · cases taken
        exact .failCrd answers ‹_›
      · cases taken

/-! ## Where labels end up -/

/-- The labels of events that are handled or wait. -/
def Site.nsPending (site : Site) : List Labels :=
  site.nsTask.nsLabels ++ site.nsEvents

/-- All events are handled. -/
structure Site.Quiet (site : Site) : Prop where
  nsPending : site.nsPending = []
  crdEvents : site.crdEvents = []
  crdTask : site.crdTask = .idle

instance (site : Site) : Decidable site.Quiet :=
  decidable_of_iff (site.nsPending = [] ∧ site.crdEvents = [] ∧ site.crdTask = .idle)
    ⟨fun quiet => ⟨quiet.1, quiet.2.1, quiet.2.2⟩,
      fun quiet => ⟨quiet.nsPending, quiet.crdEvents, quiet.crdTask⟩⟩

/-- The KuryrNetwork asks for the labels. -/
def Site.Specifies (site : Site) (nsLabels : Labels) : Prop :=
  ∃ crd, site.crd = some crd ∧ crd.nsLabels = nsLabels

/-- Both copies of the labels are those of the namespace. -/
def Site.Converged (site : Site) : Prop :=
  ∃ crd, site.crd = some crd ∧ crd.nsLabels = site.nsLabels ∧
    crd.status.labels = site.nsLabels

/-- The namespace is new, or all is handled and its labels were copied. -/
def Site.Initial (site : Site) : Prop :=
  (site.nsEvents = [site.nsLabels] ∧ site.nsTask = .idle ∧ site.crd = none ∧
    site.crdEvents = [] ∧ site.crdTask = .idle) ∨
  site.Quiet ∧ site.Converged

/-- A KuryrNetwork that is found up to date asks for the labels of the event. -/
def Site.requests (site : Site) (move : Move) : Bool :=
  match move, site.nsTask with
  | .writeNs, .writing nsLabels (some crd) =>
      !crd.upToDate nsLabels || crd.nsLabels = nsLabels
  | _, _ => true

/-- What holds of the namespace and of what is asked for. -/
structure Site.Asked (site : Site) : Prop where
  named : ∀ nsLabels ∈ site.nsPending.getLast?, nsLabels = site.nsLabels
  specified : site.nsPending = [] → site.Specifies site.nsLabels
  read : ∀ nsLabels knsCrd, site.nsTask = .writing nsLabels knsCrd →
    site.crd.map (·.nsLabels) = knsCrd.map (·.nsLabels)
  written : ∀ nsLabels, site.nsTask = .written nsLabels → site.Specifies nsLabels

/-- What holds of the KuryrNetwork and of its status. -/
structure Site.Shown (site : Site) : Prop where
  last : ∀ crd ∈ site.crdEvents.getLast?, site.crd = some crd
  idle : site.crdEvents = [] → site.crdTask = .idle →
    ∀ crd ∈ site.crd, crd.status.labels = crd.nsLabels
  patching : site.crdEvents = [] → ∀ crd patches, site.crdTask = .patching crd patches →
    site.crd = some crd ∧
      (crd.status.labels = crd.nsLabels ∨ .nsLabels crd.nsLabels ∈ patches)

section

variable {site after : Site} {move : Move}

theorem Site.Shown.putCrd (shown : site.Shown) (crd : KuryrNetwork) : (site.putCrd crd).Shown := by
  unfold Site.putCrd
  split
  · exact shown
  · have last : (site.crdEvents ++ [crd]).getLast? = some crd := List.getLast?_concat
    have some_ : site.crdEvents ++ [crd] ≠ [] := List.append_ne_nil_of_right_ne_nil _ (by simp)
    constructor
    · intro shownLast isLast
      rw [Option.mem_def, last] at isLast
      cases isLast
      rfl
    · exact fun none_ => absurd none_ some_
    · exact fun none_ => absurd none_ some_

/-- Writing the KuryrNetwork changes it, and what waits for `KuryrNetworkHandler`. -/
theorem Site.putCrd_eq (site : Site) (crd : KuryrNetwork) :
    ∃ crdEvents, site.putCrd crd = { site with crd := some crd, crdEvents } := by
  unfold Site.putCrd
  split
  · rename_i same
    refine ⟨site.crdEvents, ?_⟩
    rw [← same]
  · exact ⟨_, rfl⟩

/-- A status changes nothing about what is asked for. -/
theorem Site.Asked.patchStatus (asked : site.Asked) (patch : StatusPatch) :
    (site.patchStatus patch).Asked := by
  unfold Site.patchStatus
  cases there : site.crd with
  | none => exact asked
  | some crd =>
      rcases site.putCrd_eq { crd with status := crd.status.patch patch } with ⟨events, same⟩
      dsimp only
      rw [same]
      have specifies (nsLabels : Labels) (known : site.Specifies nsLabels) :
          Site.Specifies { site with
            crd := some { crd with status := crd.status.patch patch }
            crdEvents := events } nsLabels := by
        rcases known with ⟨other, isOther, named⟩
        rw [there] at isOther
        cases isOther
        exact ⟨_, rfl, named⟩
      constructor
      · exact asked.named
      · exact fun handled => specifies _ (asked.specified handled)
      · intro nsLabels knsCrd writing
        have read := asked.read nsLabels knsCrd writing
        rw [there] at read
        exact read
      · exact fun nsLabels written => specifies _ (asked.written nsLabels written)

/-- A patch that changes nothing leaves the labels where they are, and any other one makes an
event. -/
theorem Site.Shown.patchCrd (shown : site.Shown) {crd : KuryrNetwork} {patch : StatusPatch}
    {rest : List StatusPatch} (working : site.crdTask = .patching crd (patch :: rest)) :
    Site.Shown { site.patchStatus patch with crdTask := .patching crd rest } := by
  unfold Site.patchStatus
  cases there : site.crd with
  | none =>
      constructor
      · exact shown.last
      · rintro _ ⟨⟩
      · rintro none_ _ _ ⟨⟩
        have known := (shown.patching none_ crd _ working).1
        rw [there] at known
        cases known
  | some current =>
      dsimp only
      unfold Site.putCrd
      split
      · rename_i same
        rw [there] at same
        constructor
        · exact shown.last
        · rintro _ ⟨⟩
        · rintro none_ _ _ ⟨⟩
          rcases shown.patching none_ crd _ working with ⟨known, labels⟩
          refine ⟨known, ?_⟩
          rcases labels with agree | listed
          · exact .inl agree
          · rcases List.mem_cons.mp listed with isPatch | later
            · -- the labels were patched, and were there before
              left
              rw [there] at known
              cases known
              have unchanged := congrArg KuryrNetwork.status (Option.some.inj same)
              rw [unchanged, ← isPatch]
              rfl
            · exact .inr later
      · have last : (site.crdEvents ++ [{ current with status := current.status.patch patch }]
            ).getLast? = some { current with status := current.status.patch patch } :=
          List.getLast?_concat
        have some_ : site.crdEvents ++ [{ current with status := current.status.patch patch }] ≠
            [] :=
          List.append_ne_nil_of_right_ne_nil _ (by simp)
        constructor
        · intro shownLast isLast
          rw [Option.mem_def] at isLast
          change (site.crdEvents ++ [{ current with status := current.status.patch patch }]
            ).getLast? = some shownLast at isLast
          rw [last] at isLast
          cases isLast
          rfl
        · exact fun none_ => absurd none_ some_
        · exact fun none_ => absurd none_ some_

/-- The labels of the event that is handled, and then those of the events that wait. -/
theorem Site.nsPending_of_nsLabels {nsLabels : Labels} (busy : site.nsTask.nsLabels = [nsLabels]) :
    site.nsPending = nsLabels :: site.nsEvents := by
  rw [Site.nsPending, busy]
  rfl

/-- The write of `NamespaceHandler` leaves what was asked for, if a KuryrNetwork that is found
up to date asks for it already. -/
theorem Site.Asked.writeLabels (asked : site.Asked) {nsLabels : Labels}
    {knsCrd : Option KuryrNetwork} (writing : site.nsTask = .writing nsLabels knsCrd)
    (requested : site.requests .writeNs) (wrote : site.writeLabels nsLabels knsCrd = some after) :
    Site.Asked { after with nsTask := .written nsLabels } := by
  have pending : site.nsPending = nsLabels :: site.nsEvents :=
    Site.nsPending_of_nsLabels (by rw [writing]; rfl)
  have read := asked.read nsLabels knsCrd writing
  have placed (crd : KuryrNetwork) (named : crd.nsLabels = nsLabels) :
      Site.Asked { site.putCrd crd with nsTask := .written nsLabels } := by
    rcases site.putCrd_eq crd with ⟨events, same⟩
    rw [same]
    constructor
    · have known := asked.named
      rw [pending] at known
      exact known
    · rintro ⟨⟩
    · rintro _ _ ⟨⟩
    · rintro _ ⟨⟩
      exact ⟨crd, rfl, named⟩
  unfold Site.writeLabels at wrote
  cases knsCrd with
  | none =>
      cases there : site.crd with
      | none =>
          rw [there] at wrote
          cases wrote
          exact placed _ rfl
      | some crd =>
          rw [there] at wrote
          cases wrote
  | some knsCrd =>
      cases there : site.crd with
      | none =>
          rw [there] at read
          cases read
      | some crd =>
          rw [there] at wrote read
          cases wrote
          split
          · rename_i upToDate
            have named : knsCrd.nsLabels = nsLabels := by
              unfold Site.requests at requested
              rw [writing] at requested
              simpa [upToDate] using requested
            constructor
            · have known := asked.named
              rw [pending] at known
              exact known
            · rintro ⟨⟩
            · rintro _ _ ⟨⟩
            · rintro _ ⟨⟩
              exact ⟨crd, there, (Option.some.inj read).trans named⟩
          · exact placed _ rfl

theorem Site.Asked.relabel (asked : site.Asked) (nsLabels : Labels) :
    Site.Asked { site with nsLabels, nsEvents := site.nsEvents ++ [nsLabels] } := by
  have last : (site.nsTask.nsLabels ++ (site.nsEvents ++ [nsLabels])).getLast? =
      some nsLabels := by
    rw [← List.append_assoc]
    exact List.getLast?_concat
  constructor
  · intro labels isLast
    change labels ∈ (site.nsTask.nsLabels ++ (site.nsEvents ++ [nsLabels])).getLast? at isLast
    rw [last] at isLast
    cases isLast
    rfl
  · intro handled
    change site.nsTask.nsLabels ++ (site.nsEvents ++ [nsLabels]) = [] at handled
    rw [handled] at last
    cases last
  · exact asked.read
  · exact asked.written

theorem Site.Asked.drop (asked : site.Asked) {first later : Labels} {rest : List Labels}
    (waiting : site.nsEvents = first :: later :: rest) :
    Site.Asked { site with nsEvents := later :: rest } := by
  have shorter : site.nsPending.getLast? =
      (site.nsTask.nsLabels ++ later :: rest).getLast? := by
    unfold Site.nsPending
    rw [waiting, List.getLast?_append_of_ne_nil _ (List.cons_ne_nil _ _),
      List.getLast?_append_of_ne_nil _ (List.cons_ne_nil _ _), List.getLast?_cons_cons]
  constructor
  · intro labels isLast
    exact asked.named labels (shorter.symm ▸ isLast)
  · intro handled
    cases List.append_eq_nil_iff.mp handled |>.2
  · exact asked.read
  · exact asked.written

/-- An event is begun: it is the first one of those that are handled or wait. -/
theorem Site.Asked.begin_ (asked : site.Asked) {nsLabels : Labels} {rest : List Labels}
    (pending : site.nsPending = nsLabels :: rest) :
    Site.Asked { site with nsTask := .reading nsLabels, nsEvents := rest } := by
  constructor
  · intro labels isLast
    apply asked.named
    rw [pending]
    exact isLast
  · rintro ⟨⟩
  · rintro _ _ ⟨⟩
  · rintro _ ⟨⟩

theorem Site.Asked.readCrd (asked : site.Asked) {nsLabels : Labels}
    (reading : site.nsTask = .reading nsLabels) :
    Site.Asked { site with nsTask := .writing nsLabels site.crd } := by
  have pending : site.nsPending = nsLabels :: site.nsEvents :=
    Site.nsPending_of_nsLabels (by rw [reading]; rfl)
  constructor
  · intro labels isLast
    apply asked.named
    rw [pending]
    exact isLast
  · rintro ⟨⟩
  · rintro _ _ ⟨⟩
    rfl
  · rintro _ ⟨⟩

theorem Site.Asked.done (asked : site.Asked) {nsLabels : Labels}
    (written : site.nsTask = .written nsLabels) : Site.Asked { site with nsTask := .idle } := by
  have pending : site.nsPending = nsLabels :: site.nsEvents :=
    Site.nsPending_of_nsLabels (by rw [written]; rfl)
  constructor
  · intro labels isLast
    apply asked.named
    rw [pending]
    change labels ∈ site.nsEvents.getLast? at isLast
    rw [List.getLast?_cons, Option.mem_def.mp isLast]
    rfl
  · intro handled
    change site.nsEvents = [] at handled
    have named := asked.named nsLabels (by rw [pending, handled]; rfl)
    rw [← named]
    exact asked.written nsLabels written
  · rintro _ _ ⟨⟩
  · rintro _ ⟨⟩

theorem asked_preserved : PreservedBy step (fun site move => site.requests move) Site.Asked := by
  intro site move after requested asked taken
  -- a step of the handler of the KuryrNetwork that leaves it as it is
  have beside (crdEvents : List KuryrNetwork) (crdTask : NetworkTask) :
      Site.Asked { site with crdEvents, crdTask } :=
    ⟨asked.named, asked.specified, asked.read, asked.written⟩
  cases moves_of_step taken with
  | relabel nsLabels => exact asked.relabel nsLabels
  | dropNs waiting => exact asked.drop waiting
  | takeNs idle waiting =>
      apply asked.begin_
      rw [Site.nsPending, idle, waiting]
      rfl
  | readNs reading => exact asked.readCrd reading
  | writeNs writing wrote => exact asked.writeLabels writing requested wrote
  | doneNs written => exact asked.done written
  | failNs busy => exact asked.begin_ (Site.nsPending_of_nsLabels busy)
  | dropCrd _ => exact beside _ _
  | takeCrd answers _ _ => exact beside _ _
  | @patchCrd crd patch rest _ =>
      have patched := asked.patchStatus patch
      exact ⟨patched.named, patched.specified, patched.read, patched.written⟩
  | doneCrd _ => exact beside _ _
  | failCrd answers _ => exact beside _ _

/-- What `NamespaceHandler` does keeps what the events show. -/
theorem Site.Shown.writeLabels (shown : site.Shown) {nsLabels : Labels}
    {knsCrd : Option KuryrNetwork} (wrote : site.writeLabels nsLabels knsCrd = some after) :
    after.Shown := by
  unfold Site.writeLabels at wrote
  split at wrote
  · cases wrote
    split
    · exact shown
    · exact shown.putCrd _
  · cases wrote
    exact shown
  · cases wrote
    exact shown.putCrd _
  · cases wrote

theorem shown_preserved : PreservedBy step (fun _ _ => True) Site.Shown := by
  intro site move after _ shown taken
  -- a step of the namespace or of its handler
  have beside (nsLabels : Labels) (nsEvents : List Labels) (nsTask : NamespaceTask) :
      Site.Shown { site with nsLabels, nsEvents, nsTask } :=
    ⟨shown.last, shown.idle, shown.patching⟩
  cases moves_of_step taken with
  | relabel nsLabels => exact beside _ _ _
  | dropNs _ => exact beside _ _ _
  | takeNs _ _ => exact beside _ _ _
  | readNs _ => exact beside _ _ _
  | writeNs _ wrote =>
      have written := shown.writeLabels wrote
      exact ⟨written.last, written.idle, written.patching⟩
  | doneNs _ => exact beside _ _ _
  | failNs _ => exact beside _ _ _
  | dropCrd waiting =>
      constructor
      · intro crd isLast
        apply shown.last
        rw [waiting, List.getLast?_cons_cons]
        exact isLast
      · rintro ⟨⟩
      · rintro ⟨⟩
  | @takeCrd answers event rest idle waiting =>
      constructor
      · intro crd isLast
        apply shown.last
        rw [waiting, List.getLast?_cons, Option.mem_def.mp isLast]
        rfl
      · rintro _ ⟨⟩
      · rintro empty _ _ ⟨⟩
        change rest = [] at empty
        constructor
        · apply shown.last
          rw [waiting, empty]
          rfl
        · exact labels_mem_patches answers event
  | patchCrd patching => exact shown.patchCrd patching
  | @doneCrd crd patching =>
      constructor
      · exact shown.last
      · intro empty _ current there
        rcases shown.patching empty crd [] patching with ⟨known, agree | listed⟩
        · change site.crd = some current at there
          rw [known] at there
          cases there
          exact agree
        · cases listed
      · rintro _ _ _ ⟨⟩
  | @failCrd answers crd patches patching =>
      constructor
      · exact shown.last
      · rintro _ ⟨⟩
      · rintro empty _ _ ⟨⟩
        exact ⟨(shown.patching empty crd patches patching).1, labels_mem_patches answers crd⟩

theorem Site.Initial.asked (initial : site.Initial) : site.Asked := by
  rcases initial with ⟨waiting, task, missing, _⟩ | ⟨quiet, crd, there, named, _⟩
  · have pending : site.nsPending = [site.nsLabels] := by
      unfold Site.nsPending
      rw [task, waiting]
      rfl
    constructor
    · intro labels isLast
      rw [pending] at isLast
      cases isLast
      rfl
    · rw [pending]
      rintro ⟨⟩
    · rw [task]
      rintro _ _ ⟨⟩
    · rw [task]
      rintro _ ⟨⟩
  · have idle : site.nsTask = .idle := by
      have none_ := (List.append_eq_nil_iff.mp quiet.nsPending).1
      cases task : site.nsTask with
      | idle => rfl
      | reading | writing | written =>
          rw [task] at none_
          cases none_
    constructor
    · rw [quiet.nsPending]
      rintro _ ⟨⟩
    · exact fun _ => ⟨crd, there, named⟩
    · rw [idle]
      rintro _ _ ⟨⟩
    · rw [idle]
      rintro _ ⟨⟩

theorem Site.Initial.shown (initial : site.Initial) : site.Shown := by
  rcases initial with ⟨_, _, missing, empty, task⟩ | ⟨quiet, crd, there, named, shown⟩
  · constructor
    · rw [empty]
      rintro _ ⟨⟩
    · rw [missing]
      rintro _ _ _ ⟨⟩
    · rw [task]
      rintro _ _ _ ⟨⟩
  · constructor
    · rw [quiet.crdEvents]
      rintro _ ⟨⟩
    · intro _ _ known isKnown
      rw [there] at isKnown
      cases isKnown
      rw [shown, named]
    · rw [quiet.crdTask]
      rintro _ _ _ ⟨⟩

end

/-- In every run where each KuryrNetwork that is found up to date asks for the labels of the
event, both copies are those of the namespace once all events are handled. -/
theorem labels_converge {start final : Site} {moves : List Move} (initial : start.Initial)
    (guarded : GuardedRun step (fun site move => site.requests move) start moves final) (quiet : final.Quiet) :
    final.Converged := by
  have asked := guarded.invariant asked_preserved initial.asked
  have shown := (guarded.mono fun _ _ _ => trivial).invariant shown_preserved initial.shown
  rcases asked.specified quiet.nsPending with ⟨crd, there, named⟩
  have agree := shown.idle quiet.crdEvents quiet.crdTask crd there
  exact ⟨crd, there, named, agree.trans named⟩

/-! ## A namespace that is labelled and labelled again -/

namespace Relabelled

def teamA : Labels := {("team", "a")}

def teamB : Labels := {("team", "b")}

def answers : Answers where
  netId := 1
  subnetId := 2
  subnetCidr := "10.0.1.0/24"
  routerId := "router"

/-- A namespace of team A that is provided for. -/
def start : Site where
  nsName := "web"
  projectId := "kuryr"
  nsLabels := teamA
  nsEvents := []
  nsTask := .idle
  crd := some {
    nsName := "web"
    projectId := "kuryr"
    nsLabels := teamA
    status := {
      netId := some 1
      subnetId := some 2
      subnetCidr := some "10.0.1.0/24"
      routerId := some "router"
      populated := some true
      nsLabels := some teamA } }
  crdEvents := []
  crdTask := .idle

theorem start_initial : start.Initial :=
  .inr ⟨⟨rfl, rfl, rfl⟩, _, rfl, rfl, rfl⟩

/-- `NamespaceHandler` handles an event. -/
def handleNs : List Move :=
  [.takeNs, .readNs, .writeNs, .doneNs]

/-- `KuryrNetworkHandler` handles an event that shows other labels. -/
def handleCrd : List Move :=
  [.takeCrd answers, .patchCrd, .doneCrd]

/-- `KuryrNetworkHandler` handles an event that shows nothing new. -/
def passCrd : List Move :=
  [.takeCrd answers, .doneCrd]

/-- The labels change, and both handlers handle what follows. -/
def relabelled : List Move :=
  [.relabel teamB] ++ handleNs ++ handleCrd ++ passCrd

/-- The labels change and change back before `KuryrNetworkHandler` is at work. -/
def thereAndBack : List Move :=
  [.relabel teamB] ++ handleNs ++ [.relabel teamA] ++ handleNs ++ handleCrd ++ passCrd

end Relabelled

/-- The copies of a namespace whose labels changed once. -/
theorem labels_converge_relabelled : ∃ final,
    GuardedRun step (fun site move => site.requests move) Relabelled.start
      Relabelled.relabelled final ∧
    final.Quiet ∧ final.nsLabels = Relabelled.teamB ∧ final.Converged := by
  have ends : (runIf step (fun site move => site.requests move) Relabelled.relabelled
      Relabelled.start).any
        (fun site => site.Quiet ∧ site.nsLabels = Relabelled.teamB) = true := by
    decide +kernel
  rcases ran : runIf step (fun site move => site.requests move) Relabelled.relabelled
    Relabelled.start with _ | final
  · rw [ran] at ends
    cases ends
  · rw [ran] at ends
    rcases of_decide_eq_true ends with ⟨quiet, labels⟩
    have guarded := guardedRun_of_runIf ran
    exact ⟨final, guarded, quiet, labels,
      labels_converge Relabelled.start_initial guarded quiet⟩

/-- The copies keep the labels in between. -/
theorem labels_stay_behind : ∃ final,
    run step Relabelled.thereAndBack Relabelled.start = some final ∧ final.Quiet ∧
      final.nsLabels = Relabelled.teamA ∧ ¬final.Converged := by
  have ends : (run step Relabelled.thereAndBack Relabelled.start).any
      (fun site => site.Quiet ∧ site.nsLabels = Relabelled.teamA ∧
        site.crd.any (fun crd => crd.nsLabels = Relabelled.teamB)) = true := by
    decide +kernel
  rcases ran : run step Relabelled.thereAndBack Relabelled.start with _ | final
  · rw [ran] at ends
    cases ends
  · rw [ran] at ends
    rcases of_decide_eq_true ends with ⟨quiet, labels, behind⟩
    refine ⟨final, rfl, quiet, labels, ?_⟩
    rintro ⟨crd, there, named, _⟩
    rw [there] at behind
    have old : crd.nsLabels = Relabelled.teamB := of_decide_eq_true behind
    rw [labels, old] at named
    exact absurd named (by decide)

end KuryrKubernetes.Namespaces
