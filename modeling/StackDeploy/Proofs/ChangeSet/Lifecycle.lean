import StackDeploy.Proofs.Deployment.Review

/-!
# The life of a change set

A controller may be called in any order, and the service may reply as it likes. The **lifecycle**
says which state each call leads to: created, waited for, reviewed, executed, finished. A review or
an execution that is called when it is not its turn is carried out all the same, and leaves the
lifecycle.

* `Controller.Work.Runs` — what any calls on a controller come to.
* `Controller.Lifecycle`, `Controller.OutOfTurn` — the changes of state that belong to the
  lifecycle, and those that leave it.
* `Controller.life_of_runs` — there are no others; an execution that comes in its turn has its
  change set reviewed.
* `Controller.executes_unreviewed` — runs that leave the lifecycle.
-/

namespace StackDeploy

namespace Controller

/-! ### Calls -/

/-- A **call** on a controller. -/
inductive Call where
  | submit (input : ChangeSetInput)
  | review
  | execute
  | finish (success : Bool)
deriving DecidableEq, Repr

/-- The **work** of a controller: it waits for the next call, or a review is under way. -/
inductive Work where
  | idle (controller : Controller)
  | reviewing (review : Review)

/-- The controller at its work. -/
def Work.controller : Work → Controller
  | idle c => c
  | reviewing r => r.controller

/-- The state of the change set. -/
def Work.state (w : Work) : ChangeSetState := w.controller.state

/-- Work **goes on** by a call, or by a part of one; the service replies as it likes. -/
inductive Work.Goes : Work → Call → List Action → Work → Prop
  | submit (c : Controller) (input : ChangeSetInput) (reply : Reply (.createChangeSet input)) :
      Goes (.idle c) (.submit input) [.call (.createChangeSet input) reply]
        (.idle (c.submitted input.stackName input.changeSetType reply).2)
  /-- A review begins. -/
  | begin (c : Controller) : Goes (.idle c) .review [] (.reviewing (.start c))
  | step {clock : Clock} {r r' : Review} {actions : List Action}
      (leads : (r.step clock).Leads clock actions r') :
      Goes (.reviewing r) .review actions (.reviewing r')
  /-- A review ends. -/
  | over {clock : Clock} {r : Review} {c : Controller}
      {result : Except ChangeSetError ReviewOutcome} (h : r.step clock = .finish (result, c)) :
      Goes (.reviewing r) .review [] (.idle c)
  | execute (c : Controller) {ref : ChangeSetRef} (h : c.changeSet = some ref)
      (reply : Reply (.executeChangeSet c.stack ref.id)) :
      Goes (.idle c) .execute [.call (.executeChangeSet c.stack ref.id) reply]
        (.idle (c.executed ref reply).2)
  /-- There is nothing to execute. -/
  | executeNothing (c : Controller) (h : c.changeSet = none) : Goes (.idle c) .execute [] (.idle c)
  | finish (c : Controller) (success : Bool) :
      Goes (.idle c) (.finish success) [] (.idle (c.finish success))

/-- A **passage**: a call or a part of one, with what was done in it. -/
structure Passage where
  call : Call
  before : Work
  actions : List Action
  after : Work

/-- The actions of a history. -/
def traceOf (history : List Passage) : List Action := history.flatMap Passage.actions

theorem traceOf_append_singleton (history : List Passage) (p : Passage) :
    traceOf (history ++ [p]) = traceOf history ++ p.actions := by
  rw [traceOf, List.flatMap_append, List.flatMap_singleton, traceOf]

/-- The **runs** of a new controller: the passages so far, and the work they have led to. -/
inductive Work.Runs (settings : ReviewSettings) : List Passage → Work → Prop
  | start : Runs settings [] (.idle (.start settings))
  | pass {history : List Passage} {w w' : Work} {call : Call} {actions : List Action}
      (run : Runs settings history w) (goes : w.Goes call actions w') :
      Runs settings (history ++ [⟨call, w, actions, w'⟩]) w'

/-! ### The lifecycle -/

/-- The **lifecycle** of a change set: the state that a call, or a part of one, leads to, given what
it did and the state before it. -/
inductive Lifecycle : Call → List Action → ChangeSetState → ChangeSetState → Prop
  | submitted (input : ChangeSetInput) (ref : ChangeSetRef) (state : ChangeSetState) :
      Lifecycle (.submit input) [.call (.createChangeSet input) (.ok ref)] state .created
  | rejected (input : ChangeSetInput) (cause : ApiError) (state : ChangeSetState) :
      Lifecycle (.submit input) [.call (.createChangeSet input) (.error cause)] state state
  | awaited : Lifecycle .review [] .created .waitingForCreation
  | reviewed {state : ChangeSetState}
      (h : state = .available ∨ state = .skippedNoChanges ∨ state = .failedToCreate) :
      Lifecycle .review [] .waitingForCreation state
  /-- The rest of a review leaves the state as it is. -/
  | reviewing (actions : List Action) (state : ChangeSetState) :
      Lifecycle .review actions state state
  | executed (stack id : String) :
      Lifecycle .execute [.call (.executeChangeSet stack id) (.ok ())] .available .executing
  | refused (stack id : String) (cause : ApiError) :
      Lifecycle .execute [.call (.executeChangeSet stack id) (.error cause)] .available
        .executionFailed
  | unsubmitted (state : ChangeSetState) : Lifecycle .execute [] state state
  | finished (success : Bool) :
      Lifecycle (.finish success) [] .executing (if success then .succeeded else .executionFailed)
  | unexecuted (success : Bool) {state : ChangeSetState} (h : state ≠ .executing) :
      Lifecycle (.finish success) [] state state

/-- A call comes **out of turn**: a review when the change set was reviewed already, or an execution
when it is not available. It leaves the lifecycle. -/
inductive OutOfTurn : Call → List Action → ChangeSetState → ChangeSetState → Prop
  | review {state : ChangeSetState} (h : state ≠ .created ∧ state ≠ .waitingForCreation) :
      OutOfTurn .review [] state .waitingForCreation
  | executed {state : ChangeSetState} (h : state ≠ .available) (stack id : String) :
      OutOfTurn .execute [.call (.executeChangeSet stack id) (.ok ())] state .executing
  | refused {state : ChangeSetState} (h : state ≠ .available) (stack id : String)
      (cause : ApiError) :
      OutOfTurn .execute [.call (.executeChangeSet stack id) (.error cause)] state .executionFailed

/-- A state in which a life is over is left by an accepted submission, or out of turn. -/
theorem Lifecycle.submitted_of_isTerminal {call : Call} {actions : List Action}
    {state state' : ChangeSetState} (h : Lifecycle call actions state state')
    (hterminal : state.isTerminal) (hne : state' ≠ state) :
    ∃ input ref, call = .submit input ∧
      actions = [.call (.createChangeSet input) (.ok ref)] := by
  cases h with
  | submitted input ref => exact ⟨input, ref, rfl, rfl⟩
  | rejected | reviewing | unsubmitted | unexecuted => exact absurd rfl hne
  | awaited | reviewed | executed | refused | finished => cases hterminal

/-! ### Reviews -/

/-- The state that a review **leaves behind**. -/
def reviewedState : Except ChangeSetError ReviewOutcome → ChangeSetState
  | .ok .noChanges => .skippedNoChanges
  | .ok (.changes _) => .available
  | .error (.api _ _ _) => .waitingForCreation
  | .error _ => .failedToCreate

/-- A review that is under way or over has the state that goes with it. -/
def Timely (r : Review) : Prop :=
  match r.phase with
  | .waiting => True
  | .asking _ _ | .judging _ _ _ | .pausing _ _ _ => r.controller.state = .waitingForCreation
  | .over result => r.controller.state = reviewedState result

theorem state_of_judge_eq_over {c c' : Controller} {ref : ChangeSetRef} {elapsed : Nat}
    {reply : Except ApiError ChangeSet} {result : Except ChangeSetError ReviewOutcome}
    (h : c.judge ref elapsed reply = .over result c') (hstate : c.state = .waitingForCreation) :
    c'.state = reviewedState result := by
  cases concludes_of_judge_eq_over h with
  | failed => exact hstate
  | late | noChanges | notExecutable | changes => rfl

/-- The state in which a review ends is one of the lifecycle. -/
theorem Lifecycle.of_reviewedState (result : Except ChangeSetError ReviewOutcome) :
    Lifecycle .review [] .waitingForCreation (reviewedState result) := by
  unfold reviewedState
  split
  · exact .reviewed (.inr (.inl rfl))
  · exact .reviewed (.inl rfl)
  · exact .reviewing [] _
  · exact .reviewed (.inr (.inr rfl))

theorem exists_changes_of_reviewedState {result : Except ChangeSetError ReviewOutcome}
    (h : reviewedState result = .available) : ∃ changes, result = .ok (.changes changes) := by
  unfold reviewedState at h
  split at h <;> first | exact ⟨_, rfl⟩ | cases h

/-- A step of a review keeps to the lifecycle, unless it begins the review out of turn; and the
state goes on with the review. -/
theorem Timely.step {clock : Clock} {r r' : Review} {actions : List Action} (h : Timely r)
    (leads : (r.step clock).Leads clock actions r') :
    Timely r' ∧ (Lifecycle .review actions r.controller.state r'.controller.state ∨
      OutOfTurn .review actions r.controller.state r'.controller.state) := by
  cases Review.steps_of_leads leads with
  | begin hphase =>
    refine ⟨rfl, ?_⟩
    -- the review begins, whatever the state is
    by_cases hcreated : r.controller.state = .created
    · exact .inl (hcreated ▸ .awaited)
    · by_cases hwaiting : r.controller.state = .waitingForCreation
      · exact .inl (hwaiting ▸ .reviewing [] _)
      · exact .inr (.review ⟨hcreated, hwaiting⟩)
  | ask hphase | pause hphase | wake hphase =>
    rw [Timely, hphase] at h
    exact ⟨h, .inl (.reviewing _ _)⟩
  | settle hphase hjudge =>
    rw [Timely, hphase] at h
    have hstate := state_of_judge_eq_over hjudge h
    refine ⟨hstate, .inl ?_⟩
    rw [h]
    exact hstate ▸ .of_reviewedState _

/-- Without a change set a review has no steps. -/
theorem not_leads_of_changeSet_eq_none {clock : Clock} {r r' : Review} {actions : List Action}
    (hphase : r.phase = .waiting) (hset : r.controller.changeSet = none) :
    ¬ (r.step clock).Leads clock actions r' := by
  intro leads
  cases Review.steps_of_leads leads with
  | begin _ hsubmitted => cases hset.symm.trans hsubmitted
  | ask hother | pause hother | settle hother | wake hother => cases hphase.symm.trans hother

/-! ### What is known of a controller -/

/-- The actions **since the last accepted submission**, which begin with it. -/
def IsCurrent (input : ChangeSetInput) (ref : ChangeSetRef) (current trace : List Action) : Prop :=
  ∃ earlier rest, trace = earlier ++ current ∧
    current = .call (.createChangeSet input) (.ok ref) :: rest ∧
    ∀ a ∈ rest, a.accepted? = none

/-- **What is known** of a change set from the actions since its submission: if it is available, it
was described as executable. -/
def Work.Knows (ref : ChangeSetRef) (current : List Action) : Work → Prop
  | .idle c => c.state = .available → ∃ changes, Described c.stack ref changes current
  | .reviewing r => Timely r ∧ KnownReview r.controller.stack ref current r.phase

/-- **Where** the work of a controller stands after a trace: either nothing has been submitted, or
the change set is that of the last accepted submission. -/
def Work.Stands (trace : List Action) (w : Work) : Prop :=
  (w.controller.changeSet = none ∧ w.state = .created ∧
      ∀ r, w = .reviewing r → r.phase = .waiting) ∨
    ∃ ref input current, w.controller.changeSet = some ref ∧ IsCurrent input ref current trace ∧
      input.stackName = w.controller.stack ∧ w.Knows ref current

section Stands

variable {trace : List Action} {c : Controller} {ref : ChangeSetRef} {input : ChangeSetInput}
  {current actions : List Action}

theorem IsCurrent.lastAccepted?_eq (h : IsCurrent input ref current trace) :
    lastAccepted? current = some ref := by
  obtain ⟨earlier, rest, -, rfl, hrest⟩ := h
  rw [← List.singleton_append, lastAccepted?_append_of_none hrest]
  rfl

theorem IsCurrent.append (h : IsCurrent input ref current trace)
    (hactions : ∀ a ∈ actions, a.accepted? = none) :
    IsCurrent input ref (current ++ actions) (trace ++ actions) := by
  obtain ⟨earlier, rest, rfl, rfl, hrest⟩ := h
  refine ⟨earlier, rest ++ actions, List.append_assoc _ _ _, rfl, fun a ha => ?_⟩
  exact (List.mem_append.mp ha).elim (hrest a) (hactions a)

theorem isCurrent_submitted (input : ChangeSetInput) (ref : ChangeSetRef) (trace : List Action) :
    IsCurrent input ref [.call (.createChangeSet input) (.ok ref)]
      (trace ++ [.call (.createChangeSet input) (.ok ref)]) :=
  ⟨trace, [], rfl, rfl, by simp⟩

end Stands

/-! ### The step lemma -/

namespace Work

variable {trace actions : List Action} {w w' : Work} {call : Call} {c : Controller}

/-- A passage **keeps** to the lifecycle or comes out of turn, and the work stands after it. -/
def Keeps (trace : List Action) (w : Work) (call : Call) (actions : List Action) (w' : Work) :
    Prop :=
  w'.Stands (trace ++ actions) ∧ (Lifecycle call actions w.state w'.state ∨
    OutOfTurn call actions w.state w'.state)

/-- The change set of a controller that is available was described as executable since its
submission. -/
theorem Stands.idle {ref : ChangeSetRef} (h : Stands trace (.idle c))
    (href : c.changeSet = some ref) : ∃ input current, IsCurrent input ref current trace ∧
      input.stackName = c.stack ∧
      (c.state = .available → ∃ changes, Described c.stack ref changes current) := by
  rcases h with ⟨hnone, -⟩ | ⟨ref', input, current, hset, hcurrent, hstack, hknows⟩
  · cases href.symm.trans hnone
  · cases href.symm.trans hset
    exact ⟨input, current, hcurrent, hstack, hknows⟩

/-- Actions that submit nothing keep the facts about a controller whose change set is not available
after them. -/
theorem Stands.unavailable {c' : Controller} (h : Stands trace (.idle c))
    (hset : c'.changeSet = c.changeSet) (hstack : c'.stack = c.stack)
    (hstate : c.changeSet = none → c'.state = .created) (hunavailable : c'.state ≠ .available)
    (hactions : ∀ a ∈ actions, a.accepted? = none) : Stands (trace ++ actions) (.idle c') := by
  rcases h with ⟨hnone, -, -⟩ | ⟨ref, input, current, hsome, hcurrent, hinput, -⟩
  · exact .inl ⟨hset.trans hnone, hstate hnone, by simp⟩
  · exact .inr ⟨ref, input, current ++ actions, hset.trans hsome, hcurrent.append hactions,
      hinput.trans hstack.symm, fun h => absurd h hunavailable⟩

/-- Actions that submit nothing keep the facts about a controller that stays as it is. -/
theorem Stands.append (h : Stands trace (.idle c)) (hactions : ∀ a ∈ actions, a.accepted? = none) :
    Stands (trace ++ actions) (.idle c) := by
  rcases h with hnone | ⟨ref, input, current, hsome, hcurrent, hinput, hknows⟩
  · exact .inl hnone
  · refine .inr ⟨ref, input, current ++ actions, hsome, hcurrent.append hactions, hinput,
      fun havailable => ?_⟩
    obtain ⟨changes, hdescribed⟩ := hknows havailable
    exact ⟨changes, hdescribed.append actions⟩

theorem Keeps.submit (h : Stands trace (.idle c)) (input : ChangeSetInput)
    (reply : Reply (.createChangeSet input)) :
    Keeps trace (.idle c) (.submit input) [.call (.createChangeSet input) reply]
      (.idle (c.submitted input.stackName input.changeSetType reply).2) := by
  rcases c.submitted_cases input.stackName input.changeSetType reply with
    ⟨ref, rfl, hsubmitted⟩ | ⟨subject, rfl, -, hsubmitted⟩ | ⟨cause, rfl, hsubmitted⟩
  · rw [hsubmitted]
    exact ⟨.inr ⟨ref, input, _, rfl, isCurrent_submitted input ref trace, rfl, nofun⟩,
      .inl (.submitted input ref c.state)⟩
  · rw [hsubmitted]
    exact ⟨h.append (by simp [Action.accepted?]), .inl (.rejected input _ _)⟩
  · rw [hsubmitted]
    exact ⟨h.append (by simp [Action.accepted?]), .inl (.rejected input cause _)⟩

theorem Keeps.begin (h : Stands trace (.idle c)) :
    Keeps trace (.idle c) .review [] (.reviewing (.start c)) := by
  refine ⟨?_, .inl (.reviewing [] c.state)⟩
  rw [List.append_nil]
  rcases h with ⟨hnone, hcreated, -⟩ | ⟨ref, input, current, hsome, hcurrent, hinput, -⟩
  · refine .inl ⟨hnone, hcreated, ?_⟩
    rintro r ⟨rfl⟩
    rfl
  · exact .inr ⟨ref, input, current, hsome, hcurrent, hinput, trivial, trivial⟩

theorem Keeps.step {clock : Clock} {r r' : Review} (h : Stands trace (.reviewing r))
    (leads : (r.step clock).Leads clock actions r') :
    Keeps trace (.reviewing r) .review actions (.reviewing r') := by
  rcases h with ⟨hnone, -, hwaiting⟩ |
    ⟨ref, input, current, hsome, hcurrent, hinput, htimely, hknown⟩
  · exact absurd leads (not_leads_of_changeSet_eq_none (hwaiting r rfl) hnone)
  · obtain ⟨htimely', hturn⟩ := htimely.step leads
    have hdrives : Drives r.controller.stack ref current r.controller :=
      ⟨rfl, hsome, hcurrent.lastAccepted?_eq⟩
    obtain ⟨-, -, hdrives', hknown'⟩ := KnownReview.step hdrives hknown leads
    have hactions : ∀ a ∈ actions, a.accepted? = none := by
      intro a ha
      obtain ⟨stack, id, reply, rfl⟩ := Review.describes_of_leads leads a ha
      rfl
    refine ⟨.inr ⟨ref, input, current ++ actions, hdrives'.changeSet_eq,
      hcurrent.append hactions, hinput.trans hdrives'.stack_eq.symm, htimely', ?_⟩, hturn⟩
    exact hdrives'.stack_eq.symm ▸ hknown'

theorem Keeps.over {clock : Clock} {r : Review} {result : Except ChangeSetError ReviewOutcome}
    (h : Stands trace (.reviewing r)) (hfinish : r.step clock = .finish (result, c)) :
    Keeps trace (.reviewing r) .review [] (.idle c) := by
  rw [Keeps, List.append_nil]
  rcases h with ⟨hnone, hcreated, hwaiting⟩ |
    ⟨ref, input, current, hsome, hcurrent, hinput, htimely, hknown⟩
  · rw [Review.step, hwaiting r rfl] at hfinish
    simp only [show r.controller.changeSet = none from hnone] at hfinish
    cases hfinish
    exact ⟨.inl ⟨hnone, hcreated, by simp⟩, .inl (.reviewing [] _)⟩
  · obtain ⟨hphase, rfl⟩ := Review.phase_of_step_eq_finish hsome hfinish
    refine ⟨.inr ⟨ref, input, current, hsome, hcurrent, hinput, fun havailable => ?_⟩,
      .inl (.reviewing [] _)⟩
    rw [Timely, hphase] at htimely
    rw [hphase] at hknown
    obtain ⟨changes, rfl⟩ := exists_changes_of_reviewedState (htimely.symm.trans havailable)
    exact ⟨changes, hknown.1 changes rfl⟩

theorem Keeps.execute {ref : ChangeSetRef} (h : Stands trace (.idle c))
    (href : c.changeSet = some ref) (reply : Reply (.executeChangeSet c.stack ref.id)) :
    Keeps trace (.idle c) .execute [.call (.executeChangeSet c.stack ref.id) reply]
      (.idle (c.executed ref reply).2) := by
  have hsome : c.changeSet ≠ none := by simp [href]
  have hactions : ∀ a ∈ [Action.call (.executeChangeSet c.stack ref.id) reply],
      a.accepted? = none := by simp [Action.accepted?]
  cases reply with
  | ok =>
    refine ⟨h.unavailable rfl rfl (absurd · hsome) (by rintro ⟨⟩) hactions, ?_⟩
    by_cases havailable : c.state = .available
    · rw [show (Work.idle c).state = .available from havailable]
      exact .inl (.executed c.stack ref.id)
    · exact .inr (.executed havailable c.stack ref.id)
  | error cause =>
    refine ⟨h.unavailable rfl rfl (absurd · hsome) (by rintro ⟨⟩) hactions, ?_⟩
    by_cases havailable : c.state = .available
    · rw [show (Work.idle c).state = .available from havailable]
      exact .inl (.refused c.stack ref.id cause)
    · exact .inr (.refused havailable c.stack ref.id cause)

theorem Keeps.finish (h : Stands trace (.idle c)) (success : Bool) :
    Keeps trace (.idle c) (.finish success) [] (.idle (c.finish success)) := by
  rw [Controller.finish]
  split
  next hexecuting =>
    refine ⟨h.unavailable rfl rfl (fun hnone => ?_) (by cases success <;> nofun) (by simp), ?_⟩
    · -- without a change set nothing is executing
      rcases h with ⟨-, hcreated, -⟩ | ⟨ref, -, -, hsome, -⟩
      · cases hcreated.symm.trans hexecuting
      · cases hnone.symm.trans hsome
    · rw [show (Work.idle c).state = .executing from hexecuting]
      exact .inl (.finished success)
  next hexecuting => exact ⟨h.append (by simp), .inl (.unexecuted success hexecuting)⟩

/-- **Step lemma.** Every passage keeps to the lifecycle or comes out of turn. -/
theorem Stands.goes (h : w.Stands trace) (goes : w.Goes call actions w') :
    Keeps trace w call actions w' := by
  cases goes with
  | submit c input reply => exact .submit h input reply
  | begin c => exact .begin h
  | step leads => exact .step h leads
  | «over» hfinish => exact .over h hfinish
  | execute c href reply => exact .execute h href reply
  | executeNothing c hnone => exact ⟨h.append (by simp), .inl (.unsubmitted c.state)⟩
  | finish c success => exact .finish h success

/-- What is executed is the change set of the last accepted submission. -/
theorem Stands.of_executes {stack id : String} {reply : Reply (.executeChangeSet stack id)}
    (h : w.Stands trace) (goes : w.Goes call actions w')
    (hactions : actions = [.call (.executeChangeSet stack id) reply]) :
    ∃ input ref current, IsCurrent input ref current trace ∧ input.stackName = stack ∧
      ref.id = id ∧ (w.state = .available → ∃ changes, Described stack ref changes current) := by
  cases goes with
  | execute c href reply' =>
    cases hactions
    obtain ⟨input, current, hcurrent, hinput, havailable⟩ := h.idle href
    exact ⟨input, _, current, hcurrent, hinput, rfl, havailable⟩
  | step leads =>
    obtain ⟨_, _, _, heq⟩ :=
      Review.describes_of_leads leads _ (hactions ▸ List.mem_singleton_self _)
    cases heq
  | submit => cases hactions
  | begin | «over» | executeNothing | finish => cases hactions

/-! ### Runs -/

/-- What a new controller has and every passage keeps holds **along a run**: after it, and before
every passage of it. -/
theorem Runs.invariant {settings : ReviewSettings} {history : List Passage}
    {holds : List Action → Work → Prop} (hstart : holds [] (.idle (.start settings)))
    (hgoes : ∀ trace w call actions w', holds trace w → w.Goes call actions w' →
      holds (trace ++ actions) w') (run : Runs settings history w) :
    holds (traceOf history) w ∧ ∀ earlier p later, history = earlier ++ p :: later →
      holds (traceOf earlier) p.before ∧ p.before.Goes p.call p.actions p.after := by
  induction run with
  | start => exact ⟨hstart, fun earlier p later h => by simp at h⟩
  | pass run goes ih =>
    obtain ⟨hholds, hpassages⟩ := ih
    refine ⟨?_, fun earlier p later h => ?_⟩
    · rw [traceOf_append_singleton]
      exact hgoes _ _ _ _ _ hholds goes
    · -- `p` is the new passage, or it stands in the history already
      rcases List.eq_nil_or_concat later with rfl | ⟨rest, last, rfl⟩
      · obtain ⟨rfl, hp⟩ := List.append_inj' h rfl
        obtain rfl := List.head_eq_of_cons_eq hp
        exact ⟨hholds, goes⟩
      · rw [List.concat_eq_append, ← List.cons_append, ← List.append_assoc] at h
        exact hpassages earlier p rest (List.append_inj' h rfl).1

/-- **Run lemma.** Before every passage of a run, the work stands after the passages before it. -/
theorem Runs.stands {settings : ReviewSettings} {history : List Passage}
    (run : Runs settings history w) :
    w.Stands (traceOf history) ∧ ∀ earlier p later, history = earlier ++ p :: later →
      p.before.Stands (traceOf earlier) ∧ p.before.Goes p.call p.actions p.after :=
  run.invariant (.inl ⟨rfl, rfl, by simp⟩) fun _ _ _ _ _ h goes => (h.goes goes).1

end Work

/-- **The life of a change set.** In any calls on a new controller, whatever the service replies,

* each passage keeps to the lifecycle, or it is a review or an execution out of turn;
* a state in which a life is over is left only by an accepted submission or out of turn;
* what is executed is the change set of the last accepted submission, and if it is executed in its
  turn, then it was described as executable since. -/
theorem life_of_runs {settings : ReviewSettings} {history : List Passage} {w : Work}
    (run : w.Runs settings history) :
    (∀ p ∈ history, Lifecycle p.call p.actions p.before.state p.after.state ∨
      OutOfTurn p.call p.actions p.before.state p.after.state) ∧
    (∀ p ∈ history, p.before.state.isTerminal → p.after.state ≠ p.before.state →
      (∃ input ref, p.call = .submit input ∧
        p.actions = [.call (.createChangeSet input) (.ok ref)]) ∨
      OutOfTurn p.call p.actions p.before.state p.after.state) ∧
    ∀ earlier p later stack id reply, history = earlier ++ p :: later →
      p.actions = [.call (.executeChangeSet stack id) reply] →
      ∃ input ref current, IsCurrent input ref current (traceOf earlier) ∧
        input.stackName = stack ∧ ref.id = id ∧
        (p.before.state = .available → ∃ changes, Described stack ref changes current) := by
  have hpassages := run.stands.2
  have hturn (p : Passage) (hp : p ∈ history) :
      Lifecycle p.call p.actions p.before.state p.after.state ∨
        OutOfTurn p.call p.actions p.before.state p.after.state := by
    obtain ⟨earlier, later, rfl⟩ := List.append_of_mem hp
    obtain ⟨hstands, hgoes⟩ := hpassages earlier p later rfl
    exact (hstands.goes hgoes).2
  refine ⟨hturn, fun p hp hterminal hne => ?_, fun earlier p later stack id reply h hactions => ?_⟩
  · rcases hturn p hp with hlife | hout
    · exact .inl (hlife.submitted_of_isTerminal hterminal hne)
    · exact .inr hout
  · obtain ⟨hstands, hgoes⟩ := hpassages earlier p later h
    exact hstands.of_executes hgoes hactions

/-! ### A change set that adds a queue -/

/-- The submission of a change set that adds one queue. -/
def queueInput : ChangeSetInput := ⟨"demo", "queue", .create, "Resources: {}", [], []⟩

/-- The controller of that change set, once it was submitted. -/
def queueController (createdAt : Option Instant) (state : ChangeSetState) : Controller :=
  { settings := .default, stack := "demo", changeSet := some ⟨"queue", "demo"⟩, createdAt, state }

/-- The **life** of the change set: it is submitted, reviewed and executed, and the execution
succeeds. -/
def queueHistory : List Passage :=
  let created := queueController none .created
  let awaited := queueController none .waitingForCreation
  let available := queueController (some .epoch) .available
  let executing := queueController (some .epoch) .executing
  let asking : Review := ⟨awaited, .asking ⟨"queue", "demo"⟩ 0⟩
  let judging : Review := ⟨awaited, .judging ⟨"queue", "demo"⟩ 0 (.ok queueChangeSet)⟩
  let reviewed : Review := ⟨available, .over (.ok (.changes queueChangeSet.changes))⟩
  [⟨.submit queueInput, .idle (.start .default),
      [.call (.createChangeSet queueInput) (.ok ⟨"queue", "demo"⟩)], .idle created⟩,
    ⟨.review, .idle created, [], .reviewing (.start created)⟩,
    ⟨.review, .reviewing (.start created), [], .reviewing asking⟩,
    ⟨.review, .reviewing asking,
      [.call (.describeChangeSet "demo" "queue") (.ok queueChangeSet)], .reviewing judging⟩,
    ⟨.review, .reviewing judging, [], .reviewing reviewed⟩,
    ⟨.review, .reviewing reviewed, [], .idle available⟩,
    ⟨.execute, .idle available, [.call (.executeChangeSet "demo" "queue") (.ok ())],
      .idle executing⟩,
    ⟨.finish true, .idle executing, [], .idle (queueController (some .epoch) .succeeded)⟩]

theorem queue_succeeds :
    Work.Runs .default queueHistory (.idle (queueController (some .epoch) .succeeded)) := by
  have review {history : List Passage} {r r' : Review} {actions : List Action}
      (run : Work.Runs .default history (.reviewing r))
      (leads : (r.step ⟨0, 0, .epoch⟩).Leads ⟨0, 0, .epoch⟩ actions r') :
      Work.Runs .default (history ++ [⟨.review, .reviewing r, actions, .reviewing r'⟩])
        (.reviewing r') := run.pass (.step leads)
  have finish {r : Review} {c : Controller} {result : Except ChangeSetError ReviewOutcome}
      (h : r.step ⟨0, 0, .epoch⟩ = .finish (result, c)) :
      Work.Goes (.reviewing r) .review [] (.idle c) := .over h
  have begun : Work.Runs .default [] (.idle (.start .default)) := .start
  have submitted := begun.pass (.submit _ queueInput (.ok ⟨"queue", "demo"⟩))
  have waiting := submitted.pass (.begin _)
  have asking := review waiting (.goOn _)
  have described := review asking (.call _ _ (.ok queueChangeSet))
  have judged := review described (.goOn _)
  have reviewed := judged.pass (finish rfl)
  have executed := reviewed.pass (.execute _ rfl (.ok ()))
  exact executed.pass (.finish _ true)

/-- The change set of the queue keeps to the lifecycle in every passage, and it is executed in its
turn, since it was described as executable after its submission. -/
theorem queue_described :
    Work.Runs .default queueHistory (.idle (queueController (some .epoch) .succeeded)) ∧
    queueHistory.map (fun p => p.after.state) =
      [.created, .created, .waitingForCreation, .waitingForCreation, .available, .available,
        .executing, .succeeded] ∧
    (∀ p ∈ queueHistory, Lifecycle p.call p.actions p.before.state p.after.state) ∧
    ∃ input ref current, IsCurrent input ref current (traceOf (queueHistory.take 6)) ∧
      input.stackName = "demo" ∧ ref.id = "queue" ∧
      ∃ changes, Described "demo" ref changes current := by
  obtain ⟨hturn, -, hexecuted⟩ := life_of_runs queue_succeeds
  refine ⟨queue_succeeds, rfl, fun p hp => (hturn p hp).resolve_right ?_, ?_⟩
  · -- a review out of turn goes back to waiting, and only what is available is executed here
    simp only [queueHistory, List.mem_cons, List.not_mem_nil, or_false] at hp
    rcases hp with rfl | rfl | rfl | rfl | rfl | rfl | rfl | rfl <;> intro hout <;> cases hout
    next hstate => exact hstate.1 rfl
    next hstate => exact hstate rfl
  · obtain ⟨input, ref, current, hcurrent, hstack, hid, hdescribed⟩ :=
      hexecuted (queueHistory.take 6) _ (queueHistory.drop 7) "demo" "queue" (.ok ()) rfl rfl
    exact ⟨input, ref, current, hcurrent, hstack, hid, hdescribed rfl⟩

/-- Outside the lifecycle, an accepted change set is executed at once, and a change set whose
execution succeeded is waited for again. -/
theorem executes_unreviewed :
    (∃ history w p, Work.Runs .default (history ++ [p]) w ∧
      traceOf history = [.call (.createChangeSet queueInput) (.ok ⟨"queue", "demo"⟩)] ∧
      p.actions = [.call (.executeChangeSet "demo" "queue") (.ok ())] ∧
      p.before.state = .created ∧ p.after.state = .executing ∧
      ¬ Lifecycle p.call p.actions p.before.state p.after.state) ∧
    ∃ history w p, Work.Runs .default (history ++ [p]) w ∧
      p.before.state = .succeeded ∧ p.after.state = .waitingForCreation ∧
      ¬ Lifecycle p.call p.actions p.before.state p.after.state := by
  constructor
  · have begun : Work.Runs .default [] (.idle (.start .default)) := .start
    have submitted := begun.pass (.submit _ queueInput (.ok ⟨"queue", "demo"⟩))
    refine ⟨_, _, _, submitted.pass (.execute _ rfl (.ok ())), rfl, rfl, rfl, rfl, ?_⟩
    rintro ⟨⟩
  · have waiting := queue_succeeds.pass (.begin _)
    have leads : ((Review.start (queueController (some .epoch) .succeeded)).step
        ⟨0, 0, .epoch⟩).Leads ⟨0, 0, .epoch⟩ [] _ := .goOn _
    refine ⟨_, _, _, waiting.pass (.step leads), rfl, rfl, ?_⟩
    rintro ⟨⟩

end Controller

end StackDeploy
