import Mathlib.Data.List.TakeWhile
import StackDeploy.Proofs.Deployment.Rank

/-!
# What an operation hears of its stack

An operation that changes its stack sets the change off and then watches the stack. The watch ends
with the first description that decides, or when the time is up; and what it has concluded is all
that the outcome depends on, apart from the event that explains a failure.

* `looks` — the descriptions of a stack since a change was set off.
* `Watch.Concludes` — what a watch concludes from them.
* `Goal.Answers` — the outcomes that answer a conclusion.
* `Session.Attends` — where an operation stands with what it has heard; `Attends.move` is the step
  lemma.
-/

namespace StackDeploy

/-! ### Looks at a stack -/

namespace Action

/-- The action **sets off** a change of the stack: a change set is executed or a stack deleted, and
the service accepts it. -/
def setsOff : Action → Bool
  | .call (.executeChangeSet _ _) (.ok ()) | .call (.deleteStack _) (.ok ()) => true
  | _ => false

/-- What a look at a stack has shown. -/
def look? (stack : String) : Action → Option (Except ApiError Stack)
  | .call (.describeStack name) reply => if name = stack then some reply else none
  | _ => none

theorem look?_eq_none_of_setsOff {a : Action} (h : a.setsOff = true) (stack : String) :
    a.look? stack = none := by
  unfold setsOff at h
  split at h
  · rfl
  · rfl
  · cases h

theorem look?_eq_none {a : Action} (h : a.operation? ≠ some .describeStack) (stack : String) :
    a.look? stack = none := by
  cases a with
  | write => rfl
  | call request reply => cases request <;> first | rfl | exact absurd rfl h

/-- The feed and the painter set nothing off and do not look at the stack. -/
theorem setsOff_eq_false_of_isProgress {a : Action} (h : a.isProgress) : a.setsOff = false := by
  unfold isProgress at h
  split at h
  · rfl
  · rfl
  · rfl
  · cases h

theorem look?_eq_none_of_isProgress {a : Action} (h : a.isProgress) (stack : String) :
    a.look? stack = none := by
  unfold isProgress at h
  split at h
  · rfl
  · rfl
  · rfl
  · cases h

end Action

/-- Nothing has been set off. -/
def Quiet (trace : List Action) : Prop := ∀ a ∈ trace, a.setsOff = false

/-- A change has been set off. -/
def SetOff (trace : List Action) : Prop := ∃ a ∈ trace, a.setsOff = true

/-- The **looks** at a stack since a change was set off, with what they have shown. -/
def looks (stack : String) (trace : List Action) : List (Except ApiError Stack) :=
  (trace.dropWhile fun a => !a.setsOff).filterMap (Action.look? stack)

section Looks

variable {trace actions : List Action} {stack : String}

theorem quiet_nil : Quiet [] := List.forall_mem_nil _

theorem SetOff.append (h : SetOff trace) (actions : List Action) : SetOff (trace ++ actions) := by
  obtain ⟨a, ha, hoff⟩ := h
  exact ⟨a, List.mem_append_left _ ha, hoff⟩

theorem Quiet.append (h : Quiet trace) (hactions : Quiet actions) : Quiet (trace ++ actions) :=
  fun a ha => (List.mem_append.mp ha).elim (h a) (hactions a)

/-- An action that sets nothing off keeps a trace quiet. -/
theorem Quiet.append_singleton (h : Quiet trace) {a : Action} (ha : a.setsOff = false) :
    Quiet (trace ++ [a]) :=
  h.append fun _ hmem => List.mem_singleton.mp hmem ▸ ha

theorem SetOff.of_append (h : SetOff (trace ++ actions)) (hactions : Quiet actions) :
    SetOff trace := by
  obtain ⟨a, ha, hoff⟩ := h
  rcases List.mem_append.mp ha with ha | ha
  · exact ⟨a, ha, hoff⟩
  · exact absurd ((hactions a ha).symm.trans hoff) nofun

theorem SetOff.not_quiet (h : SetOff trace) : ¬ Quiet trace := by
  obtain ⟨a, ha, hoff⟩ := h
  exact fun hquiet => Bool.false_ne_true ((hquiet a ha).symm.trans hoff)

theorem looks_append (h : SetOff trace) (actions : List Action) :
    looks stack (trace ++ actions) =
      looks stack trace ++ actions.filterMap (Action.look? stack) := by
  obtain ⟨a, ha, hoff⟩ := h
  have hsome : (trace.dropWhile fun a => !a.setsOff) ≠ [] := by
    rw [Ne, List.dropWhile_eq_nil_iff]
    exact fun hall => by simpa [hoff] using hall a ha
  rw [looks, List.dropWhile_append, if_neg (by simpa using hsome), List.filterMap_append, looks]

theorem Quiet.dropWhile_eq_nil (h : Quiet trace) :
    (trace.dropWhile fun a => !a.setsOff) = [] := by
  rw [List.dropWhile_eq_nil_iff]
  exact fun a ha => by simp [h a ha]

theorem looks_eq_nil_of_quiet (h : Quiet trace) : looks stack trace = [] := by
  rw [looks, h.dropWhile_eq_nil, List.filterMap_nil]

theorem setOff_of_mem_looks {reply : Except ApiError Stack} (h : reply ∈ looks stack trace) :
    SetOff trace := by
  by_contra hnone
  have hquiet : Quiet trace := fun a ha => by
    by_contra hoff
    exact hnone ⟨a, ha, by simpa using hoff⟩
  rw [looks_eq_nil_of_quiet hquiet] at h
  cases h

/-- Actions that are no looks add nothing to the looks. -/
theorem looks_append_of_none (h : ∀ a ∈ actions, a.look? stack = none) :
    looks stack (trace ++ actions) = looks stack trace := by
  have hnone : actions.filterMap (Action.look? stack) = [] := List.filterMap_eq_nil_iff.mpr h
  have hdropped : (actions.dropWhile fun a => !a.setsOff).filterMap (Action.look? stack) = [] :=
    List.filterMap_eq_nil_iff.mpr fun a ha => h a ((List.dropWhile_sublist _).subset ha)
  rw [looks, looks, List.dropWhile_append]
  split
  next hquiet => rw [hdropped, List.isEmpty_iff.mp hquiet, List.filterMap_nil]
  · rw [List.filterMap_append, hnone, List.append_nil]

/-- The looks begin with the change that is set off. -/
theorem looks_eq_nil (h : Quiet trace) {a : Action} (ha : a.setsOff = true) :
    looks stack (trace ++ [a]) = [] := by
  simp [looks, List.dropWhile_append, h.dropWhile_eq_nil, ha, Action.look?_eq_none_of_setsOff ha]

end Looks

/-! ### Watches -/

namespace Watch

/-- The descriptions **decide nothing**. -/
def Undecided (heard : List (Except ApiError Stack)) : Prop :=
  ∀ reply ∈ heard, verdict? reply = none

/-- A description that shows the stack in a status in which something is still going on. -/
def IsPending (reply : Except ApiError Stack) : Prop :=
  ∃ shown, reply = .ok shown ∧ shown.status.isTerminal = false

/-- What a watch **concludes** from what it has heard: the first description that decides ends it,
or the time is up and none has. -/
inductive Concludes : List (Except ApiError Stack) → Watched → Prop
  | decided {heard : List (Except ApiError Stack)} {reply : Except ApiError Stack}
      {watched : Watched} (hearlier : Undecided heard) (h : verdict? reply = some watched) :
      Concludes (heard ++ [reply]) watched
  | timedOut {heard : List (Except ApiError Stack)} (h : Undecided heard) :
      Concludes heard .timedOut

/-- What a watch has heard, in each of its phases. -/
def Heeds (heard : List (Except ApiError Stack)) (w : Watch) : Prop :=
  match w.phase with
  | .waiting | .asking _ | .pausing _ _ => Undecided heard
  | .heard _ reply => ∃ earlier, heard = earlier ++ [reply] ∧ Undecided earlier
  | .over watched => Concludes heard watched

variable {clock : Clock} {w w' : Watch} {heard : List (Except ApiError Stack)}
  {actions : List Action} {reply : Except ApiError Stack}

theorem verdict?_eq_none :
    verdict? reply = none ↔ IsPending reply := by
  unfold verdict? IsPending
  split
  next shown => by_cases hterminal : shown.status.isTerminal <;> simp [hterminal]
  · simp
  · simp

theorem undecided_iff : Undecided heard ↔ ∀ reply ∈ heard, IsPending reply :=
  forall₂_congr fun _ _ => verdict?_eq_none

theorem verdict?_ne_timedOut : verdict? reply ≠ some .timedOut := by
  unfold verdict?
  split
  · split <;> simp
  · simp
  · simp

theorem verdict?_eq_gone :
    verdict? reply = some .gone ↔ ∃ subject, reply = .error (.notFound subject) := by
  unfold verdict?
  split
  next shown => by_cases hterminal : shown.status.isTerminal <;> simp [hterminal]
  next subject => simp
  next cause hother => simpa using fun subject => hother subject

theorem verdict?_eq_failed {cause : ApiError} (h : verdict? reply = some (.failed cause)) :
    reply = .error cause ∧ ∀ subject, cause ≠ .notFound subject := by
  unfold verdict? at h
  split at h
  · split at h <;> cases h
  · cases h
  next hother =>
    cases h
    exact ⟨rfl, fun subject => hother subject⟩

theorem verdict?_eq_terminal {shown : Stack} :
    verdict? reply = some (.terminal shown) ↔ reply = .ok shown ∧ shown.status.isTerminal := by
  unfold verdict?
  split
  next other =>
    constructor
    · intro h
      split at h
      next hterminal =>
        cases h
        exact ⟨rfl, hterminal⟩
      · cases h
    · rintro ⟨⟨⟩, hterminal⟩
      rw [if_pos hterminal]
  · simp
  · simp

theorem Undecided.append {reply : Except ApiError Stack} (h : Undecided heard)
    (hreply : verdict? reply = none) : Undecided (heard ++ [reply]) := by
  intro r hr
  rcases List.mem_append.mp hr with hr | hr
  · exact h r hr
  · exact List.mem_singleton.mp hr ▸ hreply

/-- A watch takes in what its looks show. -/
theorem Heeds.step (h : w.Heeds heard) (leads : (w.step clock).Leads clock actions w') :
    w'.stack = w.stack ∧ w'.timeout = w.timeout ∧
      w'.Heeds (heard ++ actions.filterMap (Action.look? w.stack)) := by
  rw [Heeds] at h
  cases steps_of_leads leads with
  | begin hphase | wake hphase =>
    rw [hphase] at h
    exact ⟨rfl, rfl, by simpa [Heeds] using h⟩
  | ask hphase reply =>
    rw [hphase] at h
    exact ⟨rfl, rfl, heard, by simp [Action.look?], h⟩
  | pause hphase hverdict =>
    rw [hphase] at h
    obtain ⟨earlier, rfl, hearlier⟩ := h
    exact ⟨rfl, rfl, by simpa [Heeds] using hearlier.append hverdict⟩
  | settle hphase hverdict =>
    rw [hphase] at h
    obtain ⟨earlier, rfl, hearlier⟩ := h
    exact ⟨rfl, rfl, by simpa [Heeds] using Concludes.decided hearlier hverdict⟩
  | timeOut hphase =>
    rw [hphase] at h
    exact ⟨rfl, rfl, by simpa [Heeds] using Concludes.timedOut h⟩
  | sleep hphase =>
    rw [hphase] at h
    exact ⟨rfl, rfl, by simpa [Heeds, hphase] using h⟩

theorem concludes_terminal {shown : Stack} : Concludes heard (.terminal shown) ↔
    ∃ earlier, heard = earlier ++ [.ok shown] ∧ Undecided earlier ∧ shown.status.isTerminal := by
  constructor
  · rintro ⟨hearlier, hreply⟩
    obtain ⟨rfl, hterminal⟩ := verdict?_eq_terminal.mp hreply
    exact ⟨_, rfl, hearlier, hterminal⟩
  · rintro ⟨earlier, rfl, hearlier, hterminal⟩
    exact .decided hearlier (verdict?_eq_terminal.mpr ⟨rfl, hterminal⟩)

/-- A conclusion is that of the description that decides. -/
theorem Concludes.eq_of_mem {watched other : Watched} (h : Concludes heard watched)
    (hmem : reply ∈ heard) (hreply : verdict? reply = some other) : watched = other := by
  cases h with
  | timedOut h => exact absurd ((h reply hmem).symm.trans hreply) (by simp)
  | @decided earlier last _ hearlier hlast =>
    rcases List.mem_append.mp hmem with hmem | hmem
    · exact absurd ((hearlier reply hmem).symm.trans hreply) (by simp)
    · obtain rfl := List.mem_singleton.mp hmem
      exact Option.some.inj (hlast.symm.trans hreply)

/-- What has been heard allows for one conclusion. -/
theorem Concludes.unique {watched watched' : Watched} (h : Concludes heard watched)
    (h' : Concludes heard watched') : watched = watched' := by
  have hundecided {earlier : List (Except ApiError Stack)} {reply : Except ApiError Stack}
      {watched : Watched} (hreply : verdict? reply = some watched) :
      ¬ Undecided (earlier ++ [reply]) := fun hall => by
    simpa [hreply] using hall reply (by simp)
  cases h with
  | timedOut h =>
    cases h' with
    | decided _ hreply => exact absurd h (hundecided hreply)
    | timedOut => rfl
  | @decided earlier reply _ _ hreply =>
    generalize hheard : earlier ++ [reply] = heard at h'
    cases h' with
    | @decided earlier' reply' _ _ hreply' =>
      obtain ⟨-, hlast⟩ := List.append_inj' hheard rfl
      cases hlast
      exact Option.some.inj (hreply.symm.trans hreply')
    | timedOut h => exact absurd (hheard ▸ h) (hundecided hreply)

end Watch

/-! ### Answers -/

/-- The stack is in a status that the operation **wants**. -/
def Goal.isReached : Goal → StackStatus → Bool
  | .deployment, status => status.isSuccess
  | .deletion, status => status = .deleteComplete

/-- The outcomes of an operation on a stack that **answer** what its watch has concluded. -/
inductive Goal.Answers (stack : String) (timeout : Nat) : Goal → Watched → Outcome → Prop
  | deployed {shown : Stack} (h : shown.status.isSuccess) (tree : ProgressTree)
      (streamError : Option String) :
      Answers stack timeout .deployment (.terminal shown) (.deployed shown.status tree streamError)
  | deleted {shown : Stack} (h : shown.status = .deleteComplete) (tree : ProgressTree)
      (streamError : Option String) :
      Answers stack timeout .deletion (.terminal shown) (.deleted tree streamError)
  /-- The stack has failed, with or without an event that explains it. -/
  | failed {goal : Goal} {shown : Stack} {e : DeployError} (h : goal.isReached shown.status = false)
      {key : String} (he : e.withoutCause = .stackFailedWithoutCause key shown.status) :
      Answers stack timeout goal (.terminal shown) (.failed e)
  | vanished : Answers stack timeout .deployment .gone (.failed (.stackVanished stack))
  | gone (tree : ProgressTree) (streamError : Option String) :
      Answers stack timeout .deletion .gone (.deleted tree streamError)
  | unanswered (goal : Goal) (cause : ApiError) :
      Answers stack timeout goal (.failed cause) (.failed (.api .describeStack stack cause))
  | timedOut (goal : Goal) :
      Answers stack timeout goal .timedOut (.failed (.timeout stack (timeout / 1000)))

namespace Session

/-- What is known when a watch has come to its conclusion. -/
def ending (s : Session) (target : Target) : Watched → Ending
  | .terminal stack => .terminal stack
  | .gone => .gone
  | .failed cause => .failed (.api .describeStack target.stack cause)
  | .timedOut => .failed (.timeout target.stack (s.settings.deploy.timeout / 1000))

theorem watched_eq_stop (s : Session) (target : Target) (watched : Watched) :
    s.watched target watched = s.stop target (s.ending target watched) := by
  cases watched <;> rfl

/-- What the operation of a phase is for. -/
def Phase.goal : Phase → Goal
  | .looking _ | .deleting _ _ | .deletionAccepted _ _ _ => .deletion
  | .executing target _ _ | .watching target _ | .stopping target _ | .tracing target _ _ =>
    target.goal
  | .submitting _ _ | .submittingUpdate _ _ | .reviewing _ _ | .announcing _ _ _ | .following
  | .over _ => .deployment

/-- Where an operation stands with what it has **heard** of its stack: before anything is set off it
has not begun to watch, then the watch heeds all looks, and its conclusion is answered. -/
def Attends (goal : Goal) (stack : String) (trace : List Action) (s : Session) : Prop :=
  match s.phase with
  | .watching target w =>
    target.goal = goal ∧ target.stack = stack ∧ w.stack = stack ∧
      w.timeout = s.settings.deploy.timeout ∧ SetOff trace ∧ w.Heeds (looks stack trace)
  | .stopping target ending =>
    target.goal = goal ∧ target.stack = stack ∧
      (Quiet trace ∧ (∃ e, ending = .failed e) ∨
        SetOff trace ∧ ∃ watched, Watch.Concludes (looks stack trace) watched ∧
          ending = s.ending target watched)
  | .tracing _ status _ =>
    SetOff trace ∧ goal.isReached status = false ∧
      ∃ shown, Watch.Concludes (looks stack trace) (.terminal shown) ∧ shown.status = status
  | .over outcome =>
    Quiet trace ∧ (outcome = .noChanges ∨ ∃ e, outcome = .failed e) ∨
      SetOff trace ∧ ∃ watched, Watch.Concludes (looks stack trace) watched ∧
        goal.Answers stack s.settings.deploy.timeout watched outcome
  | .following => False
  | phase => Quiet trace ∧ phase.goal = goal ∧ phase.stack = stack

variable {s t : Session} {clock : Clock} {goal : Goal} {stack : String}
  {trace actions : List Action}

/-- Once a change is set off, an operation watches its stack or is about to end. -/
theorem Attends.watching_or_ending (h : s.Attends goal stack trace) (hoff : SetOff trace) :
    (∃ target w, s.phase = .watching target w) ∨ s.phase.IsEnding := by
  cases hphase : s.phase with
  | watching target w => exact .inl ⟨target, w, rfl⟩
  | stopping => exact .inr (.inl rfl)
  | tracing => exact .inr (.inr (.inl rfl))
  | «over» => exact .inr (.inr (.inr rfl))
  | following => simp only [Attends, hphase] at h
  | submitting | submittingUpdate | reviewing | announcing | executing | looking | deleting
  | deletionAccepted =>
    simp only [Attends, hphase] at h
    exact absurd h.1 hoff.not_quiet

/-! ### Steps of the operation -/

theorem attends_early {phase : Phase} (hquiet : Quiet trace) (hearly : phase.stage = .early)
    (hgoal : phase.goal = goal) (hstack : phase.stack = stack) :
    Attends goal stack trace { s with phase } := by
  cases phase with
  | submitting | submittingUpdate | reviewing | announcing | looking | deleting
  | deletionAccepted => exact ⟨hquiet, hgoal, hstack⟩
  | _ => cases hearly

theorem attends_fail (hquiet : Quiet trace) (e : DeployError) :
    Attends goal stack trace (s.fail e) :=
  .inl ⟨hquiet, .inr ⟨e, rfl⟩⟩

theorem attends_submitted {order : DeployOrder} (controller : Controller) (type : ChangeSetType)
    (reply : Except ApiError ChangeSetRef) (hquiet : Quiet trace)
    (hstack : order.request.stack = stack) :
    Attends .deployment stack trace (s.submitted order controller type reply) := by
  rw [submitted]
  split
  · exact attends_early hquiet rfl rfl hstack
  · split
    · exact attends_early hquiet rfl rfl hstack
    · exact attends_fail hquiet _
  · exact attends_fail hquiet _

theorem attends_reviewed (result : Except ChangeSetError ReviewOutcome × Controller)
    (hquiet : Quiet trace) : Attends .deployment stack trace (s.reviewed stack result) := by
  rw [reviewed.eq_def]
  split
  · exact .inl ⟨hquiet, .inl rfl⟩
  · exact attends_early hquiet rfl rfl rfl
  · exact attends_fail hquiet _

theorem attends_announced (controller : Controller) (written : Written) (hquiet : Quiet trace) :
    Attends .deployment stack trace (s.announced clock stack controller written) := by
  rw [announced.eq_def]
  split
  · exact attends_fail hquiet _
  · split
    · exact attends_fail hquiet _
    · exact ⟨hquiet, rfl, rfl⟩

/-- A watch begins when the change is set off. -/
theorem attends_watch {target : Target} {a : Action} (hquiet : Quiet trace)
    (ha : a.setsOff = true) :
    Attends target.goal target.stack (trace ++ [a]) (s.watch target) := by
  refine ⟨rfl, rfl, rfl, rfl, ⟨a, by simp, ha⟩, ?_⟩
  rw [looks_eq_nil hquiet ha]
  exact fun reply hreply => nomatch hreply

theorem attends_executed {target : Target} {controller : Controller} {ref : ChangeSetRef}
    (reply : Reply (.executeChangeSet controller.stack ref.id)) (hquiet : Quiet trace) :
    Attends target.goal target.stack
      (trace ++ [.call (.executeChangeSet controller.stack ref.id) reply])
      (s.executed target controller ref reply) := by
  cases reply with
  | ok => exact attends_watch hquiet rfl
  | error cause => exact ⟨rfl, rfl, .inl ⟨hquiet.append_singleton rfl, _, rfl⟩⟩

theorem attends_deletionReplied {existing : Stack} {cutoff : Instant}
    (reply : Reply (.deleteStack stack)) (hquiet : Quiet trace) :
    Attends .deletion stack (trace ++ [.call (.deleteStack stack) reply])
      (s.deletionReplied existing stack cutoff reply) := by
  cases reply with
  | ok => exact attends_watch hquiet rfl
  | error cause => exact attends_fail (hquiet.append_singleton rfl) _

/-- When the other actors have ended, the conclusion of the watch is answered, or the cause of a
failure is looked for. -/
theorem attends_stopped {target : Target} {watched : Watched} (hoff : SetOff trace)
    (hconcludes : Watch.Concludes (looks target.stack trace) watched) :
    Attends target.goal target.stack trace (s.stopped target (s.ending target watched)) := by
  have answered {outcome : Outcome} (h : target.goal.Answers target.stack s.settings.deploy.timeout
      watched outcome) :
      Attends target.goal target.stack trace { s with phase := .over outcome } :=
    .inr ⟨hoff, watched, hconcludes, h⟩
  have traced {shown : Stack} (hshown : watched = .terminal shown)
      (h : target.goal.isReached shown.status = false) :
      Attends target.goal target.stack trace (s.trace target shown.status) :=
    ⟨hoff, h, shown, hshown ▸ hconcludes, rfl⟩
  cases watched with
  | terminal shown =>
    simp only [stopped, ending]
    split
    next hgoal =>
      split
      next hsuccess => exact answered (hgoal ▸ .deployed hsuccess _ _)
      next hfailure => exact traced rfl (by simpa [hgoal, Goal.isReached] using hfailure)
    next hgoal =>
      split
      next hdeleted => exact answered (hgoal ▸ .deleted hdeleted _ _)
      next hleft => exact traced rfl (by simpa [hgoal, Goal.isReached] using hleft)
  | gone =>
    simp only [stopped, ending]
    split
    next hgoal => exact answered (hgoal ▸ .vanished)
    next hgoal => exact answered (hgoal ▸ .gone _ _)
  | failed cause => exact answered (.unanswered _ cause)
  | timedOut => exact answered (.timedOut _)

theorem Attends.watch {target : Target} {w w' : Watch} (hphase : s.phase = .watching target w)
    (h : s.Attends goal stack trace) (leads : (w.step clock).Leads clock actions w') :
    Attends goal stack (trace ++ actions) { s with phase := .watching target w' } := by
  simp only [Attends, hphase] at h
  obtain ⟨hgoal, hstack, hwatch, htimeout, hoff, hheeds⟩ := h
  obtain ⟨hstack', htimeout', hheeds'⟩ := hheeds.step leads
  refine ⟨hgoal, hstack, hstack'.trans hwatch, htimeout'.trans htimeout, hoff.append actions, ?_⟩
  rw [looks_append hoff, ← hwatch]
  exact hwatch ▸ hheeds'

theorem Attends.watched {target : Target} {w : Watch} {watched : Watched}
    (hphase : s.phase = .watching target w) (h : s.Attends goal stack trace)
    (hover : w.phase = .over watched) : Attends goal stack trace (s.watched target watched) := by
  simp only [Attends, hphase] at h
  obtain ⟨hgoal, hstack, -, -, hoff, hheeds⟩ := h
  rw [Watch.Heeds, hover] at hheeds
  rw [watched_eq_stop]
  exact ⟨hgoal, hstack, .inr ⟨hoff, watched, hheeds, rfl⟩⟩

theorem Attends.stopped {target : Target} {ending : Ending}
    (hphase : s.phase = .stopping target ending) (h : s.Attends goal stack trace) :
    Attends goal stack trace (s.stopped target ending) := by
  simp only [Attends, hphase] at h
  obtain ⟨rfl, rfl, ⟨hquiet, e, rfl⟩ | ⟨hoff, watched, hconcludes, rfl⟩⟩ := h
  · exact attends_fail hquiet e
  · exact attends_stopped hoff hconcludes

theorem Attends.read {target : Target} {status : StackStatus} {fetch fetch' : Fetch}
    (hphase : s.phase = .tracing target status fetch) (h : s.Attends goal stack trace)
    (key : String) (token : Option String) (reply : Except ApiError EventPage) :
    Attends goal stack (trace ++ [.call (.describeStackEvents key token) reply])
      { s with phase := .tracing target status fetch' } := by
  simp only [Attends, hphase] at h
  obtain ⟨hoff, hmissed, shown, hconcludes, rfl⟩ := h
  refine ⟨hoff.append _, hmissed, shown, ?_, rfl⟩
  rw [looks_append hoff]
  exact (List.append_nil (looks stack trace)).symm ▸ hconcludes

theorem Attends.explained {target : Target} {status : StackStatus} {fetch : Fetch}
    (hphase : s.phase = .tracing target status fetch) (h : s.Attends goal stack trace)
    (result : Except FetchError (List StackEvent)) :
    Attends goal stack trace (s.fail (failure target status result)) := by
  simp only [Attends, hphase] at h
  obtain ⟨hoff, hmissed, shown, hconcludes, rfl⟩ := h
  exact .inr ⟨hoff, _, hconcludes, .failed hmissed (withoutCause_failure _ _ _)⟩

/-! ### The step lemma -/

/-- The operation keeps attending to its stack. -/
theorem Attends.operation (h : s.Attends goal stack trace)
    (leads : (s.operationStep clock).Leads clock actions t) :
    Attends goal stack (trace ++ actions) t := by
  cases steps_of_leads leads with
  | submit hphase reply | submitUpdate hphase reply =>
    simp only [Attends, hphase] at h
    obtain ⟨hquiet, rfl, hstack⟩ := h
    exact attends_submitted _ _ _ (hquiet.append_singleton rfl) hstack
  | review hphase hstep =>
    simp only [Attends, hphase] at h
    obtain ⟨hquiet, rfl, rfl⟩ := h
    refine attends_early (hquiet.append fun a ha => ?_) rfl rfl rfl
    obtain ⟨_, _, _, rfl⟩ := Review.describes_of_leads hstep a ha
    rfl
  | reviewed hphase =>
    simp only [Attends, hphase] at h
    obtain ⟨hquiet, rfl, rfl⟩ := h
    exact attends_reviewed _ (by rwa [List.append_nil])
  | announce hphase written =>
    simp only [Attends, hphase] at h
    obtain ⟨hquiet, rfl, rfl⟩ := h
    exact attends_announced _ _ (hquiet.append_singleton rfl)
  | execute hphase reply =>
    simp only [Attends, hphase] at h
    obtain ⟨hquiet, rfl, rfl⟩ := h
    exact attends_executed reply hquiet
  | look hphase reply =>
    simp only [Attends, hphase] at h
    obtain ⟨hquiet, rfl, rfl⟩ := h
    cases reply with
    | ok existing => exact attends_early (hquiet.append_singleton rfl) rfl rfl rfl
    | error cause => exact attends_fail (hquiet.append_singleton rfl) _
  | date hphase =>
    simp only [Attends, hphase] at h
    obtain ⟨hquiet, rfl, rfl⟩ := h
    exact attends_early (by rwa [List.append_nil]) rfl rfl rfl
  | delete hphase reply =>
    simp only [Attends, hphase] at h
    obtain ⟨hquiet, rfl, rfl⟩ := h
    exact attends_deletionReplied reply hquiet
  | watch hphase hstep => exact h.watch hphase hstep
  | watched hphase hover => exact (List.append_nil trace).symm ▸ h.watched hphase hover
  | stopped hphase => exact (List.append_nil trace).symm ▸ h.stopped hphase
  | read hphase reply => exact h.read hphase _ _ reply
  | explain hphase => exact (List.append_nil trace).symm ▸ h.explained hphase _
  | follow hphase => simp only [Attends, hphase] at h

/-- What the other actors do is nothing to the operation. -/
theorem Attends.aside (h : s.Attends goal stack trace) (hactions : ∀ a ∈ actions, a.isProgress)
    (p : Option Progress) : Attends goal stack (trace ++ actions) { s with progress := p } := by
  have hquiet : Quiet actions := fun a ha => Action.setsOff_eq_false_of_isProgress (hactions a ha)
  have hlooks : looks stack (trace ++ actions) = looks stack trace :=
    looks_append_of_none fun a ha => Action.look?_eq_none_of_isProgress (hactions a ha) stack
  cases hphase : s.phase with
  | watching target w =>
    simp only [Attends, hphase] at h ⊢
    obtain ⟨hgoal, hstack, hwatch, htimeout, hoff, hheeds⟩ := h
    exact ⟨hgoal, hstack, hwatch, htimeout, hoff.append actions, hlooks.symm ▸ hheeds⟩
  | stopping target ending =>
    simp only [Attends, hphase] at h ⊢
    refine ⟨h.1, h.2.1, h.2.2.imp (fun h => ⟨h.1.append hquiet, h.2⟩) fun h => ?_⟩
    rw [hlooks]
    exact ⟨h.1.append actions, h.2⟩
  | tracing target status fetch =>
    simp only [Attends, hphase] at h ⊢
    rw [hlooks]
    exact ⟨h.1.append actions, h.2⟩
  | «over» outcome =>
    simp only [Attends, hphase] at h ⊢
    refine h.imp (fun h => ⟨h.1.append hquiet, h.2⟩) fun h => ?_
    rw [hlooks]
    exact ⟨h.1.append actions, h.2⟩
  | following => simp only [Attends, hphase] at h
  | submitting | submittingUpdate | reviewing | announcing | executing | looking | deleting
  | deletionAccepted =>
    simp only [Attends, hphase] at h ⊢
    exact ⟨h.1.append hquiet, h.2⟩

/-- **Step lemma.** Every move keeps an operation attending to its stack. -/
theorem Attends.move (h : s.Attends goal stack trace) (moves : s.Moves actions t) :
    Attends goal stack (trace ++ actions) t := by
  cases moves with
  | cancel => exact h.aside (by simp) _
  | @step clock actor _ _ leads =>
    by_cases hactor : actor = .operation
    · subst hactor
      exact h.operation leads
    · obtain ⟨p, p', -, rfl, hprogress⟩ := Session.progress_of_leads hactor leads
      exact h.aside hprogress _

/-- **Run lemma.** An operation that begins attending to its stack does so in every run. -/
theorem Attends.runs {start : Session} (h : start.Attends goal stack [])
    (run : start.Runs trace s) : s.Attends goal stack trace :=
  run.induct (P := fun trace s => s.Attends goal stack trace) h fun _ _ _ _ h moves => h.move moves

/-- **Answers.** The outcome of an operation that has set off a change answers what its watch has
concluded. -/
theorem Attends.answers {outcome : Outcome} (h : s.Attends goal stack trace) (hoff : SetOff trace)
    (hover : s.phase = .over outcome) :
    ∃ watched, Watch.Concludes (looks stack trace) watched ∧
      goal.Answers stack s.settings.deploy.timeout watched outcome := by
  simp only [Attends, hover] at h
  exact h.elim (fun h => absurd h.1 hoff.not_quiet) fun h => h.2

/-- Only an operation that has set off a change deploys a stack. -/
theorem Attends.answers_of_deployed {status : StackStatus} {tree : ProgressTree}
    {streamError : Option String} (h : s.Attends goal stack trace)
    (hover : s.phase = .over (.deployed status tree streamError)) :
    ∃ watched, Watch.Concludes (looks stack trace) watched ∧ goal.Answers stack
      s.settings.deploy.timeout watched (.deployed status tree streamError) := by
  simp only [Attends, hover] at h
  obtain ⟨-, hnone | ⟨e, he⟩⟩ | ⟨-, hanswered⟩ := h
  · cases hnone
  · cases he
  · exact hanswered

theorem attends_deploy (settings : SessionSettings) (request : DeployRequest)
    (rendered : Except String String) (name updateName : String) :
    (deploy settings request rendered name updateName).Attends .deployment request.stack [] := by
  cases rendered with
  | ok body => exact ⟨quiet_nil, rfl, rfl⟩
  | error message => exact .inl ⟨quiet_nil, .inr ⟨_, rfl⟩⟩

end Session

end StackDeploy
