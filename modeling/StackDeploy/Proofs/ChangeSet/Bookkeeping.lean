import StackDeploy.Proofs.ChangeSet.Lifecycle

/-!
# The books of a controller

A controller remembers the stack and the change set of the last accepted submission, when the
service said that the change set was created, and how far it has come. These **books** are right
after any calls in any order, whatever the service replies.

* `Controller.Work.Tracks` — the books agree with the actions since the last accepted submission.
* `Controller.Work.IsKept` — they do, or nothing was submitted; `IsKept.goes` is the step lemma.
* `Controller.books_of_runs` — what that means for every call.
-/

namespace StackDeploy

/-! ### Reading a trace -/

namespace Action

/-- The computed change set that the action has shown. -/
def computed? : Action → Option ChangeSet
  | .call (.describeChangeSet _ _) (.ok changeSet) =>
    if changeSet.status.isComputing then none else some changeSet
  | _ => none

/-- The stack and the change set that the action **names**. -/
def named? : Action → Option (String × String)
  | .call (.describeChangeSet stack id) _ | .call (.executeChangeSet stack id) _ => some (stack, id)
  | _ => none

end Action

/-- The last description that showed a change set computed. -/
def lastComputed? (trace : List Action) : Option ChangeSet :=
  (trace.filterMap Action.computed?).getLast?

theorem lastComputed?_append_of_none {trace actions : List Action}
    (h : ∀ a ∈ actions, a.computed? = none) :
    lastComputed? (trace ++ actions) = lastComputed? trace := by
  rw [lastComputed?, List.filterMap_append, List.filterMap_eq_nil_iff.mpr h, List.append_nil,
    lastComputed?]

theorem lastComputed?_append_computed {trace : List Action} {a : Action} {changeSet : ChangeSet}
    (h : a.computed? = some changeSet) : lastComputed? (trace ++ [a]) = some changeSet := by
  rw [lastComputed?, List.filterMap_append, List.filterMap_cons_some h, List.filterMap_nil,
    List.getLast?_concat]

namespace Controller

/-! ### Executions -/

/-- An execution is carried out as the query that it is. -/
theorem Work.goes_execute_iff {c : Controller} {actions : List Action} {w : Work} :
    (Work.idle c).Goes .execute actions w ↔ ∃ result c', w = .idle c' ∧
      (c.execute = .done (result, c') ∧ actions = [] ∨
        ∃ request resume reply, c.execute = .call request resume ∧
          actions = [.call request reply] ∧ resume reply = (result, c')) := by
  rw [Controller.execute]
  constructor
  · intro goes
    cases goes with
    | execute _ href reply =>
      simp only [href]
      exact ⟨_, _, rfl, .inr ⟨_, _, reply, rfl, rfl, rfl⟩⟩
    | executeNothing _ hnone =>
      simp only [hnone]
      exact ⟨_, c, rfl, .inl ⟨rfl, trivial⟩⟩
  · rintro ⟨result, c', rfl, ⟨hdone, rfl⟩ | ⟨request, resume, reply, hcall, rfl, hresult⟩⟩
    · split at hdone
      next hnone =>
        cases hdone
        exact .executeNothing c hnone
      · cases hdone
    · split at hcall
      · cases hcall
      next ref href =>
        cases hcall
        obtain rfl := congrArg Prod.snd hresult
        exact .execute c href reply

/-! ### The last accepted submission -/

section IsCurrent

variable {input input' : ChangeSetInput} {ref ref' : ChangeSetRef}
  {current current' trace : List Action}

theorem IsCurrent.suffix (h : IsCurrent input ref current trace) : current <:+ trace := by
  obtain ⟨earlier, -, rfl, -⟩ := h
  exact List.suffix_append _ _

/-- A piece of a trace that begins with the last accepted submission ends no other one. -/
theorem IsCurrent.eq_of_suffix (h : IsCurrent input ref current trace)
    (h' : IsCurrent input' ref' current' trace) (hsuffix : current <:+ current') :
    current' = current := by
  obtain ⟨-, rest, -, rfl, -⟩ := h
  obtain ⟨-, rest', -, rfl, hrest'⟩ := h'
  obtain ⟨more, hmore⟩ := hsuffix
  cases more with
  | nil => exact hmore.symm
  | cons a more =>
    -- the accepted submission would stand after the last one
    obtain ⟨-, rfl⟩ := List.cons.inj hmore
    exact absurd (hrest' _ (List.mem_append_right _ List.mem_cons_self)) nofun

/-- There is **one** last accepted submission. -/
theorem IsCurrent.unique (h : IsCurrent input ref current trace)
    (h' : IsCurrent input' ref' current' trace) :
    input' = input ∧ ref' = ref ∧ current' = current := by
  have hcurrent : current' = current :=
    (List.suffix_or_suffix_of_suffix h.suffix h'.suffix).elim (h.eq_of_suffix h')
      fun hsuffix => (h'.eq_of_suffix h hsuffix).symm
  obtain ⟨-, rest, -, hrest, -⟩ := h
  obtain ⟨-, rest', -, hrest', -⟩ := h'
  cases hrest.symm.trans (hcurrent.symm.trans hrest')
  exact ⟨rfl, rfl, hcurrent⟩

theorem IsCurrent.exists_accepted (h : IsCurrent input ref current trace) :
    ∃ a ∈ trace, a.accepted? = some ref := by
  obtain ⟨earlier, rest, rfl, rfl, -⟩ := h
  exact ⟨_, List.mem_append_right _ List.mem_cons_self, rfl⟩

end IsCurrent

/-! ### The books -/

/-- The controller has the creation time that was read last. -/
def IsTimed (current : List Action) (c : Controller) : Prop :=
  c.createdAt = (lastComputed? current).map ChangeSet.creationTime

namespace Work

/-- The creation time is that which was read last; while a reply is judged, the time from before it.
-/
def IsTimed (stack : String) (ref : ChangeSetRef) (current : List Action) : Work → Prop
  | .idle c => c.IsTimed current
  | .reviewing r =>
    match r.phase with
    | .waiting | .over _ => r.controller.IsTimed current
    | .asking other _ | .pausing other _ _ => other = ref ∧ r.controller.IsTimed current
    | .judging other _ reply =>
      other = ref ∧ ∃ before, current = before ++ [.call (.describeChangeSet stack ref.id) reply] ∧
        r.controller.IsTimed before

/-- The books **track** the actions since the last accepted submission. -/
structure Tracks (input : ChangeSetInput) (ref : ChangeSetRef) (current : List Action) (w : Work) :
    Prop where
  stack_eq : w.controller.stack = input.stackName
  changeSet_eq : w.controller.changeSet = some ref
  executed : w.state = .executing ∨ w.state = .succeeded →
    .call (.executeChangeSet input.stackName ref.id) (.ok ()) ∈ current
  timed : w.IsTimed input.stackName ref current

/-- The books are empty. -/
def IsFresh (settings : ReviewSettings) (w : Work) : Prop :=
  w = .idle (.start settings) ∨ w = .reviewing (.start (.start settings))

/-- With empty books there is nothing to review and nothing to execute. -/
theorem IsFresh.notSubmitted {settings : ReviewSettings} {w : Work} (h : w.IsFresh settings) :
    w.controller = .start settings ∧
      w.controller.execute = .done (.error .notSubmitted, w.controller) ∧
      (∀ clock, (Review.start w.controller).step clock =
        .finish (.error .notSubmitted, w.controller)) ∧
      ∀ r, w = .reviewing r → r = .start w.controller := by
  rcases h with rfl | rfl
  · refine ⟨rfl, rfl, fun clock => rfl, ?_⟩
    rintro r ⟨⟩
  · refine ⟨rfl, rfl, fun clock => rfl, ?_⟩
    rintro r ⟨⟩
    rfl

/-- The books are **kept** right: they are empty as long as nothing was submitted, and then they
track what was done since the last accepted submission. -/
def IsKept (settings : ReviewSettings) (trace : List Action) (w : Work) : Prop :=
  ((∀ a ∈ trace, a.accepted? = none) ∧ w.IsFresh settings) ∨
    ∃ input ref current, IsCurrent input ref current trace ∧ w.Tracks input ref current

end Work

/-! ### Reviews -/

section Review

variable {c c' : Controller} {input : ChangeSetInput} {ref : ChangeSetRef} {elapsed : Nat}
  {reply : Except ApiError ChangeSet} {result : Except ChangeSetError ReviewOutcome}
  {current actions : List Action} {changeSet : ChangeSet} {stack id : String}

theorem computed?_eq_none_of_isPending (h : IsPending changeSet) :
    Action.computed? (.call (.describeChangeSet stack id) (.ok changeSet)) = none :=
  if_pos (isComputing_iff.mpr h)

theorem computed?_eq_some_of_not_isPending (h : ¬ IsPending changeSet) :
    Action.computed? (.call (.describeChangeSet stack id) (.ok changeSet)) = some changeSet :=
  if_neg (mt isComputing_iff.mp h)

theorem IsTimed.append (h : c.IsTimed current) (hactions : ∀ a ∈ actions, a.computed? = none) :
    c.IsTimed (current ++ actions) := by
  rwa [IsTimed, lastComputed?_append_of_none hactions]

/-- The creation time is taken from the reply that ends the review, if that is computed. -/
theorem Concludes.isTimed (h : c.Concludes ref elapsed reply result c')
    (htimed : c.IsTimed current) :
    c'.IsTimed (current ++ [.call (.describeChangeSet stack id) reply]) := by
  cases h with
  | failed cause => exact htimed.append (List.forall_mem_singleton.mpr rfl)
  | late hpending =>
    exact htimed.append (List.forall_mem_singleton.mpr (computed?_eq_none_of_isPending hpending))
  | noChanges hcomputed | notExecutable hcomputed | changes hcomputed =>
    rw [IsTimed, lastComputed?_append_computed (computed?_eq_some_of_not_isPending hcomputed)]
    rfl

/-- A review does not make a change set an executed one. -/
theorem Concludes.state_eq (h : c.Concludes ref elapsed reply result c')
    (hstate : c'.state = .executing ∨ c'.state = .succeeded) : c'.state = c.state := by
  cases h with
  | failed => rfl
  | late | noChanges | notExecutable | changes => rcases hstate with ⟨⟨⟩⟩ | ⟨⟨⟩⟩

end Review

/-! ### The step lemma -/

namespace Work

variable {settings : ReviewSettings} {input : ChangeSetInput} {ref : ChangeSetRef} {c : Controller}
  {current trace actions : List Action} {w w' : Work} {call : Call} {clock : Clock} {r r' : Review}

/-- Actions that neither submit nor show a computed change set leave the books as they are. -/
theorem IsKept.append (h : IsKept settings trace (.idle c))
    (haccepted : ∀ a ∈ actions, a.accepted? = none)
    (hcomputed : ∀ a ∈ actions, a.computed? = none) :
    IsKept settings (trace ++ actions) (.idle c) := by
  rcases h with ⟨hnone, hfresh⟩ | ⟨input, ref, current, hcurrent, htracks⟩
  · exact .inl ⟨List.forall_mem_append.mpr ⟨hnone, haccepted⟩, hfresh⟩
  · exact .inr ⟨input, ref, current ++ actions, hcurrent.append haccepted, htracks.stack_eq,
      htracks.changeSet_eq, fun hstate => List.mem_append_left _ (htracks.executed hstate),
      Controller.IsTimed.append htracks.timed hcomputed⟩

/-- A step of a review keeps the books, and asks for nothing but the change set that they name. -/
theorem Tracks.review (h : Tracks input ref current (.reviewing r))
    (leads : (r.step clock).Leads clock actions r') :
    Tracks input ref (current ++ actions) (.reviewing r') ∧
      ∀ a ∈ actions, ∃ reply, a = .call (.describeChangeSet input.stackName ref.id) reply := by
  have hstack : r.controller.stack = input.stackName := h.stack_eq
  obtain ⟨-, hset, hexecuted, htimed⟩ := h
  have hexecuted (hstate : r.controller.state = .executing ∨ r.controller.state = .succeeded) :
      .call (.executeChangeSet input.stackName ref.id) (.ok ()) ∈ current ++ actions :=
    List.mem_append_left _ (hexecuted hstate)
  cases Review.steps_of_leads leads with
  | begin hphase hsubmitted =>
    obtain rfl := Option.some.inj (hset.symm.trans hsubmitted)
    simp only [IsTimed, hphase] at htimed
    rw [List.append_nil]
    refine ⟨⟨hstack, hset, ?_, rfl, htimed⟩, List.forall_mem_nil _⟩
    rintro (⟨⟨⟩⟩ | ⟨⟨⟩⟩)
  | ask hphase reply =>
    simp only [IsTimed, hphase] at htimed
    obtain ⟨rfl, htimed⟩ := htimed
    rw [hstack] at hexecuted ⊢
    exact ⟨⟨hstack, hset, hexecuted, rfl, current, rfl, htimed⟩,
      List.forall_mem_singleton.mpr ⟨reply, rfl⟩⟩
  | pause hphase hjudge =>
    simp only [IsTimed, hphase] at htimed
    obtain ⟨rfl, before, rfl, htimed⟩ := htimed
    obtain ⟨changeSet, rfl, hpending, -⟩ := judge_eq_again_iff.mp hjudge
    rw [List.append_nil] at hexecuted ⊢
    exact ⟨⟨hstack, hset, hexecuted, rfl, htimed.append
      (List.forall_mem_singleton.mpr (computed?_eq_none_of_isPending hpending))⟩,
      List.forall_mem_nil _⟩
  | settle hphase hjudge =>
    simp only [IsTimed, hphase] at htimed
    obtain ⟨rfl, before, rfl, htimed⟩ := htimed
    obtain ⟨hstack', hset'⟩ := keeps_of_judge_eq_over hjudge
    have hconcludes := concludes_of_judge_eq_over hjudge
    rw [List.append_nil] at hexecuted ⊢
    refine ⟨⟨hstack'.trans hstack, hset'.trans hset, fun hstate => ?_, hconcludes.isTimed htimed⟩,
      List.forall_mem_nil _⟩
    exact hexecuted (hconcludes.state_eq hstate ▸ hstate)
  | wake hphase =>
    simp only [IsTimed, hphase] at htimed
    rw [List.append_nil] at hexecuted ⊢
    exact ⟨⟨hstack, hset, hexecuted, htimed⟩, List.forall_mem_nil _⟩

/-- A review that is over leaves the controller to the next call. -/
theorem IsKept.over {result : Except ChangeSetError ReviewOutcome}
    (h : IsKept settings trace (.reviewing r)) (hover : r.step clock = .finish (result, c)) :
    IsKept settings trace (.idle c) := by
  rcases h with ⟨hnone, ⟨⟨⟩⟩ | ⟨⟨⟩⟩⟩ | ⟨input, ref, current, hcurrent, htracks⟩
  · cases hover
    exact .inl ⟨hnone, .inl rfl⟩
  · obtain ⟨hphase, rfl⟩ := Review.phase_of_step_eq_finish htracks.changeSet_eq hover
    have htimed := htracks.timed
    simp only [IsTimed, hphase] at htimed
    exact .inr ⟨input, ref, current, hcurrent, htracks.stack_eq, htracks.changeSet_eq,
      htracks.executed, htimed⟩

/-- An accepted submission opens new books, and any other one leaves them as they are. -/
theorem IsKept.submit (h : IsKept settings trace (.idle c)) (input : ChangeSetInput)
    (reply : Reply (.createChangeSet input)) :
    IsKept settings (trace ++ [.call (.createChangeSet input) reply])
      (.idle (c.submitted input.stackName input.changeSetType reply).2) := by
  rcases c.submitted_cases input.stackName input.changeSetType reply with
    ⟨ref, rfl, hsubmitted⟩ | ⟨subject, rfl, -, hsubmitted⟩ | ⟨cause, rfl, hsubmitted⟩
  · rw [hsubmitted]
    refine .inr ⟨input, ref, _, isCurrent_submitted input ref trace, rfl, rfl, ?_, rfl⟩
    rintro (⟨⟨⟩⟩ | ⟨⟨⟩⟩)
  · rw [hsubmitted]
    exact h.append (List.forall_mem_singleton.mpr rfl) (List.forall_mem_singleton.mpr rfl)
  · rw [hsubmitted]
    exact h.append (List.forall_mem_singleton.mpr rfl) (List.forall_mem_singleton.mpr rfl)

/-- What is executed is the change set in the books, and an accepted execution is entered. -/
theorem IsKept.execute (h : IsKept settings trace (.idle c)) (href : c.changeSet = some ref)
    (reply : Reply (.executeChangeSet c.stack ref.id)) :
    IsKept settings (trace ++ [.call (.executeChangeSet c.stack ref.id) reply])
        (.idle (c.executed ref reply).2) ∧
      ∃ input current, IsCurrent input ref current trace ∧ input.stackName = c.stack := by
  rcases h with ⟨-, ⟨⟨⟩⟩ | ⟨⟨⟩⟩⟩ | ⟨input, ref', current, hcurrent, htracks⟩
  · cases href
  · obtain rfl := Option.some.inj (href.symm.trans htracks.changeSet_eq)
    have hstack : c.stack = input.stackName := htracks.stack_eq
    have hcurrent' := hcurrent.append (List.forall_mem_singleton.mpr rfl :
      ∀ a ∈ [Action.call (.executeChangeSet c.stack ref.id) reply], a.accepted? = none)
    have htimed := Controller.IsTimed.append htracks.timed (List.forall_mem_singleton.mpr rfl :
      ∀ a ∈ [Action.call (.executeChangeSet c.stack ref.id) reply], a.computed? = none)
    refine ⟨.inr ⟨input, ref, _, hcurrent', ?_⟩, input, current, hcurrent, hstack.symm⟩
    cases reply with
    | ok =>
      refine ⟨hstack, href, fun _ => ?_, htimed⟩
      rw [← hstack]
      exact List.mem_append_right _ (List.mem_singleton_self _)
    | error cause =>
      refine ⟨hstack, href, ?_, htimed⟩
      rintro (⟨⟨⟩⟩ | ⟨⟨⟩⟩)

theorem IsKept.finish (h : IsKept settings trace (.idle c)) (success : Bool) :
    IsKept settings trace (.idle (c.finish success)) := by
  rw [Controller.finish]
  split
  next hexecuting =>
    rcases h with ⟨-, ⟨⟨⟩⟩ | ⟨⟨⟩⟩⟩ | ⟨input, ref, current, hcurrent, htracks⟩
    · cases hexecuting
    · exact .inr ⟨input, ref, current, hcurrent, htracks.stack_eq, htracks.changeSet_eq,
        fun _ => htracks.executed (.inl hexecuting), htracks.timed⟩
  next => exact h

/-- **Step lemma.** Every passage keeps the books, and what it describes or executes is the change
set of the last accepted submission. -/
theorem IsKept.goes (h : w.IsKept settings trace) (goes : w.Goes call actions w') :
    w'.IsKept settings (trace ++ actions) ∧ ∀ a ∈ actions, ∀ stack id,
      a.named? = some (stack, id) → ∃ input ref current, IsCurrent input ref current trace ∧
        input.stackName = stack ∧ ref.id = id := by
  cases goes with
  | submit c input reply =>
    refine ⟨h.submit input reply, List.forall_mem_singleton.mpr ?_⟩
    rintro stack id ⟨⟩
  | begin c =>
    rw [List.append_nil]
    refine ⟨?_, List.forall_mem_nil _⟩
    rcases h with ⟨hnone, ⟨⟨⟩⟩ | ⟨⟨⟩⟩⟩ | ⟨input, ref, current, hcurrent, htracks⟩
    · exact .inl ⟨hnone, .inr rfl⟩
    · exact .inr ⟨input, ref, current, hcurrent, htracks.stack_eq, htracks.changeSet_eq,
        htracks.executed, htracks.timed⟩
  | step leads =>
    rcases h with ⟨-, ⟨⟨⟩⟩ | ⟨⟨⟩⟩⟩ | ⟨input, ref, current, hcurrent, htracks⟩
    · exact absurd leads (not_leads_of_changeSet_eq_none rfl rfl)
    · obtain ⟨htracks', hactions⟩ := htracks.review leads
      refine ⟨.inr ⟨input, ref, _, hcurrent.append fun a ha => ?_, htracks'⟩, fun a ha => ?_⟩
      · obtain ⟨reply, rfl⟩ := hactions a ha
        rfl
      · obtain ⟨reply, rfl⟩ := hactions a ha
        rintro stack id ⟨⟩
        exact ⟨input, ref, current, hcurrent, rfl, rfl⟩
  | «over» hover =>
    rw [List.append_nil]
    exact ⟨h.over hover, List.forall_mem_nil _⟩
  | execute c href reply =>
    obtain ⟨hkept, input, current, hcurrent, hstack⟩ := h.execute href reply
    refine ⟨hkept, List.forall_mem_singleton.mpr ?_⟩
    rintro stack id ⟨⟩
    exact ⟨input, _, current, hcurrent, hstack, rfl⟩
  | executeNothing c hnone =>
    rw [List.append_nil]
    exact ⟨h, List.forall_mem_nil _⟩
  | finish c success =>
    rw [List.append_nil]
    exact ⟨h.finish success, List.forall_mem_nil _⟩

/-- **Run lemma.** The books are kept before every passage of a run and after it. -/
theorem Runs.isKept {history : List Passage} (run : Runs settings history w) :
    w.IsKept settings (traceOf history) ∧ ∀ earlier p later, history = earlier ++ p :: later →
      p.before.IsKept settings (traceOf earlier) ∧ p.before.Goes p.call p.actions p.after :=
  run.invariant (.inl ⟨List.forall_mem_nil _, .inl rfl⟩) fun _ _ _ _ _ h goes => (h.goes goes).1

/-- A rejected submission leaves everything as it is. -/
theorem Goes.eq_of_rejected {input : ChangeSetInput} {cause : ApiError}
    (goes : w.Goes call actions w')
    (hactions : actions = [.call (.createChangeSet input) (.error cause)]) : w' = w := by
  cases goes with
  | submit c input' reply =>
    cases hactions
    rcases c.submitted_cases input.stackName input.changeSetType (.error cause) with
      ⟨ref, ⟨⟩, -⟩ | ⟨subject, -, -, hsubmitted⟩ | ⟨cause, -, hsubmitted⟩
    · rw [hsubmitted]
    · rw [hsubmitted]
  | step leads =>
    obtain ⟨_, _, _, heq⟩ :=
      Review.describes_of_leads leads _ (hactions ▸ List.mem_singleton_self _)
    cases heq
  | execute => cases hactions
  | begin | «over» | executeNothing | finish => cases hactions

end Work

/-- An execution is under way only after it was accepted. -/
theorem executes_of_enters {call : Call} {actions : List Action} {state state' : ChangeSetState}
    (h : Lifecycle call actions state state' ∨ OutOfTurn call actions state state')
    (hexecuting : state' = .executing) (hne : state ≠ .executing) :
    call = .execute ∧ ∃ stack id, actions = [.call (.executeChangeSet stack id) (.ok ())] := by
  rcases h with hlife | hout
  · cases hlife with
    | executed stack id => exact ⟨rfl, stack, id, rfl⟩
    | rejected | reviewing | unsubmitted | unexecuted => exact absurd hexecuting hne
    | submitted | awaited | refused => cases hexecuting
    | reviewed hstate => rcases hstate with rfl | rfl | rfl <;> cases hexecuting
    | finished success => cases success <;> cases hexecuting
  · cases hout with
    | executed _ stack id => exact ⟨rfl, stack, id, rfl⟩
    | review | refused => cases hexecuting

/-- **The books of a controller.** In any calls on a new controller, whatever the service replies,

* until a submission is accepted, a review and an execution end at once with the error that nothing
  was submitted: they ask for nothing and the controller stays as it was;
* a rejected submission leaves the controller as it is;
* what is described or executed is the change set of the last accepted submission;
* between the calls the controller has the stack and the change set of that submission, and the
  creation time that the last computed description since then has shown, if there is one;
* an execution is under way only when one was accepted, and it has succeeded only if one of this
  change set was accepted. -/
theorem books_of_runs {settings : ReviewSettings} {history : List Passage} {w : Work}
    (run : w.Runs settings history) :
    ((∀ a ∈ traceOf history, a.accepted? = none) → w.controller = .start settings ∧
      w.controller.execute = .done (.error .notSubmitted, w.controller) ∧
      (∀ clock, (Review.start w.controller).step clock =
        .finish (.error .notSubmitted, w.controller)) ∧
      ∀ r, w = .reviewing r → r = .start w.controller) ∧
    (∀ p ∈ history, ∀ input cause,
      p.actions = [.call (.createChangeSet input) (.error cause)] → p.after = p.before) ∧
    (∀ earlier p later, history = earlier ++ p :: later → ∀ a ∈ p.actions, ∀ stack id,
      a.named? = some (stack, id) → ∃ input ref current,
        IsCurrent input ref current (traceOf earlier) ∧ input.stackName = stack ∧ ref.id = id) ∧
    (∀ c input ref current, w = .idle c → IsCurrent input ref current (traceOf history) →
      c.stack = input.stackName ∧ c.changeSet = some ref ∧
        c.createdAt = (lastComputed? current).map ChangeSet.creationTime) ∧
    (∀ p ∈ history, p.after.state = .executing → p.before.state ≠ .executing →
      p.call = .execute ∧ ∃ stack id, p.actions = [.call (.executeChangeSet stack id) (.ok ())]) ∧
    (w.state = .succeeded → ∃ input ref current, IsCurrent input ref current (traceOf history) ∧
      .call (.executeChangeSet input.stackName ref.id) (.ok ()) ∈ current) := by
  obtain ⟨hkept, hpassages⟩ := run.isKept
  refine ⟨fun hnone => ?_, fun p hp input cause hactions => ?_, ?_, ?_, ?_, fun hsucceeded => ?_⟩
  · rcases hkept with ⟨-, hfresh⟩ | ⟨input, ref, current, hcurrent, -⟩
    · exact hfresh.notSubmitted
    · obtain ⟨a, ha, haccepted⟩ := hcurrent.exists_accepted
      cases (hnone a ha).symm.trans haccepted
  · obtain ⟨earlier, later, rfl⟩ := List.append_of_mem hp
    exact (hpassages earlier p later rfl).2.eq_of_rejected hactions
  · intro earlier p later h
    obtain ⟨hbefore, hgoes⟩ := hpassages earlier p later h
    exact (hbefore.goes hgoes).2
  · rintro c input ref current rfl hcurrent
    rcases hkept with ⟨hnone, -⟩ | ⟨input', ref', current', hcurrent', htracks⟩
    · obtain ⟨a, ha, haccepted⟩ := hcurrent.exists_accepted
      cases (hnone a ha).symm.trans haccepted
    · obtain ⟨rfl, rfl, rfl⟩ := hcurrent'.unique hcurrent
      exact ⟨htracks.stack_eq, htracks.changeSet_eq, htracks.timed⟩
  · intro p hp hexecuting hne
    obtain ⟨earlier, later, rfl⟩ := List.append_of_mem hp
    obtain ⟨hstands, hgoes⟩ := run.stands.2 earlier p later rfl
    exact executes_of_enters (hstands.goes hgoes).2 hexecuting hne
  · rcases hkept with ⟨-, rfl | rfl⟩ | ⟨input, ref, current, hcurrent, htracks⟩
    · cases hsucceeded
    · cases hsucceeded
    · exact ⟨input, ref, current, hcurrent, htracks.executed (.inr hsucceeded)⟩

/-- The controller that has executed the queue knows its change set, and when that was created. -/
theorem queue_books : ∃ history c, Work.Runs .default history (.idle c) ∧ c.state = .succeeded ∧
    c.stack = "demo" ∧ c.changeSet = some ⟨"queue", "demo"⟩ ∧ c.createdAt = some .epoch := by
  have hcurrent : IsCurrent queueInput ⟨"queue", "demo"⟩ (traceOf queueHistory)
      (traceOf queueHistory) := by
    refine ⟨[], _, rfl, rfl, ?_⟩
    simp [Action.accepted?]
  obtain ⟨hstack, hset, hcreated⟩ := (books_of_runs queue_succeeds).2.2.2.1 _ _ _ _ rfl hcurrent
  exact ⟨queueHistory, _, queue_succeeds, rfl, hstack, hset, hcreated⟩

end Controller

end StackDeploy
