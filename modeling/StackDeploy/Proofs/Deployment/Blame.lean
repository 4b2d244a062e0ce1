import StackDeploy.Proofs.Deployment.Dating
import StackDeploy.Proofs.Deployment.Vanishing
import StackDeploy.Proofs.Event.EachOnce
import StackDeploy.Proofs.Event.Repetition
import StackDeploy.Proofs.Stack.Status

/-!
# The first failure is blamed

When a deployment has failed with its stack, its error names the resource of the first failing event
since its change set was created. The history is read anew for that, so it does not matter what the
feed has read before, and rollbacks that fail later do not hide the cause.

* `StackEvent.IsFirstFailure` — the event that is to be blamed.
* `Blames` — the error for what was read.
* `ReadLast.unique` — what a run has read last.
* `blames_first_failure` — deployments fail with that error.
-/

namespace StackDeploy

/-! ### The event to be blamed -/

/-- The **first failure** in a newest-first history from the cutoff on. -/
structure StackEvent.IsFirstFailure (history : List StackEvent) (cutoff : Instant)
    (e : StackEvent) : Prop where
  mem : e ∈ history
  cutoff_le : cutoff ≤ e.timestamp
  fails : e.isFailure = true
  precedes : ∀ x ∈ history, cutoff ≤ x.timestamp → x.isFailure = true → x ≠ e →
    e.Precedes history x

/-- Nothing in a history fails from the cutoff on. -/
def NothingFails (history : List StackEvent) (cutoff : Instant) : Prop :=
  ∀ x ∈ history, cutoff ≤ x.timestamp → x.isFailure = false

/-- The error of a deployment whose stack has come to a failed status, given what was **read** of
its history. -/
inductive Blames (stack : String) (status : StackStatus) (cutoff : Instant) :
    Except ApiError (List StackEvent) → DeployError → Prop
  | first {history : List StackEvent} {e : StackEvent} (h : e.IsFirstFailure history cutoff) :
      Blames stack status cutoff (.ok history)
        (.stackFailed stack status e.logicalId (e.reason.getD ""))
  | nothing {history : List StackEvent} (h : NothingFails history cutoff) :
      Blames stack status cutoff (.ok history) (.stackFailedWithoutCause stack status)
  | unread (cause : ApiError) :
      Blames stack status cutoff (.error cause) (.stackFailedWithoutCause stack status)

/-- Of two events only one precedes the other. -/
theorem StackEvent.Precedes.eq_of_precedes {history : List StackEvent} {a b : StackEvent}
    (h : a.Precedes history b) (h' : b.Precedes history a) : a = b := by
  rcases h with hlt | ⟨htime, newer, older, hhistory, hb⟩
  · rcases h' with hgt | ⟨htime, -⟩
    · exact absurd (Instant.le_of_lt hgt) (Instant.not_le.mpr hlt)
    · exact absurd (htime ▸ hlt) (Instant.not_lt.mpr (Instant.le_refl _))
  · rcases h' with hgt | ⟨-, newer', older', hhistory', ha⟩
    · exact absurd (htime ▸ hgt) (Instant.not_lt.mpr (Instant.le_refl _))
    · -- otherwise one of the two stands behind itself
      obtain ⟨between, -, hbetween⟩ | ⟨between, -, hbetween⟩ :=
        List.append_eq_append_iff.mp (hhistory.symm.trans hhistory')
      · cases between with
        | nil => exact (List.cons.inj hbetween).1
        | cons x between =>
          obtain ⟨-, rfl⟩ := List.cons.inj hbetween
          exact absurd (List.mem_append_right _ List.mem_cons_self) hb
      · cases between with
        | nil => exact (List.cons.inj hbetween).1.symm
        | cons x between =>
          obtain ⟨-, rfl⟩ := List.cons.inj hbetween
          exact absurd (List.mem_append_right _ List.mem_cons_self) ha

namespace StackEvent.IsFirstFailure

variable {history other : List StackEvent} {cutoff : Instant} {a b : StackEvent}

theorem unique (h : a.IsFirstFailure history cutoff) (h' : b.IsFirstFailure history cutoff) :
    a = b := by
  by_contra hne
  exact hne ((h.precedes b h'.mem h'.cutoff_le h'.fails (Ne.symm hne)).eq_of_precedes
    (h'.precedes a h.mem h.cutoff_le h.fails hne))

/-- Events before the cutoff do not matter. -/
theorem filter (h : a.IsFirstFailure history cutoff) :
    a.IsFirstFailure (history.filter fun e => decide (cutoff ≤ e.timestamp)) cutoff where
  mem := List.mem_filter.mpr ⟨h.mem, decide_eq_true h.cutoff_le⟩
  cutoff_le := h.cutoff_le
  fails := h.fails
  precedes := by
    intro x hx hcutoff hfails hne
    rcases h.precedes x (List.mem_filter.mp hx).1 hcutoff hfails hne with
      hlt | ⟨htime, newer, older, rfl, hbehind⟩
    · exact .inl hlt
    · have hsplit := List.filter_append (p := fun e => decide (cutoff ≤ e.timestamp)) newer
        (a :: older)
      rw [List.filter_cons_of_pos (by simpa using h.cutoff_le)] at hsplit
      exact .inr ⟨htime, _, _, hsplit, fun hmem => hbehind (List.mem_filter.mp hmem).1⟩

end StackEvent.IsFirstFailure

namespace Blames

variable {stack : String} {status : StackStatus} {cutoff : Instant}
  {read : Except ApiError (List StackEvent)} {history other : List StackEvent} {e e' : DeployError}

/-- **What is blamed** depends on nothing but the events from the cutoff on. -/
theorem eq_of_filter_eq (h : Blames stack status cutoff (.ok history) e)
    (h' : Blames stack status cutoff (.ok other) e')
    (hsame : history.filter (fun e => decide (cutoff ≤ e.timestamp)) =
      other.filter fun e => decide (cutoff ≤ e.timestamp)) : e = e' := by
  have hmem {a : StackEvent} (hcutoff : cutoff ≤ a.timestamp) : a ∈ history ↔ a ∈ other := by
    have hboth : a ∈ history.filter (fun e => decide (cutoff ≤ e.timestamp)) ↔
        a ∈ other.filter fun e => decide (cutoff ≤ e.timestamp) := by rw [hsame]
    simpa [hcutoff] using hboth
  cases h with
  | first ha =>
    cases h' with
    | first hb =>
      obtain rfl := ha.filter.unique (hsame ▸ hb.filter)
      rfl
    | nothing hnone =>
      have hclean := hnone _ ((hmem ha.cutoff_le).mp ha.mem) ha.cutoff_le
      exact absurd (hclean.symm.trans ha.fails) nofun
  | nothing hnone =>
    cases h' with
    | first hb =>
      have hclean := hnone _ ((hmem hb.cutoff_le).mpr hb.mem) hb.cutoff_le
      exact absurd (hclean.symm.trans hb.fails) nofun
    | nothing => rfl

/-- No resource is blamed if and only if nothing fails from the cutoff on, or the history could not
be read. -/
theorem eq_withoutCause_iff (h : Blames stack status cutoff read e) :
    e = .stackFailedWithoutCause stack status ↔
      (∃ cause, read = .error cause) ∨ ∃ history, read = .ok history ∧
        NothingFails history cutoff := by
  cases h with
  | @first history a ha =>
    refine iff_of_false (fun h => nomatch h) ?_
    rintro (⟨cause, ⟨⟩⟩ | ⟨_, ⟨⟩, hnone⟩)
    exact absurd ((hnone a ha.mem ha.cutoff_le).symm.trans ha.fails) nofun
  | nothing hnone => exact iff_of_true rfl (.inr ⟨_, rfl, hnone⟩)
  | unread cause => exact iff_of_true rfl (.inl ⟨cause, rfl⟩)

end Blames

/-- From a history without repetitions everything is selected that is not too old. -/
theorem mem_fresh_ofHistory {history : List StackEvent}
    (h : (history.map StackEvent.eventId).Nodup) {cutoff : Instant} {x : StackEvent} :
    x ∈ (Selection.ofHistory history cutoff []).fresh ↔
      x ∈ history ∧ cutoff ≤ x.timestamp := by
  have hsublist := Selection.fresh_sublist [] (notOlder history cutoff)
  refine ⟨fun hx => mem_notOlder.mp (hsublist.subset hx), fun ⟨hx, hcutoff⟩ => ?_⟩
  have hid := ((Selection.selects_ofHistory history cutoff []).mem_ids_iff x.eventId).mpr
    ⟨List.not_mem_nil, x, hx, hcutoff, rfl⟩
  obtain ⟨y, hy, hsame⟩ := List.mem_map.mp hid
  obtain rfl := determined_of_nodup h y (mem_notOlder.mp (hsublist.subset hy)).1 x hx hsame
  exact hy

/-- The selection from a history that was read is searched for the first failure. -/
theorem Target.blames_failure (target : Target) (status : StackStatus)
    {read : Except ApiError (List StackEvent)}
    (hunique : ∀ history, read = .ok history → (history.map StackEvent.eventId).Nodup)
    (stack : String) :
    Blames target.key status target.cutoff read
      (Session.failure target status ((EventSource.start stack target.cutoff).fetched read)) := by
  cases read with
  | error cause => exact .unread cause
  | ok history =>
    have hmem {x : StackEvent} :
        x ∈ (Selection.ofHistory history target.cutoff []).fresh ↔
          x ∈ history ∧ target.cutoff ≤ x.timestamp := mem_fresh_ofHistory (hunique history rfl)
    have hordered := (Selection.selects_ofHistory history target.cutoff []).ordered
    have hfresh : ((EventSource.start stack target.cutoff).select history).1 =
        (Selection.ofHistory history target.cutoff []).fresh := rfl
    rw [EventSource.fetched, hfresh, Session.failure]
    split
    next e hfind =>
      obtain ⟨hfails, before, after, hsplit, hbefore⟩ := List.find?_eq_some_iff_append.mp hfind
      obtain ⟨he, hcutoff⟩ := hmem.mp (hsplit ▸ List.mem_append_right _ List.mem_cons_self)
      refine .first ⟨he, hcutoff, hfails, fun x hx hxcutoff hxfails hne => ?_⟩
      have hx := hmem.mpr ⟨hx, hxcutoff⟩
      rw [hsplit] at hx hordered
      rcases List.mem_append.mp hx with hbefore' | hx
      · exact absurd hxfails (by simpa using hbefore x hbefore')
      · have hafter := (List.mem_cons.mp hx).resolve_left hne
        exact (List.pairwise_cons.mp (List.pairwise_append.mp hordered).2.1).1 x hafter
    next hfind =>
      refine .nothing fun x hx hcutoff => ?_
      simpa using List.find?_eq_none.mp hfind x (hmem.mpr ⟨hx, hcutoff⟩)

/-! ### Deployments that fail with their stack -/

/-- The deployment has set off its change, was **shown** the stack in a failed status, and has come
to an outcome. -/
structure Session.FailsWithStack (stack : String) (status : StackStatus) (trace : List Action)
    (outcome : Outcome) : Prop where
  isFailure : status.isFailure = true
  shown : ∃ shown : Stack, shown.status = status ∧ .ok shown ∈ looks stack trace
  runs : ∃ settings request rendered name updateName s, request.stack = stack ∧
    (deploy settings request rendered name updateName).Runs trace s ∧ s.phase = .over outcome

namespace Session.FailsWithStack

variable {stack : String} {status : StackStatus} {trace : List Action} {outcome : Outcome}

/-- Its outcome is an error that tells the status. -/
theorem exists_error (h : FailsWithStack stack status trace outcome) :
    ∃ e key, outcome = .failed e ∧ e.withoutCause = .stackFailedWithoutCause key status := by
  obtain ⟨shown, rfl, hmem⟩ := h.shown
  obtain ⟨settings, request, rendered, name, updateName, s, rfl, run, hover⟩ := h.runs
  obtain ⟨watched, hconcludes, hanswers⟩ := ((attends_deploy _ _ _ _ _).runs run).answers
    (setOff_of_mem_looks hmem) hover
  obtain rfl : watched = .terminal shown := hconcludes.eq_of_mem hmem
    (Watch.verdict?_eq_terminal.mpr ⟨rfl, StackStatus.isTerminal_of_isFailure h.isFailure⟩)
  cases hanswers with
  | deployed hsuccess =>
    exact absurd ((StackStatus.isSuccess_eq_false h.isFailure).symm.trans hsuccess) nofun
  | failed _ he => exact ⟨_, _, rfl, he⟩

/-- **The first failure is blamed**, if the identifiers of the events in the history are unique. -/
theorem exists_blames (h : FailsWithStack stack status trace outcome) :
    ∃ read cutoff e, ReadLast stack trace read ∧ CreatedAt stack trace cutoff ∧
      outcome = .failed e ∧
      ((∀ history, read = .ok history → (history.map StackEvent.eventId).Nodup) →
        Blames stack status cutoff read e) := by
  obtain ⟨e, key, rfl, hwithout⟩ := h.exists_error
  obtain ⟨settings, request, rendered, name, updateName, s, rfl, run, hover⟩ := h.runs
  obtain ⟨rfl, target, read, htarget, hread, rfl⟩ := exists_reading run hover hwithout
  refine ⟨read, target.cutoff, _, hread, htarget.created, rfl, fun hunique => ?_⟩
  have hblames := target.blames_failure status hunique request.stack
  rwa [htarget.key_eq] at hblames

end Session.FailsWithStack

open Session

/-- **Root causes.** A deployment whose stack is shown in a failed status ends with an error that
blames the first failing event since the creation of its change set, as the history says that it
reads last; it blames nothing if and only if there is no such event or the history cannot be read.
The error depends on nothing else: neither on what else was read or done before, nor on events
before that creation. Fair runs come to it, if histories are finite. -/
theorem blames_first_failure (stack : String) (status : StackStatus) :
    (∀ trace outcome, FailsWithStack stack status trace outcome →
      ∃ read cutoff e, ReadLast stack trace read ∧ CreatedAt stack trace cutoff ∧
        outcome = .failed e ∧
        ((∀ history, read = .ok history → (history.map StackEvent.eventId).Nodup) →
          Blames stack status cutoff read e ∧
          (e = .stackFailedWithoutCause stack status ↔ (∃ cause, read = .error cause) ∨
            ∃ history, read = .ok history ∧ NothingFails history cutoff))) ∧
    (∀ trace trace' outcome outcome' cutoff history history',
      FailsWithStack stack status trace outcome → FailsWithStack stack status trace' outcome' →
      CreatedAt stack trace cutoff → CreatedAt stack trace' cutoff →
      ReadLast stack trace (.ok history) → ReadLast stack trace' (.ok history') →
      (history.map StackEvent.eventId).Nodup → (history'.map StackEvent.eventId).Nodup →
      history.filter (fun e => decide (cutoff ≤ e.timestamp)) =
        history'.filter (fun e => decide (cutoff ≤ e.timestamp)) → outcome = outcome') ∧
    ∀ settings request rendered name updateName script
      (play : Play script (deploy settings request rendered name updateName)),
      request.stack = stack → play.Fair → play.FiniteHistories →
        ∀ (k : Nat) (shown : Stack), .ok shown ∈ looks stack (play.moment k).trace →
          shown.status = status → status.isFailure = true →
            ∃ j outcome, k ≤ j ∧ (play.moment j).session.phase = .over outcome ∧
              FailsWithStack stack status (play.moment j).trace outcome := by
  refine ⟨fun trace outcome h => ?_, ?_, ?_⟩
  · obtain ⟨read, cutoff, e, hread, hcreated, hfailed, hblames⟩ := h.exists_blames
    exact ⟨read, cutoff, e, hread, hcreated, hfailed, fun hunique =>
      ⟨hblames hunique, (hblames hunique).eq_withoutCause_iff⟩⟩
  · intro trace trace' outcome outcome' cutoff history history' h h' hcreated hcreated' hread
      hread' hunique hunique' hsame
    obtain ⟨read, time, e, hlast, htime, rfl, hblames⟩ := h.exists_blames
    obtain ⟨read', time', e', hlast', htime', rfl, hblames'⟩ := h'.exists_blames
    obtain rfl := hlast.unique hread
    obtain rfl := hlast'.unique hread'
    obtain rfl := htime.unique hcreated
    obtain rfl := htime'.unique hcreated'
    rw [(hblames fun _ heq => Except.ok.inj heq ▸ hunique).eq_of_filter_eq
      (hblames' fun _ heq => Except.ok.inj heq ▸ hunique') hsame]
  · rintro settings request rendered name updateName script play rfl hfair hfinite k shown hmem
      rfl hfailure
    have hdecides : Watch.verdict? (.ok shown) = some (.terminal shown) :=
      Watch.verdict?_eq_terminal.mpr ⟨rfl, StackStatus.isTerminal_of_isFailure hfailure⟩
    obtain ⟨i, hki, hending⟩ := play.exists_ending_of_mem_looks (attends_deploy _ _ _ _ _) hfair
      hmem hdecides
    obtain ⟨j, outcome, hij, hover⟩ :=
      play.exists_over_of_ending (staged_deploy _ _ _ _ _) hfair hfinite hending
    have hkj := Nat.le_trans hki hij
    exact ⟨j, outcome, hkj, hover, hfailure, ⟨shown, rfl, play.mem_looks_of_le hmem hkj⟩,
      _, _, _, _, _, _, rfl, (play.plays j).runs, hover⟩

/-! ### A queue that could not be created -/

/-- The queue of a stack fails. -/
def queueFailed : StackEvent :=
  ⟨"e1", "Queue", "", "AWS::SQS::Queue", "CREATE_FAILED", some "limit exceeded", .epoch⟩

/-- So does the topic, at the same time, but it is recorded later. -/
def topicFailed : StackEvent :=
  ⟨"e2", "Topic", "", "AWS::SNS::Topic", "CREATE_FAILED", some "cancelled", .epoch⟩

/-- An earlier deployment has failed the day before. -/
def tableFailed : StackEvent :=
  ⟨"e0", "Table", "", "AWS::DynamoDB::Table", "CREATE_FAILED", none,
    ⟨⟨1969, 12, 31, by decide, by decide⟩, 0, 0, Instant.epoch.second_lt, Instant.epoch.nano_lt⟩⟩

/-- The stack of the queue as it is shown after its rollback. -/
def rolledBack : Stack := .named "demo" .rollbackComplete

/-- The error that blames the queue. -/
def queueBlamed : DeployError :=
  .stackFailed "demo" .rollbackComplete "Queue" "limit exceeded"

/-- The queue's deployment reads a history on two pages after it was shown the stack rolled back. -/
theorem queueDeployment_reads (newer older : List StackEvent) :
    ∃ m, (queueScriptHearing (.ok rolledBack)).Plays queueDeployment m ∧
      m.session.phase = .over (.failed (failure queueTarget .rollbackComplete
        (.ok (Selection.ofHistory (newer ++ older) .epoch []).fresh))) ∧
      .ok rolledBack ∈ looks "demo" m.trace ∧
      ReadLast "demo" m.trace (.ok (newer ++ older)) ∧ CreatedAt "demo" m.trace .epoch := by
  obtain ⟨⟨steps, trace, session⟩, s, plays, hlooks, rfl⟩ :=
    queueDeployment_hears (.ok rolledBack) (.terminal rolledBack) rfl
  have hmem : .ok rolledBack ∈ looks "demo" trace := by simp [hlooks]
  have hoff := setOff_of_mem_looks hmem
  have first := plays.operation (.call _ _ (.ok (⟨newer, some "1"⟩ : EventPage)))
    (Script.gives_call_of_none rfl)
  have second := first.operation (.call _ _ (.ok (⟨older, none⟩ : EventPage)))
    (Script.gives_call_of_none rfl)
  have ended := second.operation (.goOn _) (by simp)
  have hread : HistoryRead "demo"
      [.call (.describeStackEvents "demo" none) (.ok ⟨newer, some "1"⟩),
        .call (.describeStackEvents "demo" (some "1")) (.ok ⟨older, none⟩)]
      (.ok (newer ++ older)) := .complete (.page .start rfl) rfl
  -- when the reading begins, the target is dated by the trace so far
  obtain ⟨earlier, reads, htrace, htarget, -, hgathered⟩ := dated_of_runs plays.runs
  obtain rfl : reads = [] := hgathered.eq_nil
  rw [List.append_nil] at htrace
  refine ⟨_, ended, rfl, ?_, ⟨trace, _, ?_, hread⟩, ?_⟩
  · rw [List.append_nil, looks_append (hoff.append _), looks_append hoff]
    exact List.mem_append_left _ (List.mem_append_left _ hmem)
  · rw [List.append_nil, List.append_assoc]
    rfl
  · rw [List.append_nil, List.append_assoc]
    exact (htrace ▸ htarget.created).append hread.isOfChangeSet_eq_false

theorem failsWithStack_queueDeployment {m : Moment} {outcome : Outcome}
    (plays : (queueScriptHearing (.ok rolledBack)).Plays queueDeployment m)
    (hover : m.session.phase = .over outcome) (hmem : .ok rolledBack ∈ looks "demo" m.trace) :
    FailsWithStack "demo" .rollbackComplete m.trace outcome :=
  ⟨rfl, ⟨rolledBack, rfl, hmem⟩, _, _, _, _, _, _, rfl, plays.runs, hover⟩

/-- The queue is blamed, in whatever way the history is divided and whatever has failed the day
before, and a fair run comes to that. -/
theorem queueDeployment_blames_queue :
    (∃ trace read cutoff e, FailsWithStack "demo" .rollbackComplete trace (.failed queueBlamed) ∧
      ReadLast "demo" trace read ∧ CreatedAt "demo" trace cutoff ∧
      Outcome.failed queueBlamed = .failed e ∧ Blames "demo" .rollbackComplete cutoff read e) ∧
    (∃ trace outcome, FailsWithStack "demo" .rollbackComplete trace outcome ∧
      ReadLast "demo" trace (.ok [topicFailed, queueFailed, tableFailed]) ∧
      .failed queueBlamed = outcome) ∧
    ∃ play : Play (queueScriptHearing (.ok rolledBack)) queueDeployment,
      play.Fair ∧ play.FiniteHistories ∧ ∃ k, .ok rolledBack ∈ looks "demo" (play.moment k).trace ∧
        ∃ j outcome, k ≤ j ∧ (play.moment j).session.phase = .over outcome ∧
          FailsWithStack "demo" .rollbackComplete (play.moment j).trace outcome := by
  obtain ⟨hblames, hsame, hreaches⟩ := blames_first_failure "demo" .rollbackComplete
  obtain ⟨m, plays, hover, hmem, hread, hcreated⟩ :=
    queueDeployment_reads [topicFailed] [queueFailed]
  obtain ⟨m', plays', hover', hmem', hread', hcreated'⟩ :=
    queueDeployment_reads [topicFailed, queueFailed] [tableFailed]
  have hqueue : failure queueTarget .rollbackComplete (.ok
      (Selection.ofHistory ([topicFailed] ++ [queueFailed]) .epoch []).fresh) = queueBlamed := by
    decide
  rw [hqueue] at hover
  have hfails := failsWithStack_queueDeployment plays hover hmem
  have hfails' := failsWithStack_queueDeployment plays' hover' hmem'
  refine ⟨?_, ⟨m'.trace, _, hfails', hread', ?_⟩, ?_⟩
  · obtain ⟨read, cutoff, e, hlast, htime, he, hunique⟩ := hblames _ _ hfails
    obtain rfl := hlast.unique hread
    refine ⟨m.trace, _, cutoff, e, hfails, hlast, htime, he, (hunique ?_).1⟩
    rintro history ⟨⟩
    decide
  · exact hsame _ _ _ _ _ _ _ hfails hfails' hcreated hcreated' hread hread' (by decide)
      (by decide) (by decide)
  · obtain ⟨play, hfair, hfinite, -, k, hk⟩ :=
      plays.within.exists_fair_play (staged_deploy _ _ _ _ _) hover
    exact ⟨play, hfair, hfinite, k, hk ▸ hmem,
      hreaches _ _ _ _ _ _ play rfl hfair hfinite k rolledBack (hk ▸ hmem) rfl rfl⟩

end StackDeploy
