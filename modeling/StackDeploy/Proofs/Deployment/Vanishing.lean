import StackDeploy.Proofs.Deployment.Punctual

/-!
# Deployments of stacks that vanish

A deployment reports what its watch has concluded. It succeeds only with a status that the last look
at the stack has shown and that counts as a success, and it fails if a look finds no stack any more.
A stack that is shown with its deletion complete, however, counts as a success.

* `StackStatus.isSuccess_eq` — the statuses that count as a success, by their texts.
* `Session.deploys_only_what_is_shown` — what a deployment reports.
* `deploys_deleted_stack` — a deployment that reports a deleted stack as deployed.
-/

namespace StackDeploy

open Text

/-- A status counts as a success if its text ends like that of a completed operation, and not like
that of a completed rollback. -/
theorem StackStatus.isSuccess_eq (status : StackStatus) :
    status.isSuccess =
      (endsIn status.text "_COMPLETE" && !endsIn status.text "ROLLBACK_COMPLETE") := by
  cases status with
  | other text => rfl
  | _ => decide

namespace Goal

variable {stack : String} {timeout : Nat} {watched : Watched}

/-- A deployment succeeds if its watch has concluded that the stack succeeded. -/
theorem Answers.of_deployed {status : StackStatus} {tree : ProgressTree}
    {streamError : Option String}
    (h : Goal.deployment.Answers stack timeout watched (.deployed status tree streamError)) :
    ∃ shown, watched = .terminal shown ∧ shown.status = status ∧ status.isSuccess := by
  cases h with
  | deployed hsuccess => exact ⟨_, rfl, rfl, hsuccess⟩

theorem Answers.of_gone {outcome : Outcome}
    (h : Goal.deployment.Answers stack timeout .gone outcome) :
    outcome = .failed (.stackVanished stack) := by
  cases h
  rfl

end Goal

namespace Session

variable (settings : SessionSettings) (request : DeployRequest) (rendered : Except String String)
  (name updateName : String)

/-- **Deployments.** A deployment that succeeds does so with the status that the last look at the
stack has shown, while all looks before it have shown the stack in a status that is not terminal;
and that status counts as a success. If a look finds no stack any more, then every outcome is the
failure that says so, and every fair run comes to it, if histories are finite. -/
theorem deploys_only_what_is_shown :
    (∀ trace s status tree streamError,
      (deploy settings request rendered name updateName).Runs trace s →
      s.phase = .over (.deployed status tree streamError) →
        ∃ earlier shown, looks request.stack trace = earlier ++ [.ok shown] ∧
          (∀ reply ∈ earlier, Watch.IsPending reply) ∧ shown.status = status ∧
          endsIn status.text "_COMPLETE" ∧ ¬ endsIn status.text "ROLLBACK_COMPLETE") ∧
    (∀ trace s subject outcome,
      (deploy settings request rendered name updateName).Runs trace s →
      .error (.notFound subject) ∈ looks request.stack trace → s.phase = .over outcome →
        outcome = .failed (.stackVanished request.stack)) ∧
    ∀ script (play : Play script (deploy settings request rendered name updateName)),
      play.Fair → play.FiniteHistories →
        ∀ k subject, .error (.notFound subject) ∈ looks request.stack (play.moment k).trace →
          ∃ j, k ≤ j ∧
            (play.moment j).session.phase = .over (.failed (.stackVanished request.stack)) := by
  have hstart := attends_deploy settings request rendered name updateName
  have hvanished {trace : List Action} {s : Session} {subject : String} {outcome : Outcome}
      (run : (deploy settings request rendered name updateName).Runs trace s)
      (hmem : .error (.notFound subject) ∈ looks request.stack trace)
      (hover : s.phase = .over outcome) : outcome = .failed (.stackVanished request.stack) := by
    obtain ⟨watched, hconcludes, hanswers⟩ :=
      (hstart.runs run).answers (setOff_of_mem_looks hmem) hover
    obtain rfl : watched = .gone := hconcludes.eq_of_mem hmem rfl
    exact hanswers.of_gone
  refine ⟨fun trace s status tree streamError run hover => ?_,
    fun trace s subject outcome run hmem hover => hvanished run hmem hover,
    fun script play hfair hfinite k subject hmem => ?_⟩
  · obtain ⟨watched, hconcludes, hanswers⟩ := (hstart.runs run).answers_of_deployed hover
    obtain ⟨shown, rfl, rfl, hsuccess⟩ := hanswers.of_deployed
    obtain ⟨earlier, hlooks, hearlier, -⟩ := Watch.concludes_terminal.mp hconcludes
    rw [StackStatus.isSuccess_eq, Bool.and_eq_true, Bool.not_eq_true'] at hsuccess
    exact ⟨earlier, shown, hlooks, Watch.undecided_iff.mp hearlier, rfl, hsuccess.1,
      by simp [hsuccess.2]⟩
  · obtain ⟨i, hki, hending⟩ := play.exists_ending_of_mem_looks hstart hfair hmem rfl
    obtain ⟨j, outcome, hij, hover⟩ :=
      play.exists_over_of_ending (staged_deploy _ _ _ _ _) hfair hfinite hending
    have hkj := Nat.le_trans hki hij
    exact ⟨j, hkj, hvanished (play.plays j).runs (play.mem_looks_of_le hmem hkj) hover ▸ hover⟩

end Session

/-! ### What the queue's deployment hears -/

/-- The script of a deployment that adds a queue and hears one reply whenever it looks at the stack.
-/
def queueScriptHearing (reply : Except ApiError Stack) : Script :=
  { queueScript with watched := fun _ => reply }

/-- The target of the queue's deployment. -/
def queueTarget : Target := ⟨.deployment, "demo", "demo", .epoch⟩

/-- The queue's deployment ends with what it hears first, if that decides. -/
theorem queueDeployment_hears (reply : Except ApiError Stack) (watched : Watched)
    (h : Watch.verdict? reply = some watched) :
    ∃ m, ∃ s : Session, (queueScriptHearing reply).Plays queueDeployment m ∧
      looks "demo" m.trace = [reply] ∧ 
        m.session = s.stopped queueTarget (queueDeployment.ending queueTarget watched) := by
  have begun : (queueScriptHearing reply).Plays queueDeployment (.first queueDeployment) := .start
  have submitted := begun.operation
    (.call _ _ (.ok (⟨"queue", "demo"⟩ : ChangeSetRef))) (Script.gives_call rfl)
  have asking := submitted.operation (.goOn _) (by simp)
  have described := asking.operation (.call _ _ (.ok queueChangeSet))
    (Script.gives_call rfl)
  have judged := described.operation (.goOn _) (by simp)
  have reviewed := judged.operation (.goOn _) (by simp)
  have written := reviewed.operation (.write _ _ (.ok ()))
    (by simp [Script.Gives])
  have executed := written.operation (.call _ _ (.ok ())) (Script.gives_call rfl)
  have watching := executed.operation (.goOn _) (by simp)
  have looked := watching.operation
    (.call (.describeStack "demo") _ reply) (Script.gives_call rfl)
  have decided {s : Session} {target : Target} {w : Watch} {deadline : Nat}
      (hphase : s.phase = .watching target w) (hw : w.phase = .heard deadline reply) :
      (s.step ⟨0, 0, .epoch⟩ .operation).Leads ⟨0, 0, .epoch⟩ []
        { s with phase := .watching target { w with phase := .over watched } } := by
    simp only [Session.step, Session.operationStep, hphase, Watch.step, hw, h]
    exact .goOn _
  have heard := looked.operation (decided rfl rfl) (by simp)
  have stops {s : Session} {target : Target} {w : Watch}
      (hphase : s.phase = .watching target w) (hw : w.phase = .over watched)
      (hsettings : s.settings = queueDeployment.settings) :
      (s.step ⟨0, 0, .epoch⟩ .operation).Leads ⟨0, 0, .epoch⟩ []
        (s.stop target (queueDeployment.ending target watched)) := by
    have hending : s.ending target watched = queueDeployment.ending target watched := by
      cases watched <;> simp only [Session.ending, hsettings]
    rw [← hending, ← Session.watched_eq_stop]
    simp only [Session.step, Session.operationStep, hphase, Watch.step, hw]
    exact .goOn _
  have stopping := heard.operation (stops rfl rfl rfl) (by simp)
  have draining := stopping.feed ⟨0, 0, .epoch⟩ (.goOn _)
  have polled := draining.feed ⟨0, 0, .epoch⟩
    (.call _ _ (.ok (⟨[], none⟩ : EventPage)))
  have drained := polled.feed ⟨0, 0, .epoch⟩ (.goOn _)
  have closed := drained.painter ⟨0, 0, .epoch⟩ (.goOn _)
  have ended : (queueScriptHearing reply).Plays queueDeployment
      ⟨_, _, .stopped _ queueTarget (queueDeployment.ending queueTarget watched)⟩ :=
    closed.operation (.goOn _) (by simp)
  refine ⟨_, _, ended, ?_, rfl⟩
  simp only [looks, Moment.first, List.nil_append, List.cons_append, List.append_nil,
    List.dropWhile, Action.setsOff, Bool.not_true, Bool.not_false]
  rfl

/-- The queue's deployment finds no stack and says so in the end, as every fair run of it does; and
when it is shown the created stack, it says that the stack is deployed. -/
theorem queueDeployment_vanishes :
    (∃ play : Play (queueScriptHearing (.error (.notFound "demo"))) queueDeployment,
      play.Fair ∧ play.FiniteHistories ∧ ∃ k,
        .error (.notFound "demo") ∈ looks "demo" (play.moment k).trace ∧
        ∃ j, k ≤ j ∧ (play.moment j).session.phase = .over (.failed (.stackVanished "demo"))) ∧
    (∃ trace s outcome, queueDeployment.Runs trace s ∧
      .error (.notFound "demo") ∈ looks "demo" trace ∧ s.phase = .over outcome ∧
      outcome = .failed (.stackVanished "demo")) ∧
    ∃ trace s tree streamError, queueDeployment.Runs trace s ∧
      s.phase = .over (.deployed .createComplete tree streamError) ∧
      ∃ earlier shown, looks "demo" trace = earlier ++ [.ok shown] ∧
        (∀ reply ∈ earlier, Watch.IsPending reply) ∧ shown.status = .createComplete ∧
        endsIn "CREATE_COMPLETE" "_COMPLETE" ∧ ¬ endsIn "CREATE_COMPLETE" "ROLLBACK_COMPLETE" := by
  obtain ⟨hdeployed, hvanished, hfair⟩ := Session.deploys_only_what_is_shown
    ⟨.default, ⟨false, false⟩, false⟩ ⟨"demo", "app.yml", [], [], [], .create⟩
    (.ok "Resources: {}") "queue" "queue-update"
  obtain ⟨m, s, plays, hlooks, hsession⟩ :=
    queueDeployment_hears (.error (.notFound "demo")) .gone rfl
  have hmem : .error (.notFound "demo") ∈ looks "demo" m.trace := by simp [hlooks]
  have hover : m.session.phase = .over (.failed (.stackVanished "demo")) := by
    rw [hsession]
    rfl
  refine ⟨?_, ⟨_, _, _, plays.runs, hmem, hover, hvanished _ _ _ _ plays.runs hmem hover⟩, ?_⟩
  · obtain ⟨play, fair, finite, -, k, hk⟩ :=
      plays.within.exists_fair_play (Session.staged_deploy _ _ _ _ _) hover
    exact ⟨play, fair, finite, k, hk ▸ hmem,
      hfair _ play fair finite k "demo" (hk ▸ hmem)⟩
  · obtain ⟨m, s, plays, -, hsession⟩ := queueDeployment_hears
      (.ok (.named "demo" .createComplete)) (.terminal (.named "demo" .createComplete)) rfl
    have hover : m.session.phase =
        .over (.deployed .createComplete (s.finalTree queueTarget) s.streamError?) := by
      rw [hsession]
      rfl
    exact ⟨_, _, _, _, plays.runs, hover, hdeployed _ _ _ _ _ plays.runs hover⟩

/-- A deployment that is shown its stack with the deletion complete says that the stack is
deployed. -/
theorem deploys_deleted_stack : ∃ trace s tree streamError, queueDeployment.Runs trace s ∧
    looks "demo" trace = [.ok (.named "demo" .deleteComplete)] ∧
    s.phase = .over (.deployed .deleteComplete tree streamError) := by
  obtain ⟨m, s, plays, hlooks, hsession⟩ := queueDeployment_hears
    (.ok (.named "demo" .deleteComplete)) (.terminal (.named "demo" .deleteComplete)) rfl
  refine ⟨_, _, s.finalTree queueTarget, s.streamError?, plays.runs, hlooks, ?_⟩
  rw [hsession]
  rfl

end StackDeploy
