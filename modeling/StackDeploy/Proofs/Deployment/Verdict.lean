import StackDeploy.Proofs.ChangeSet.Controller
import StackDeploy.Proofs.Deployment.Operation
import StackDeploy.Proofs.Deployment.Play

/-!
# Verdicts

What a deployment decides does not depend on the feed, on the painter, or on the events that explain
a failure. Two runs by one script go through the same phases until a **verdict** is known, which is
then the same in both.

* `Session.Phase.verdict?` — the verdict of a deployment, as soon as it is known.
* `Script.Moves.verdict?_eq` — a verdict that is known is never changed.
* `Script.Plays.abreast` — runs by one script keep abreast of each other.
* `Script.Plays.verdict_unique` — two runs by one script that are over have the same verdict.
-/

namespace StackDeploy

/-! ### Verdicts -/

/-- A **verdict** on a deployment: its outcome without the tree and the error of the stream, and
without the event that explains a failure. -/
inductive Verdict where
  | noChanges
  | deployed (status : StackStatus)
  | failed (error : DeployError)
deriving DecidableEq

/-- The error without the event that explains it. -/
def DeployError.withoutCause : DeployError → DeployError
  | stackFailed stack status _ _ => stackFailedWithoutCause stack status
  | e => e

/-- The verdict of an outcome; deletions and streams have none. -/
def Outcome.verdict? : Outcome → Option Verdict
  | noChanges => some .noChanges
  | deployed status _ _ => some (.deployed status)
  | failed e => some (.failed e.withoutCause)
  | deleted _ _ | followed _ _ => none

/-- The verdict of a deployment that is about to end. -/
def Ending.verdict (target : Target) : Ending → Verdict
  | failed e => .failed e.withoutCause
  | gone => .failed (.stackVanished target.stack)
  | terminal stack =>
    if stack.status.isSuccess then .deployed stack.status
    else .failed (.stackFailedWithoutCause target.key stack.status)

namespace Session

/-- The verdict of a deployment, once it is **known**. -/
def Phase.verdict? : Phase → Option Verdict
  | .stopping target ending =>
    if target.goal = .deployment then some (ending.verdict target) else none
  | .tracing target status _ => some (.failed (.stackFailedWithoutCause target.key status))
  | .over outcome => outcome.verdict?
  | _ => none

variable {s t : Session} {clock : Clock} {actions : List Action} {verdict : Verdict}

theorem verdict?_fail (s : Session) (e : DeployError) :
    (s.fail e).phase.verdict? = some (.failed e.withoutCause) := rfl

theorem verdict?_stop (s : Session) {target : Target} (ending : Ending)
    (hgoal : target.goal = .deployment) :
    (s.stop target ending).phase.verdict? = some (ending.verdict target) := by
  rw [stop, Phase.verdict?, if_pos hgoal]

/-- Stopping a deployment ends it as its verdict says. -/
theorem verdict?_stopped (s : Session) {target : Target} (ending : Ending)
    (hgoal : target.goal = .deployment) :
    (s.stopped target ending).phase.verdict? = some (ending.verdict target) := by
  cases ending with
  | failed e => rfl
  | gone =>
    rw [stopped, hgoal]
    rfl
  | terminal stack =>
    simp only [stopped, hgoal, Ending.verdict]
    split <;> rfl

/-- The events of a failed stack explain the failure, and they change nothing else. -/
theorem withoutCause_failure (target : Target) (status : StackStatus)
    (fetched : Except FetchError (List StackEvent)) :
    (failure target status fetched).withoutCause = .stackFailedWithoutCause target.key status := by
  unfold failure
  split
  · rfl
  · split <;> rfl

/-- The operation keeps its verdict. -/
theorem verdict?_of_operation (h : s.phase.verdict? = some verdict)
    (leads : (s.operationStep clock).Leads clock actions t) :
    t.phase.verdict? = some verdict := by
  cases steps_of_leads leads with
  | @stopped target ending hphase =>
    rw [hphase, Phase.verdict?] at h
    split at h
    next hgoal => rw [verdict?_stopped s ending hgoal, h]
    · cases h
  | read hphase =>
    rw [hphase] at h
    exact h
  | explain hphase =>
    rw [hphase, Phase.verdict?] at h
    rw [verdict?_fail, withoutCause_failure, h]
  | submit hphase | submitUpdate hphase | review hphase | reviewed hphase | announce hphase
  | execute hphase | look hphase | date hphase | delete hphase | watch hphase | watched hphase
  | follow hphase =>
    rw [hphase] at h
    cases h

end Session

/-- **A verdict stands.** No move of any actor changes a verdict that is known. -/
theorem Script.Moves.verdict?_eq {script : Script} {mover : Option Actor} {actions : List Action}
    {m m' : Moment} {verdict : Verdict} (moves : script.Moves mover actions m m')
    (h : m.session.phase.verdict? = some verdict) :
    m'.session.phase.verdict? = some verdict := by
  by_cases hmover : mover = some .operation
  · subst hmover
    cases moves with
    | operation leads => exact Session.verdict?_of_operation h leads
    | other hactor => exact absurd rfl hactor
  · obtain ⟨-, hphase, -, -⟩ := moves.aside hmover
    rw [hphase]
    exact h

/-! ### Phases that are alike -/

/-- Two phases of deployments without a verdict are **alike**: they are the same, up to the names of
the change sets that are still to be submitted. -/
inductive Session.Phase.Alike : Session.Phase → Session.Phase → Prop
  | submitting {order other : DeployOrder} (controller : Controller)
      (hrequest : other.request = order.request) (hbody : other.body = order.body) :
      Alike (.submitting order controller) (.submitting other controller)
  | submittingUpdate {order other : DeployOrder} (controller : Controller)
      (hrequest : other.request = order.request) (hbody : other.body = order.body) :
      Alike (.submittingUpdate order controller) (.submittingUpdate other controller)
  | reviewing (stack : String) (review : Review) :
      Alike (.reviewing stack review) (.reviewing stack review)
  | announcing (stack : String) (controller : Controller) (changes : List Change) :
      Alike (.announcing stack controller changes) (.announcing stack controller changes)
  | executing {target : Target} (controller : Controller) (ref : ChangeSetRef)
      (hgoal : target.goal = .deployment) :
      Alike (.executing target controller ref) (.executing target controller ref)
  | watching {target : Target} (watch : Watch) (hgoal : target.goal = .deployment) :
      Alike (.watching target watch) (.watching target watch)

/-- Two phases **agree**: they have the same verdict, or none and are alike. -/
def Session.Phase.Agree (phase other : Session.Phase) : Prop :=
  (∃ verdict, phase.verdict? = some verdict ∧ other.verdict? = some verdict) ∨ phase.Alike other

namespace Session

open Phase

variable {s s' t t' : Session} {clock : Clock} {actions actions' trace trace' : List Action}
  {script : Script}

theorem agree_fail (e : DeployError) : (s.fail e).phase.Agree (s'.fail e).phase :=
  .inl ⟨_, rfl, rfl⟩

/-- After one reply to their submissions deployments of one request agree. -/
theorem agree_submitted {order other : DeployOrder} (controller : Controller) (type : ChangeSetType)
    (reply : Except ApiError ChangeSetRef) (hrequest : other.request = order.request)
    (hbody : other.body = order.body) :
    (s.submitted order controller type reply).phase.Agree
      (s'.submitted other controller type reply).phase := by
  rw [submitted, submitted, hrequest]
  rcases controller.submitted_cases order.request.stack type reply with
    ⟨ref, -, h⟩ | ⟨subject, -, rfl, h⟩ | ⟨cause, -, h⟩
  · simp only [h]
    exact .inr (.reviewing _ _)
  · simp only [h, if_true]
    exact .inr (.submittingUpdate controller hrequest hbody)
  · simp only [h]
    exact agree_fail _

theorem agree_reviewed (stack : String)
    (result : Except ChangeSetError ReviewOutcome × Controller) :
    (s.reviewed stack result).phase.Agree (s'.reviewed stack result).phase := by
  obtain ⟨result, controller⟩ := result
  cases result with
  | error e => exact agree_fail _
  | ok outcome =>
    cases outcome with
    | noChanges => exact .inl ⟨.noChanges, rfl, rfl⟩
    | changes changes => exact .inr (.announcing stack controller changes)

theorem agree_announced (stack : String) (controller : Controller) :
    (s.announced clock stack controller (.ok ())).phase.Agree
      (s'.announced clock stack controller (.ok ())).phase := by
  cases hset : controller.changeSet with
  | none =>
    simp only [announced, hset]
    exact agree_fail _
  | some ref =>
    simp only [announced, hset]
    exact .inr (.executing controller ref rfl)

theorem agree_stop {target : Target} (ending : Ending) (hgoal : target.goal = .deployment) :
    (s.stop target ending).phase.Agree (s'.stop target ending).phase :=
  .inl ⟨_, verdict?_stop s ending hgoal, verdict?_stop s' ending hgoal⟩

theorem agree_executed {target : Target} (controller : Controller) (ref : ChangeSetRef)
    (reply : Except ApiError Unit) (hgoal : target.goal = .deployment)
    (htiming : s.settings.deploy = s'.settings.deploy) :
    (s.executed target controller ref reply).phase.Agree
      (s'.executed target controller ref reply).phase := by
  cases reply with
  | error cause => exact agree_stop _ hgoal
  | ok _ =>
    simp only [executed, Controller.executed, watch, htiming]
    exact .inr (.watching _ hgoal)

theorem agree_watched {target : Target} (watched : Watched) (hgoal : target.goal = .deployment)
    (htiming : s.settings.deploy = s'.settings.deploy) :
    (s.watched target watched).phase.Agree (s'.watched target watched).phase := by
  cases watched with
  | terminal | gone | failed => exact agree_stop _ hgoal
  | timedOut =>
    rw [Session.watched, Session.watched, htiming]
    exact agree_stop _ hgoal

/-- A submission of one request has one reply by the script, whatever the change set is called. -/
theorem reply_eq_of_createChangeSet {input input' : ChangeSetInput}
    {reply : Reply (.createChangeSet input)} {reply' : Reply (.createChangeSet input')}
    (halike : AskedAlike trace trace')
    (hgiven : script.Gives trace (.call (.createChangeSet input) reply))
    (hgiven' : script.Gives trace' (.call (.createChangeSet input') reply')) : reply = reply' := by
  rw [hgiven _ rfl, hgiven' _ rfl, halike _ (.inl rfl)]

theorem askedAlike_createChangeSet {input input' : ChangeSetInput}
    (reply : Reply (.createChangeSet input)) (reply' : Reply (.createChangeSet input')) :
    AskedAlike [.call (.createChangeSet input) reply]
      [.call (.createChangeSet input') reply'] :=
  fun _ _ => rfl

/-- A review asks for nothing but its change set. -/
theorem isScripted_of_review {review : Review} {request : Request} {resume : Reply request → Review}
    (h : review.step clock = .call request resume) : request.operation.IsScripted := by
  have leads : (review.step clock).Leads clock [.call request (.error (.http ""))]
      (resume (.error (.http ""))) := h ▸ .call request resume _
  obtain ⟨stack, id, reply, heq⟩ := Review.describes_of_leads leads _ (List.mem_singleton_self _)
  cases heq
  exact .inr (.inl rfl)

/-- A watch asks for nothing but its stack. -/
theorem isScripted_of_watch {w : Watch} {request : Request} {resume : Reply request → Watch}
    (h : w.step clock = .call request resume) : request.operation.IsScripted := by
  have leads : (w.step clock).Leads clock [.call request (.error (.http ""))]
      (resume (.error (.http ""))) := h ▸ .call request resume _
  obtain ⟨stack, reply, heq⟩ := Watch.describes_of_leads leads _ (List.mem_singleton_self _)
  cases heq
  exact .inr (.inr (.inr rfl))

/-- **Lockstep.** Operations in phases that are alike take the same step by a script: afterwards
they agree, and they have asked for the same. -/
theorem Phase.Alike.step (halike : s.phase.Alike s'.phase)
    (htiming : s.settings.deploy = s'.settings.deploy) (hasked : AskedAlike trace trace')
    (leads : (s.operationStep clock).Leads clock actions t)
    (leads' : (s'.operationStep clock).Leads clock actions' t')
    (hgiven : ∀ a ∈ actions, script.Gives trace a)
    (hgiven' : ∀ a ∈ actions', script.Gives trace' a) :
    t.phase.Agree t'.phase ∧ AskedAlike actions actions' := by
  rw [operationStep] at leads leads'
  generalize hphase : s.phase = phase at halike leads
  generalize hphase' : s'.phase = phase' at halike leads'
  cases halike with
  | @submitting order other controller hrequest hbody =>
    cases leads with
    | call _ _ reply =>
      cases leads' with
      | call _ _ reply' =>
        obtain rfl := reply_eq_of_createChangeSet hasked (hgiven _ (List.mem_singleton_self _))
          (hgiven' _ (List.mem_singleton_self _))
        refine ⟨?_, askedAlike_createChangeSet _ _⟩
        rw [hrequest]
        exact agree_submitted controller order.request.intent _ hrequest hbody
  | @submittingUpdate order other controller hrequest hbody =>
    cases leads with
    | call _ _ reply =>
      cases leads' with
      | call _ _ reply' =>
        obtain rfl := reply_eq_of_createChangeSet hasked (hgiven _ (List.mem_singleton_self _))
          (hgiven' _ (List.mem_singleton_self _))
        exact ⟨agree_submitted controller .update _ hrequest hbody, askedAlike_createChangeSet _ _⟩
  | reviewing stack review =>
    -- both reviews take the same step, or both are over
    obtain ⟨rfl, ⟨r, rfl, rfl⟩ | ⟨result, rfl, rfl⟩⟩ := Script.leads_embed_unique hasked
      (fun _ _ h => isScripted_of_review h) leads leads' hgiven hgiven'
    · exact ⟨.inr (.reviewing stack r), fun _ _ => rfl⟩
    · exact ⟨agree_reviewed stack result, fun _ _ => rfl⟩
  | announcing stack controller changes =>
    cases leads with
    | write _ _ written =>
      cases leads' with
      | write _ _ written' =>
        obtain rfl : written = .ok () := hgiven _ (List.mem_singleton_self _)
        obtain rfl : written' = .ok () := hgiven' _ (List.mem_singleton_self _)
        exact ⟨agree_announced stack controller, fun _ _ => rfl⟩
  | executing controller ref hgoal =>
    cases leads with
    | call _ _ reply =>
      cases leads' with
      | call _ _ reply' =>
        have hreply : reply = reply' := by
          rw [hgiven _ (List.mem_singleton_self _) _ rfl,
            hgiven' _ (List.mem_singleton_self _) _ rfl,
            hasked _ (.inr (.inr (.inl rfl)))]
        rw [hreply]
        exact ⟨agree_executed controller ref reply' hgoal htiming, fun _ _ => rfl⟩
  | @watching target w hgoal =>
    obtain ⟨rfl, ⟨r, rfl, rfl⟩ | ⟨result, rfl, rfl⟩⟩ := Script.leads_embed_unique hasked
      (fun _ _ h => isScripted_of_watch h) leads leads' hgiven hgiven'
    · exact ⟨.inr (.watching r hgoal), fun _ _ => rfl⟩
    · exact ⟨agree_watched result hgoal htiming, fun _ _ => rfl⟩

end Session

/-! ### Runs by one script -/

/-- Two moments are **abreast**: the same verdict is known, or the operations are in phases that are
alike and have asked for the same. -/
def Moment.Abreast (m m' : Moment) : Prop :=
  m.session.settings.deploy = m'.session.settings.deploy ∧
    ((∃ verdict, m.session.phase.verdict? = some verdict ∧
        m'.session.phase.verdict? = some verdict) ∨
      m.session.phase.Alike m'.session.phase ∧ AskedAlike m.trace m'.trace)

theorem Session.Phase.Alike.symm {phase other : Session.Phase} (h : phase.Alike other) :
    other.Alike phase := by
  cases h with
  | submitting controller hrequest hbody => exact .submitting controller hrequest.symm hbody.symm
  | submittingUpdate controller hrequest hbody =>
    exact .submittingUpdate controller hrequest.symm hbody.symm
  | reviewing stack review => exact .reviewing stack review
  | announcing stack controller changes => exact .announcing stack controller changes
  | executing controller ref hgoal => exact .executing controller ref hgoal
  | watching watch hgoal => exact .watching watch hgoal

theorem Session.Phase.Alike.verdict?_eq_none {phase other : Session.Phase}
    (h : phase.Alike other) : phase.verdict? = none ∧ other.verdict? = none := by
  cases h <;> exact ⟨rfl, rfl⟩

theorem Moment.Abreast.symm {m m' : Moment} (h : m.Abreast m') : m'.Abreast m := by
  refine ⟨h.1.symm, h.2.imp ?_ fun h => ⟨h.1.symm, h.2.symm⟩⟩
  rintro ⟨verdict, hverdict, hverdict'⟩
  exact ⟨verdict, hverdict', hverdict⟩

namespace Script

variable {script : Script} {start start' : Session} {m m' : Moment}

/-- **Runs by one script keep abreast.** Whenever the operations have taken equally many steps, the
moments are abreast. -/
theorem Plays.abreast (hstart : (Moment.first start).Abreast (.first start'))
    (plays : script.Plays start m) (plays' : script.Plays start' m')
    (hsteps : m.steps = m'.steps) : m.Abreast m' := by
  -- by induction on the steps of the operation: what the others do in between changes neither its
  -- phase nor what it has asked for
  generalize hn : m.steps = n at hsteps
  induction n generalizing m m' with
  | zero =>
    obtain ⟨hphase, hsettings, hasked⟩ := plays.phase_of_steps_eq_zero hn
    obtain ⟨hphase', hsettings', hasked'⟩ := plays'.phase_of_steps_eq_zero hsteps.symm
    rw [Moment.Abreast, hphase, hphase', hsettings, hsettings']
    exact hstart.imp_right fun h => h.imp_right fun h => ⟨h.1, hasked.trans hasked'.symm⟩
  | succ n ih =>
    obtain ⟨before, actions, t, hbefore, hcount, leads, given, hphase, hsettings, hasked⟩ :=
      plays.exists_step hn
    obtain ⟨before', actions', t', hbefore', hcount', leads', given', hphase', hsettings',
      hasked'⟩ := plays'.exists_step hsteps.symm
    obtain ⟨htiming, hagree⟩ := ih hbefore hbefore' hcount hcount'.symm
    rw [Moment.Abreast, hphase, hphase', hsettings, hsettings',
      (Session.operationGoes_of_leads leads).settings_eq,
      (Session.operationGoes_of_leads leads').settings_eq]
    refine ⟨htiming, ?_⟩
    rcases hagree with ⟨verdict, hverdict, hverdict'⟩ | ⟨halike, htraces⟩
    · exact .inl ⟨verdict, Session.verdict?_of_operation hverdict leads,
        Session.verdict?_of_operation hverdict' leads'⟩
    · obtain ⟨hagree | halike, hactions⟩ :=
        halike.step htiming htraces leads leads' given given'
      · exact .inl hagree
      · exact .inr ⟨halike, hasked.trans ((htraces.append hactions).trans hasked'.symm)⟩

/-- A run that has come to a moment has come to moments with fewer steps before, and a verdict that
was known then is known later. -/
theorem Plays.exists_earlier (plays : script.Plays start m) {n : Nat} (hn : n ≤ m.steps) :
    ∃ earlier, script.Plays start earlier ∧ earlier.steps = n ∧
      ∀ verdict, earlier.session.phase.verdict? = some verdict →
        m.session.phase.verdict? = some verdict := by
  induction plays with
  | start => exact ⟨_, .start, (Nat.le_zero.mp hn).symm, fun _ h => h⟩
  | @move mover actions m m' plays moves ih =>
    by_cases hlast : n = m'.steps
    · exact ⟨m', plays.move moves, hlast.symm, fun _ h => h⟩
    · have hle : n ≤ m.steps := by
        cases moves with
        | operation => exact Nat.le_of_lt_succ (Nat.lt_of_le_of_ne hn hlast)
        | other | cancel | rest => exact hn
      obtain ⟨earlier, hearlier, hsteps, hverdict⟩ := ih hle
      exact ⟨earlier, hearlier, hsteps, fun verdict h => moves.verdict?_eq (hverdict verdict h)⟩

/-- What one run has decided after some steps, every run by the script has decided after as many. -/
theorem Plays.verdict?_of_steps_le (hstart : (Moment.first start).Abreast (.first start'))
    (plays : script.Plays start m) (plays' : script.Plays start' m') {verdict : Verdict}
    (h : m.session.phase.verdict? = some verdict) (hsteps : m.steps ≤ m'.steps) :
    m'.session.phase.verdict? = some verdict := by
  obtain ⟨earlier, hearlier, hcount, hkept⟩ := plays'.exists_earlier hsteps
  obtain ⟨-, ⟨other, hother, hsame⟩ | ⟨halike, -⟩⟩ := plays.abreast hstart hearlier hcount.symm
  · refine hkept verdict ?_
    rw [hsame, ← hother, h]
  -- phases that are alike have no verdict yet
  · rw [halike.verdict?_eq_none.1] at h
    cases h

/-- **One verdict.** Two runs by one script never come to different verdicts. -/
theorem Plays.verdict_unique (hstart : (Moment.first start).Abreast (.first start'))
    (plays : script.Plays start m) (plays' : script.Plays start' m') {verdict verdict' : Verdict}
    (h : m.session.phase.verdict? = some verdict)
    (h' : m'.session.phase.verdict? = some verdict') : verdict = verdict' := by
  rcases Nat.le_total m.steps m'.steps with hle | hle
  · exact Option.some.inj ((plays.verdict?_of_steps_le hstart plays' h hle).symm.trans h')
  · exact Option.some.inj (h.symm.trans (plays'.verdict?_of_steps_le hstart.symm plays h' hle))

end Script

end StackDeploy
