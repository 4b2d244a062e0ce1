import StackDeploy.Proofs.Deployment.Dating
import StackDeploy.Proofs.Deployment.Prompt
import StackDeploy.Proofs.Stack.Status

/-!
# The first decisive status

A reply of the service **decides** if it shows the stack in a terminal status, or does not show it.
When replies take no time and pauses end when they should, the looks at the stack come at the
beginning of the watch and at every multiple of its interval after that, up to the deadline. So the
first reply that decides is the one that the deployment reports, if it comes in time, and no look is
taken after it; otherwise the deployment fails because the time is up.

* `Watch.OnSchedule` — when the looks of a watch are due; `OnSchedule.step` is the step lemma.
* `Script.Plays.looks_eq` — what a deployment hears are the replies of its script, one after the
  other.
* `Moment.OnTime` — a deployment is on schedule; `OnTime.operation` and `OnTime.aside` are the step
  lemmas.
* `Session.reports_first_decisive` — what a deployment reports.
-/

namespace StackDeploy

open Text

/-! ### Replies that decide -/

namespace Watch

/-- A reply **decides** if it shows a terminal status or is an error. -/
def IsDecisive : Except ApiError Stack → Prop
  | .ok shown => shown.status.isTerminal = true
  | .error _ => True

instance : DecidablePred IsDecisive
  | .ok shown => inferInstanceAs (Decidable (shown.status.isTerminal = true))
  | .error _ => .isTrue trivial

/-- The **first** of the replies that decides. -/
structure IsFirstDecisive (replies : Nat → Except ApiError Stack) (k : Nat) : Prop where
  isDecisive : IsDecisive (replies k)
  earlier : ∀ j < k, ¬ IsDecisive (replies j)

theorem isDecisive_iff {reply : Except ApiError Stack} :
    IsDecisive reply ↔ verdict? reply ≠ none := by
  rw [Ne, verdict?_eq_none, IsPending]
  cases reply with
  | ok shown => simp [IsDecisive]
  | error cause => simp [IsDecisive]

theorem IsFirstDecisive.unique {replies : Nat → Except ApiError Stack} {j k : Nat}
    (hj : IsFirstDecisive replies j) (hk : IsFirstDecisive replies k) : j = k := by
  rcases Nat.lt_trichotomy j k with hlt | heq | hgt
  · exact absurd hj.isDecisive (hk.earlier j hlt)
  · exact heq
  · exact absurd hk.isDecisive (hj.earlier k hgt)

end Watch

/-- The outcomes of a deployment that **convey** a reply that decides. -/
inductive Conveys (stack : String) : Except ApiError Stack → Outcome → Prop
  | deployed {shown : Stack} (h : shown.status.isSuccess = true) (tree : ProgressTree)
      (streamError : Option String) :
      Conveys stack (.ok shown) (.deployed shown.status tree streamError)
  /-- The stack has failed, with or without an event that explains it. -/
  | failed {shown : Stack} {e : DeployError} (h : shown.status.isFailure = true)
      (he : e.withoutCause = .stackFailedWithoutCause stack shown.status) :
      Conveys stack (.ok shown) (.failed e)
  | vanished (subject : String) :
      Conveys stack (.error (.notFound subject)) (.failed (.stackVanished stack))
  | unanswered {cause : ApiError} (h : ∀ subject, cause ≠ .notFound subject) :
      Conveys stack (.error cause) (.failed (.api .describeStack stack cause))

/-! ### The schedule of a watch -/

namespace Watch

/-- A watch that came to its end after so many looks: the last one came in time, and if the time is
up the next one would not have. -/
def Settled (interval timeout count : Nat) (watched : Watched) : Prop :=
  ∃ earlier, count = earlier + 1 ∧ earlier * interval ≤ timeout ∧
    (watched = .timedOut → timeout < count * interval)

/-- A watch is **on schedule** after so many looks: its looks come one interval after the other from
its beginning on, and not after its deadline. -/
def OnSchedule (now count : Nat) (w : Watch) : Prop :=
  match w.phase with
  | .waiting => count = 0
  | .asking deadline => ∃ began, deadline = began + w.timeout ∧
      now = began + count * w.interval ∧ count * w.interval ≤ w.timeout
  | .heard deadline _ => ∃ began earlier, count = earlier + 1 ∧ deadline = began + w.timeout ∧
      now = began + earlier * w.interval ∧ earlier * w.interval ≤ w.timeout
  | .pausing deadline wake => ∃ began earlier, count = earlier + 1 ∧
      deadline = began + w.timeout ∧ wake = began + count * w.interval ∧
      earlier * w.interval ≤ w.timeout
  | .over watched => Settled w.interval w.timeout count watched

variable {clock : Clock} {w w' : Watch} {actions : List Action} {before count : Nat}

/-- **Step lemma.** A watch that takes its steps promptly stays on schedule. -/
theorem OnSchedule.step (h : w.OnSchedule before count) (hinterval : 0 < w.interval)
    (hprompt : w.Prompt before clock.timer) (leads : (w.step clock).Leads clock actions w') :
    w'.interval = w.interval ∧ w'.timeout = w.timeout ∧
      w'.OnSchedule clock.timer (count + asked .describeStack actions) := by
  rw [OnSchedule] at h
  rw [Prompt] at hprompt
  cases steps_of_leads leads with
  | begin hphase =>
    rw [hphase] at h
    refine ⟨rfl, rfl, clock.timer, rfl, ?_⟩
    simp [h, asked]
  | ask hphase reply =>
    simp only [hphase] at h hprompt
    obtain ⟨began, hdeadline, hnow, hcount⟩ := h
    exact ⟨rfl, rfl, began, count, rfl, hdeadline, hprompt.trans hnow, hcount⟩
  | pause hphase =>
    simp only [hphase] at h hprompt
    obtain ⟨began, earlier, rfl, hdeadline, hnow, hcount⟩ := h
    refine ⟨rfl, rfl, began, earlier, rfl, hdeadline, ?_, hcount⟩
    change clock.timer + max 1 w.interval = began + (earlier + 1) * w.interval
    rw [hprompt, hnow, Nat.max_eq_right hinterval, Nat.succ_mul, Nat.add_assoc]
  | settle hphase hverdict =>
    simp only [hphase] at h
    obtain ⟨began, earlier, rfl, -, -, hcount⟩ := h
    refine ⟨rfl, rfl, earlier, rfl, hcount, ?_⟩
    rintro rfl
    exact absurd hverdict verdict?_ne_timedOut
  | wake hphase hdue =>
    simp only [hphase] at h hprompt
    obtain ⟨began, earlier, rfl, hdeadline, hwake, -⟩ := h
    refine ⟨rfl, rfl, began, hdeadline, ?_⟩
    change clock.timer = began + (earlier + 1) * w.interval ∧
      (earlier + 1) * w.interval ≤ w.timeout
    omega
  | timeOut hphase hdue hlate =>
    simp only [hphase] at h hprompt
    obtain ⟨began, earlier, rfl, hdeadline, hwake, hcount⟩ := h
    refine ⟨rfl, rfl, earlier, rfl, hcount, fun _ => ?_⟩
    change w.timeout < (earlier + 1) * w.interval
    omega
  | sleep hphase hdue hlate =>
    -- nobody wakes the watch before its time
    simp only [hphase] at hprompt
    omega

end Watch

/-! ### What a deployment hears -/

/-- The replies that a script holds for so many looks. -/
def Script.heard (script : Script) (count : Nat) : List (Except ApiError Stack) :=
  (List.range count).map script.watched

theorem Script.heard_succ (script : Script) (count : Nat) :
    script.heard (count + 1) = script.heard count ++ [script.watched count] := by
  rw [heard, heard, List.range_succ, List.map_append, List.map_singleton]

theorem Script.mem_heard {script : Script} {count : Nat} {reply : Except ApiError Stack} :
    reply ∈ script.heard count ↔ ∃ k < count, script.watched k = reply := by
  simp [heard]

namespace Session

variable {s t : Session} {clock : Clock} {stack : String} {trace actions : List Action}

/-- A deployment describes no stack but the one that it watches. -/
theorem Attends.describes (h : s.Attends .deployment stack trace)
    (steps : s.Steps clock actions t) :
    (∃ reply, SetOff trace ∧ actions = [.call (.describeStack stack) reply]) ∨
      ∀ a ∈ actions, a.operation? ≠ some .describeStack := by
  cases steps with
  | submit | submitUpdate | reviewed | announce | execute | date | delete | watched | stopped
  | read | explain | follow => exact .inr (by simp [Action.operation?, Request.operation])
  | review hphase leads =>
    refine .inr fun a ha => ?_
    obtain ⟨_, _, _, rfl⟩ := Review.describes_of_leads leads a ha
    simp [Action.operation?, Request.operation]
  | look hphase =>
    simp only [Attends, hphase, Phase.goal] at h
    cases h.2.1
  | watch hphase leads =>
    simp only [Attends, hphase] at h
    obtain ⟨-, -, rfl, -, hoff, -⟩ := h
    cases Watch.steps_of_leads leads with
    | ask _ reply => exact .inl ⟨reply, hoff, rfl⟩
    | begin | pause | settle | wake | timeOut | sleep => exact .inr (by simp)

end Session

variable {script : Script} {start : Session} {stack : String}

/-- **What a deployment hears** are the replies of its script, one after the other. -/
theorem Script.Plays.looks_eq {m : Moment} (plays : script.Plays start m)
    (hstart : start.Attends .deployment stack []) :
    looks stack m.trace = script.heard (asked .describeStack m.trace) := by
  -- everything else that anybody does is no look
  have aside {trace actions : List Action} (h : ∀ a ∈ actions, a.operation? ≠ some .describeStack)
      (hlooks : looks stack trace = script.heard (asked .describeStack trace)) :
      looks stack (trace ++ actions) = script.heard (asked .describeStack (trace ++ actions)) := by
    rw [looks_append_of_none fun a ha => Action.look?_eq_none (h a ha) stack, hlooks, asked_append,
      asked_eq_zero h, Nat.add_zero]
  induction plays with
  | start => rfl
  | @move mover actions m m' plays moves ih =>
    cases moves with
    | operation leads given =>
      obtain ⟨reply, hoff, rfl⟩ | hother :=
        (hstart.runs plays.runs).describes (Session.steps_of_leads leads)
      · have hreply : reply = script.watched (asked .describeStack m.trace) :=
          given _ (List.mem_singleton_self _) _ rfl
        have hlook : [Action.call (.describeStack stack) reply].filterMap (Action.look? stack) =
            [reply] := by simp [Action.look?]
        rw [looks_append hoff, ih, hlook, asked_append, hreply]
        exact (script.heard_succ _).symm
      · exact aside hother ih
    | other hactor leads =>
      obtain ⟨_, _, -, -, hprogress⟩ := Session.progress_of_leads hactor leads
      refine aside (fun a ha hasked => ?_) ih
      have hcount := askedAlike_nil_of_isProgress hprogress .describeStack (.inr (.inr (.inr rfl)))
      exact absurd hasked (by simpa using List.countP_eq_zero.mp hcount a ha)
    | cancel | rest => exact ih

/-! ### Deployments on schedule -/

/-- A deployment is **on time**: its watch is on schedule, and what the watch has concluded was
heard in time. -/
structure Moment.OnTime (script : Script) (timing : DeploySettings) (m : Moment) : Prop where
  watching : ∀ target w, m.session.phase = .watching target w →
    w.interval = timing.statusInterval ∧ w.timeout = timing.timeout ∧
      w.OnSchedule (script.clock (m.steps - 1)).timer (asked .describeStack m.trace)
  ending : m.session.phase.IsEnding → SetOff m.trace → ∀ watched,
    Watch.Concludes (script.heard (asked .describeStack m.trace)) watched →
      Watch.Settled timing.statusInterval timing.timeout (asked .describeStack m.trace) watched

namespace Moment

variable {timing : DeploySettings} {m m' : Moment} {mover : Option Actor} {actions : List Action}

/-- Nothing is due before a change is set off. -/
theorem onTime_of_quiet (hattends : m.session.Attends .deployment stack m.trace)
    (hquiet : Quiet m.trace) : m.OnTime script timing where
  watching := by
    intro target w hphase
    simp only [Session.Attends, hphase] at hattends
    obtain ⟨-, -, -, -, hoff, -⟩ := hattends
    exact absurd hquiet hoff.not_quiet
  ending := fun _ hoff => absurd hquiet hoff.not_quiet

/-- What was heard in time stays so if nothing more is heard. -/
theorem OnTime.of_ending (h : m.OnTime script timing) (hending : m.session.phase.IsEnding)
    (hending' : m'.session.phase.IsEnding)
    (hasked : asked .describeStack m'.trace = asked .describeStack m.trace)
    (hoff : SetOff m'.trace → SetOff m.trace) : m'.OnTime script timing where
  watching := by
    intro target w hphase
    exact absurd (hphase ▸ hending') Session.Phase.not_isEnding_watching
  ending := fun _ hset => hasked ▸ h.ending hending (hoff hset)

/-- What the other actors do takes no time of the operation. -/
theorem OnTime.aside (h : m.OnTime script timing) (moves : script.Moves mover actions m m')
    (hmover : mover ≠ some .operation) : m'.OnTime script timing := by
  obtain ⟨hsteps, hphase, -, halike⟩ := moves.aside hmover
  have hasked := halike .describeStack (.inr (.inr (.inr rfl)))
  have hoff : SetOff m'.trace → SetOff m.trace := by
    cases moves with
    | operation => exact absurd rfl hmover
    | other hactor leads =>
      obtain ⟨_, _, -, -, hprogress⟩ := Session.progress_of_leads hactor leads
      exact fun hset => hset.of_append fun a ha =>
        Action.setsOff_eq_false_of_isProgress (hprogress a ha)
    | cancel | rest => exact id
  refine ⟨fun target w hwatching => ?_, fun hending hset => ?_⟩
  · rw [hsteps, hasked]
    exact h.watching target w (hphase ▸ hwatching)
  · rw [hasked]
    exact h.ending (hphase ▸ hending) (hoff hset)

theorem onTime_of_watching (target : Target) {w : Watch}
    (hphase : m.session.phase = .watching target w) (hinterval : w.interval = timing.statusInterval)
    (htimeout : w.timeout = timing.timeout)
    (hschedule : w.OnSchedule (script.clock (m.steps - 1)).timer (asked .describeStack m.trace)) :
    m.OnTime script timing where
  watching := by
    intro _ _ hwatching
    cases hphase.symm.trans hwatching
    exact ⟨hinterval, htimeout, hschedule⟩
  ending := by
    intro hending
    exact absurd (hphase ▸ hending) Session.Phase.not_isEnding_watching

/-- A change that is set off is watched from then on. -/
theorem onTime_executed {target : Target} {controller : Controller} {ref : ChangeSetRef}
    {reply : Reply (.executeChangeSet controller.stack ref.id)} (hquiet : Quiet m.trace)
    (hnone : asked .describeStack m.trace = 0)
    (hattends : Session.Attends .deployment stack
      (m.trace ++ [.call (.executeChangeSet controller.stack ref.id) reply])
      (m.session.executed target controller ref reply)) :
    OnTime script m.session.settings.deploy
      ⟨m.steps + 1, m.trace ++ [.call (.executeChangeSet controller.stack ref.id) reply],
        m.session.executed target controller ref reply⟩ := by
  cases reply with
  | error cause => exact onTime_of_quiet hattends (hquiet.append_singleton rfl)
  | ok =>
    refine onTime_of_watching target rfl rfl rfl ?_
    change asked .describeStack (m.trace ++ _) = 0
    rw [asked_append, hnone]
    rfl

/-- What the watch has concluded was heard in time. -/
theorem OnTime.watched {target : Target} {w : Watch} {watched : Watched}
    (h : m.OnTime script timing) (hattends : m.session.Attends .deployment stack m.trace)
    (hlooks : looks stack m.trace = script.heard (asked .describeStack m.trace))
    (hphase : m.session.phase = .watching target w) (hover : w.phase = .over watched) :
    OnTime script timing ⟨m.steps + 1, m.trace, m.session.watched target watched⟩ := by
  obtain ⟨hinterval, htimeout, hschedule⟩ := h.watching target w hphase
  simp only [Session.Attends, hphase] at hattends
  obtain ⟨-, -, -, -, -, hheeds⟩ := hattends
  rw [Watch.OnSchedule, hover, hinterval, htimeout] at hschedule
  rw [Watch.Heeds, hover, hlooks] at hheeds
  rw [Session.watched_eq_stop]
  refine ⟨?_, fun _ _ other hother => ?_⟩
  · rintro _ _ ⟨⟩
  · obtain rfl := hheeds.unique hother
    exact hschedule

/-- The operation stays on time. -/
theorem OnTime.operation {t : Session} (h : m.OnTime script m.session.settings.deploy)
    (hattends : m.session.Attends .deployment stack m.trace)
    (hlooks : looks stack m.trace = script.heard (asked .describeStack m.trace))
    (hinterval : 0 < m.session.settings.deploy.statusInterval) (hprompt : m.Prompt script)
    (leads : (m.session.step (script.clock m.steps) .operation).Leads (script.clock m.steps)
      actions t) :
    OnTime script m.session.settings.deploy ⟨m.steps + 1, m.trace ++ actions, t⟩ := by
  have hattends' : t.Attends .deployment stack (m.trace ++ actions) := hattends.operation leads
  have hending (h : m.session.phase.IsEnding) : t.phase.IsEnding :=
    (Session.operationGoes_of_leads leads).isEnding h
  have hnone (hquiet : Quiet m.trace) : asked .describeStack m.trace = 0 := by
    rw [looks_eq_nil_of_quiet hquiet] at hlooks
    simpa [Script.heard] using hlooks.symm
  -- nothing is due before the execution, the watch keeps its schedule, and what follows only waits
  cases Session.steps_of_leads leads with
  | submit hphase | submitUpdate hphase | announce hphase =>
    simp only [Session.Attends, hphase] at hattends
    exact onTime_of_quiet hattends' (hattends.1.append_singleton rfl)
  | review hphase hstep =>
    simp only [Session.Attends, hphase] at hattends
    refine onTime_of_quiet hattends' (hattends.1.append fun a ha => ?_)
    obtain ⟨_, _, _, rfl⟩ := Review.describes_of_leads hstep a ha
    rfl
  | reviewed hphase =>
    simp only [Session.Attends, hphase] at hattends
    exact onTime_of_quiet hattends' (hattends.1.append quiet_nil)
  | execute hphase =>
    simp only [Session.Attends, hphase] at hattends
    exact onTime_executed hattends.1 (hnone hattends.1) hattends'
  | watch hphase hstep =>
    obtain ⟨hinterval', htimeout', hschedule⟩ := h.watching _ _ hphase
    obtain ⟨hsame, hsame', hschedule'⟩ := hschedule.step (hinterval'.symm ▸ hinterval)
      (hprompt _ _ hphase) hstep
    refine onTime_of_watching _ rfl (hsame.trans hinterval') (hsame'.trans htimeout') ?_
    rwa [← asked_append] at hschedule'
  | watched hphase hover =>
    rw [List.append_nil]
    exact h.watched hattends hlooks hphase hover
  | stopped hphase =>
    have hbefore : m.session.phase.IsEnding := .inl (congrArg Session.Phase.stage hphase)
    rw [List.append_nil]
    exact h.of_ending hbefore (hending hbefore) rfl id
  | explain hphase =>
    have hbefore : m.session.phase.IsEnding := .inr (.inl (congrArg Session.Phase.stage hphase))
    rw [List.append_nil]
    exact h.of_ending hbefore (hending hbefore) rfl id
  | read hphase reply =>
    have hbefore : m.session.phase.IsEnding := .inr (.inl (congrArg Session.Phase.stage hphase))
    exact h.of_ending hbefore (hending hbefore) (asked_append _ _ _)
      fun hoff => hoff.of_append (quiet_nil.append_singleton rfl)
  | look hphase | date hphase | delete hphase =>
    simp only [Session.Attends, hphase] at hattends
    cases hattends.2.1
  | follow hphase => simp only [Session.Attends, hphase] at hattends

end Moment

/-- **Run lemma.** A prompt deployment is always on time. -/
theorem Play.Prompt.onTime {play : Play script start} (hprompt : play.Prompt)
    (hstart : start.Attends .deployment stack [])
    (hinterval : 0 < start.settings.deploy.statusInterval) (k : Nat) :
    (play.moment k).OnTime script start.settings.deploy := by
  induction k with
  | zero =>
    rw [play.begins]
    exact Moment.onTime_of_quiet hstart quiet_nil
  | succ k ih =>
    have hmoves := play.moves k
    by_cases hmover : play.mover k = some .operation
    · have hlooks := (play.plays k).looks_eq hstart
      have hattends := play.attends hstart k
      have hprompt := hprompt.prompt k
      rw [← (play.plays k).runs.settings_eq] at ih hinterval ⊢
      rw [hmover] at hmoves
      generalize play.moment (k + 1) = next at hmoves
      cases hmoves with
      | operation leads => exact ih.operation hattends hlooks hinterval hprompt leads
      | other hactor => exact absurd rfl hactor
    · exact ih.aside hmoves hmover

/-! ### What is reported -/

/-- A watch that has settled was decided by the first reply that decides, if that came in time. -/
theorem Watch.Settled.decided_or_timedOut {interval timeout count : Nat} {watched : Watched}
    (h : Watch.Settled interval timeout count watched)
    (hconcludes : Watch.Concludes (script.heard count) watched) :
    (∃ k, Watch.IsFirstDecisive script.watched k ∧ k * interval ≤ timeout ∧ count = k + 1 ∧
      Watch.verdict? (script.watched k) = some watched) ∨
    (watched = .timedOut ∧
      ∀ k, Watch.IsFirstDecisive script.watched k → timeout < k * interval) := by
  obtain ⟨k, rfl, hintime, hlate⟩ := h
  generalize hheard : script.heard (k + 1) = heard at hconcludes
  cases hconcludes with
  | @decided earlier reply _ hearlier hreply =>
    rw [script.heard_succ] at hheard
    obtain ⟨rfl, hlast⟩ := List.append_inj' hheard rfl
    obtain rfl := List.singleton_inj.mp hlast
    refine .inl ⟨k, ⟨?_, fun j hj => ?_⟩, hintime, rfl, hreply⟩
    · rw [Watch.isDecisive_iff, hreply]
      exact Option.some_ne_none _
    · rw [Watch.isDecisive_iff, not_not]
      exact hearlier _ (Script.mem_heard.mpr ⟨j, hj, rfl⟩)
  | timedOut hundecided =>
    subst hheard
    refine .inr ⟨rfl, fun j hj => Nat.lt_of_lt_of_le (hlate rfl) (Nat.mul_le_mul_right _ ?_)⟩
    by_contra hbefore
    have hnone := hundecided _ (Script.mem_heard.mpr ⟨j, Nat.lt_of_not_le hbefore, rfl⟩)
    exact Watch.isDecisive_iff.mp hj.isDecisive hnone

/-- What answers the conclusion from a reply conveys that reply. -/
theorem Goal.Answers.conveys {timeout : Nat} {watched : Watched} {outcome : Outcome}
    {reply : Except ApiError Stack} (h : Goal.deployment.Answers stack timeout watched outcome)
    (hverdict : Watch.verdict? reply = some watched)
    (hkey : ∀ e key status, outcome = .failed e →
      e.withoutCause = .stackFailedWithoutCause key status → key = stack) :
    Conveys stack reply outcome := by
  cases h with
  | deployed hsuccess tree streamError =>
    obtain ⟨rfl, -⟩ := Watch.verdict?_eq_terminal.mp hverdict
    exact .deployed hsuccess tree streamError
  | failed hmissed he =>
    obtain ⟨rfl, hterminal⟩ := Watch.verdict?_eq_terminal.mp hverdict
    obtain rfl := hkey _ _ _ rfl he
    refine .failed ?_ he
    rw [StackStatus.isFailure_eq hterminal, Bool.not_eq_true']
    exact hmissed
  | vanished =>
    obtain ⟨subject, rfl⟩ := Watch.verdict?_eq_gone.mp hverdict
    exact .vanished subject
  | unanswered goal cause =>
    obtain ⟨rfl, hcause⟩ := Watch.verdict?_eq_failed hverdict
    exact .unanswered hcause
  | timedOut => exact absurd hverdict Watch.verdict?_ne_timedOut

namespace Session

/-- **The first decisive status.** In a prompt run of a deployment whose change set the service has
agreed to execute,

* if the first reply that decides comes in time, the stack is described until then and not again,
  and the outcome conveys that reply, unless it shows the stack deleted;
* if it does not come in time, or no reply decides, the deployment fails because the time is up;
* a fair run comes to an outcome, if histories are finite.

A status that is not listed decides if and only if it ends like that of a failed or a completed
operation. -/
theorem reports_first_decisive (settings : SessionSettings) (request : DeployRequest)
    (rendered : Except String String) (name updateName : String) (script : Script)
    (play : Play script (deploy settings request rendered name updateName))
    (hinterval : 0 < settings.deploy.statusInterval) (hprompt : play.Prompt) :
    (∀ n outcome, SetOff (play.moment n).trace → (play.moment n).session.phase = .over outcome →
      (∀ k, Watch.IsFirstDecisive script.watched k →
        k * settings.deploy.statusInterval ≤ settings.deploy.timeout →
          asked .describeStack (play.moment n).trace = k + 1 ∧
          looks request.stack (play.moment n).trace = script.heard (k + 1) ∧
          ((∀ shown, script.watched k = .ok shown → shown.status ≠ .deleteComplete) →
            Conveys request.stack (script.watched k) outcome)) ∧
      ((∀ k, Watch.IsFirstDecisive script.watched k →
          settings.deploy.timeout < k * settings.deploy.statusInterval) →
        outcome = .failed (.timeout request.stack (settings.deploy.timeout / 1000)))) ∧
    (play.Fair → play.FiniteHistories → ∀ n, SetOff (play.moment n).trace →
      ∃ j outcome, n ≤ j ∧ (play.moment j).session.phase = .over outcome) ∧
    ∀ (shown : Stack) text, shown.status = .other text →
      (Watch.IsDecisive (.ok shown) ↔ endsIn text "_FAILED" ∨ endsIn text "_COMPLETE") := by
  have hstart := attends_deploy settings request rendered name updateName
  have hontime (n : Nat) : (play.moment n).OnTime script settings.deploy :=
    hprompt.onTime hstart hinterval n
  refine ⟨fun n outcome hoff hover => ?_, fun hfair hfinite n hoff => ?_,
    fun shown text hshown => ?_⟩
  · have run := (play.plays n).runs
    have hlooks := (play.plays n).looks_eq hstart
    obtain ⟨watched, hconcludes, hanswers⟩ := (hstart.runs run).answers hoff hover
    rw [run.settings_eq] at hanswers
    rw [hlooks] at hconcludes
    have hsettled := (hontime n).ending (hover ▸ .inr (.inr rfl)) hoff watched hconcludes
    obtain ⟨k, hfirst, hintime, hcount, hverdict⟩ | ⟨rfl, hlate⟩ :=
      hsettled.decided_or_timedOut hconcludes
    · refine ⟨fun j hj _ => ?_, fun hlate => absurd (hlate k hfirst) (Nat.not_lt.mpr hintime)⟩
      obtain rfl := hfirst.unique hj
      refine ⟨hcount, hcount ▸ hlooks, fun _ => hanswers.conveys hverdict ?_⟩
      rintro e key status rfl he
      exact (exists_reading run hover he).1
    · refine ⟨fun j hj hintime => absurd (hlate j hj) (Nat.not_lt.mpr hintime), fun _ => ?_⟩
      cases hanswers
      rfl
  · exact play.exists_over_of_setOff (staged_deploy _ _ _ _ _) hstart hfair hfinite
      hprompt.punctual hoff
  · rw [Watch.IsDecisive, hshown, StackStatus.isTerminal_other, Bool.or_eq_true]

end Session

/-! ### A queue that takes a while -/

/-- The queue is still being created when the stack is looked at first, and then it is there. -/
def creatingQueue (k : Nat) : Except ApiError Stack :=
  .ok (.named "demo" (if k = 0 then .createInProgress else .createComplete))

/-- Only two seconds are left for the deployment. -/
def hurried : DeploySettings :=
  { DeploySettings.default with timeout := 2000 }

theorem isFirstDecisive_creatingQueue : Watch.IsFirstDecisive creatingQueue 1 := by
  refine ⟨by decide, fun j hj => ?_⟩
  obtain rfl : j = 0 := Nat.lt_one_iff.mp hj
  decide

/-- The second look comes after five seconds and decides, if so much time is left; otherwise the
time is up before. -/
theorem queueDeploymentWith_reports :
    (∃ play : Play (promptScript .default creatingQueue) (queueDeploymentWith .default),
      play.Prompt ∧ play.Fair ∧ play.FiniteHistories ∧ ∃ n outcome,
        SetOff (play.moment n).trace ∧ (play.moment n).session.phase = .over outcome ∧
        asked .describeStack (play.moment n).trace = 2 ∧
        looks "demo" (play.moment n).trace =
          [.ok (.named "demo" .createInProgress), .ok (.named "demo" .createComplete)] ∧
        Conveys "demo" (.ok (.named "demo" .createComplete)) outcome ∧
        ∃ j outcome', n ≤ j ∧ (play.moment j).session.phase = .over outcome') ∧
    (∃ play : Play (promptScript hurried creatingQueue) (queueDeploymentWith hurried),
      play.Prompt ∧ ∃ n, SetOff (play.moment n).trace ∧
        (play.moment n).session.phase = .over (.failed (.timeout "demo" 2))) ∧
    ¬ Watch.IsDecisive (.ok (.named "demo" (.other "IMPORT_ROLLBACK_IN_PROGRESS"))) := by
  refine ⟨?_, ?_, ?_⟩
  · obtain ⟨play, hprompt, hfair, hfinite, n, outcome, hoff, hover⟩ :=
      exists_prompt_play .default creatingQueue (by decide)
    obtain ⟨hreports, hends, -⟩ :=
      Session.reports_first_decisive _ _ _ _ _ _ play (by decide) hprompt
    obtain ⟨hasked, hlooks, hreport⟩ := (hreports n outcome hoff hover).1 1
      isFirstDecisive_creatingQueue (by decide)
    refine ⟨play, hprompt, hfair, hfinite, n, outcome, hoff, hover, hasked, hlooks, hreport ?_,
      hends hfair hfinite n hoff⟩
    rintro shown ⟨⟩
    decide
  · obtain ⟨play, hprompt, -, -, n, outcome, hoff, hover⟩ :=
      exists_prompt_play hurried creatingQueue (by decide)
    obtain ⟨hreports, -⟩ := Session.reports_first_decisive _ _ _ _ _ _ play (by decide) hprompt
    obtain rfl := (hreports n outcome hoff hover).2 fun k hk => by
      obtain rfl := hk.unique isFirstDecisive_creatingQueue
      decide
    exact ⟨play, hprompt, n, hoff, hover⟩
  · obtain ⟨play, hprompt, -⟩ := exists_prompt_play .default creatingQueue (by decide)
    obtain ⟨-, -, hunlisted⟩ :=
      Session.reports_first_decisive _ _ _ _ _ _ play (by decide) hprompt
    rw [hunlisted _ "IMPORT_ROLLBACK_IN_PROGRESS" rfl]
    decide

end StackDeploy
