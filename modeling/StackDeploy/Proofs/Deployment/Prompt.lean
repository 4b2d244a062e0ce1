import StackDeploy.Proofs.Deployment.Vanishing

/-!
# Prompt runs

In virtual time replies take no time and every pause ends when it should. A run in which the watch
takes its steps like that is **prompt**; it is punctual as well. There is one for every timing and
for all replies that the looks at the stack may have.

* `Play.Prompt` — prompt runs.
* `Play.Prompt.punctual` — they are punctual.
* `exists_prompt_play` — there are some.
-/

namespace StackDeploy

/-- The watch takes its next step **promptly**: replies take no time, and a pause ends when the next
look is due, or at the deadline if that comes first. -/
def Watch.Prompt (before now : Nat) (w : Watch) : Prop :=
  match w.phase with
  | .asking _ | .heard _ _ => now = before
  | .pausing deadline wake => now = min deadline wake
  | .waiting | .over _ => True

/-- The next step of the operation's watch is taken promptly. -/
def Moment.Prompt (script : Script) (m : Moment) : Prop :=
  ∀ target w, m.session.phase = .watching target w →
    w.Prompt (script.clock (m.steps - 1)).timer (script.clock m.steps).timer

/-- A **prompt** run. -/
structure Play.Prompt {script : Script} {start : Session} (play : Play script start) : Prop where
  onward : Monotone fun n => (script.clock n).timer
  prompt : ∀ k, (play.moment k).Prompt script

/-- A prompt run is punctual. -/
theorem Play.Prompt.punctual {script : Script} {start : Session} {play : Play script start}
    (h : play.Prompt) : play.Punctual where
  onward := h.onward
  inTime := by
    intro k target w hphase deadline wake hpausing
    have hprompt := h.prompt k target w hphase
    simp only [Watch.Prompt, hpausing] at hprompt
    omega

/-! ### There are prompt runs -/

variable (timing : DeploySettings) (replies : Nat → Except ApiError Stack)

/-- The script of a deployment that adds a queue and hears these replies whenever it looks at the
stack. Step 7 begins the watch, and the three steps from 3 k + 8 on belong to look k. -/
def promptScript : Script :=
  { queueScript with
    clock := fun n => ⟨min timing.timeout ((n - 7) / 3 * timing.statusInterval), 0, .epoch⟩
    watched := replies }

/-- The deployment of the queue with some timing. -/
def queueDeploymentWith : Session :=
  .deploy ⟨timing, ⟨false, false⟩, false⟩ ⟨"demo", "app.yml", [], [], [], .create⟩
    (.ok "Resources: {}") "queue" "queue-update"

/-- The deployment of the queue while its stack is watched. -/
def queueWatch (phase : Watch.Phase) : Session where
  settings := ⟨timing, ⟨false, false⟩, false⟩
  phase := .watching queueTarget ⟨"demo", timing.statusInterval, timing.timeout, phase⟩
  progress := some
    (Session.freshProgress ⟨timing, ⟨false, false⟩, false⟩ "demo" "demo" .epoch)

/-- The watch comes to a phase after so many steps of the operation and so many looks, promptly. -/
def ComesTo (steps count : Nat) (phase : Watch.Phase) : Prop :=
  ∃ trace, (promptScript timing replies).PlaysWithin (queueDeploymentWith timing)
    (Moment.Prompt (promptScript timing replies)) ⟨steps, trace, queueWatch timing phase⟩ ∧
    SetOff trace ∧ asked .describeStack trace = count

variable {timing replies}

/-- The watch begins. -/
theorem comesTo_waiting : ComesTo timing replies 7 0 .waiting := by
  have begun : (promptScript timing replies).PlaysWithin (queueDeploymentWith timing)
      (Moment.Prompt (promptScript timing replies)) (.first (queueDeploymentWith timing)) :=
    .start (by rintro _ _ ⟨⟩)
  have submitted := begun.operation
    (.call _ _ (.ok (⟨"queue", "demo"⟩ : ChangeSetRef))) (Script.gives_call rfl) (by rintro _ _ ⟨⟩)
  have asking := submitted.operation (.goOn _) (by simp) (by rintro _ _ ⟨⟩)
  have described := asking.operation (.call _ _ (.ok queueChangeSet)) (Script.gives_call rfl)
    (by rintro _ _ ⟨⟩)
  have judged := described.operation (.goOn _) (by simp) (by rintro _ _ ⟨⟩)
  have reviewed := judged.operation (.goOn _) (by simp) (by rintro _ _ ⟨⟩)
  have written := reviewed.operation (.write _ _ (.ok ())) (by simp [Script.Gives])
    (by rintro _ _ ⟨⟩)
  have executed := written.operation (.call _ _ (.ok ())) (Script.gives_call rfl)
    (by rintro _ _ ⟨⟩; trivial)
  exact ⟨_, executed, ⟨_, List.mem_append_right _ (List.mem_singleton_self _), rfl⟩, rfl⟩

/-- The watch takes a step. -/
theorem ComesTo.step {steps count : Nat} {phase phase' : Watch.Phase} {actions : List Action}
    (h : ComesTo timing replies steps count phase)
    (leads : (Watch.step ((promptScript timing replies).clock steps)
      ⟨"demo", timing.statusInterval, timing.timeout, phase⟩).Leads
      ((promptScript timing replies).clock steps) actions
      ⟨"demo", timing.statusInterval, timing.timeout, phase'⟩)
    (given : ∀ trace, asked .describeStack trace = count →
      ∀ a ∈ actions, (promptScript timing replies).Gives trace a)
    (hprompt : Watch.Prompt ((promptScript timing replies).clock steps).timer
      ((promptScript timing replies).clock (steps + 1)).timer
      ⟨"demo", timing.statusInterval, timing.timeout, phase'⟩) :
    ComesTo timing replies (steps + 1) (count + asked .describeStack actions) phase' := by
  obtain ⟨trace, plays, hoff, rfl⟩ := h
  have leads' : ((queueWatch timing phase).step ((promptScript timing replies).clock steps)
      .operation).Leads ((promptScript timing replies).clock steps) actions
      (queueWatch timing phase') := by
    rw [Session.step, Session.operationStep, queueWatch]
    exact leads.embed _ _
  refine ⟨_, plays.operation leads' (given trace rfl) ?_, hoff.append actions, asked_append _ _ _⟩
  rintro _ _ ⟨⟩
  exact hprompt

/-- The watch goes on by itself. -/
theorem ComesTo.goOn {steps count : Nat} {phase phase' : Watch.Phase}
    (h : ComesTo timing replies steps count phase)
    (hstep : Watch.step ((promptScript timing replies).clock steps)
        ⟨"demo", timing.statusInterval, timing.timeout, phase⟩ =
      .goOn ⟨"demo", timing.statusInterval, timing.timeout, phase'⟩)
    (hprompt : Watch.Prompt ((promptScript timing replies).clock steps).timer
      ((promptScript timing replies).clock (steps + 1)).timer
      ⟨"demo", timing.statusInterval, timing.timeout, phase'⟩) :
    ComesTo timing replies (steps + 1) count phase' := by
  have leads : (Watch.step ((promptScript timing replies).clock steps)
      ⟨"demo", timing.statusInterval, timing.timeout, phase⟩).Leads
      ((promptScript timing replies).clock steps) []
      ⟨"demo", timing.statusInterval, timing.timeout, phase'⟩ := by
    rw [hstep]
    exact .goOn _
  exact h.step leads (by simp) hprompt

/-- The time of the steps that belong to a look. -/
theorem promptScript_timer (timing : DeploySettings) (replies : Nat → Except ApiError Stack)
    (k steps : Nat) (hle : 7 + 3 * k ≤ steps) (hlt : steps < 7 + 3 * (k + 1)) :
    ((promptScript timing replies).clock steps).timer =
      min timing.timeout (k * timing.statusInterval) := by
  have hcount : (steps - 7) / 3 = k := by omega
  change min timing.timeout ((steps - 7) / 3 * timing.statusInterval) = _
  rw [hcount]

theorem promptScript_onward (timing : DeploySettings) (replies : Nat → Except ApiError Stack) :
    Monotone fun n => ((promptScript timing replies).clock n).timer := by
  intro m n hmn
  have hcount : (m - 7) / 3 ≤ (n - 7) / 3 := Nat.div_le_div_right (Nat.sub_le_sub_right hmn 7)
  exact min_le_min_left _ (Nat.mul_le_mul_right _ hcount)

section Looks

variable {k : Nat}

/-- The watch looks at the stack, which takes no time. -/
theorem ComesTo.look (h : ComesTo timing replies (3 * k + 8) k (.asking timing.timeout)) :
    ComesTo timing replies (3 * k + 9) (k + 1) (.heard timing.timeout (replies k)) := by
  have given (trace : List Action) (hasked : asked .describeStack trace = k) :
      ∀ a ∈ [Action.call (.describeStack "demo") (replies k)],
        (promptScript timing replies).Gives trace a :=
    Script.gives_call (congrArg (fun count => some (replies count)) hasked)
  have hnow : ((promptScript timing replies).clock (3 * k + 9)).timer =
      ((promptScript timing replies).clock (3 * k + 8)).timer := by
    rw [promptScript_timer timing replies k _ (by omega) (by omega),
      promptScript_timer timing replies k _ (by omega) (by omega)]
  exact h.step (.call (.describeStack "demo") _ (replies k)) given hnow

/-- After a look that decides nothing the watch waits for the next one, or until its time is up. -/
theorem ComesTo.pause (h : ComesTo timing replies (3 * k + 9) (k + 1)
      (.heard timing.timeout (replies k)))
    (hinterval : 0 < timing.statusInterval) (hintime : k * timing.statusInterval ≤ timing.timeout)
    (hverdict : Watch.verdict? (replies k) = none) :
    ComesTo timing replies (3 * k + 10) (k + 1)
      (.pausing timing.timeout ((k + 1) * timing.statusInterval)) := by
  have hnow := promptScript_timer timing replies k (3 * k + 9) (by omega) (by omega)
  have hwake : ((promptScript timing replies).clock (3 * k + 9)).after timing.statusInterval =
      (k + 1) * timing.statusInterval := by
    rw [Clock.after, hnow, Nat.min_eq_right hintime, Nat.max_eq_right hinterval, Nat.succ_mul]
  exact h.goOn (by simp only [Watch.step, hverdict, hwake])
    (promptScript_timer timing replies (k + 1) _ (by omega) (by omega))

/-- When the time has come, the watch looks again or its time is up. -/
theorem ComesTo.wake (h : ComesTo timing replies (3 * k + 10) (k + 1)
      (.pausing timing.timeout ((k + 1) * timing.statusInterval))) :
    ((k + 1) * timing.statusInterval ≤ timing.timeout ∧
      ComesTo timing replies (3 * (k + 1) + 8) (k + 1) (.asking timing.timeout)) ∨
    ComesTo timing replies (3 * k + 11) (k + 1) (.over .timedOut) := by
  have hnow := promptScript_timer timing replies (k + 1) (3 * k + 10) (by omega) (by omega)
  have hnext := promptScript_timer timing replies (k + 1) (3 * k + 11) (by omega) (by omega)
  by_cases hintime : (k + 1) * timing.statusInterval ≤ timing.timeout
  · rw [Nat.min_eq_right hintime] at hnow
    exact .inl ⟨hintime, h.goOn (by simp only [Watch.step, hnow, if_pos (Nat.le_refl _)])
      (hnext.trans (by rw [hnow, Nat.min_eq_right hintime]))⟩
  · rw [Nat.min_eq_left (Nat.le_of_not_le hintime)] at hnow
    exact .inr (h.goOn (by simp only [Watch.step, hnow, if_neg hintime, if_pos (Nat.le_refl _)])
      trivial)

end Looks

/-- **The watch comes to its end**, whatever its looks show. -/
theorem exists_comesTo_over (timing : DeploySettings) (replies : Nat → Except ApiError Stack)
    (hinterval : 0 < timing.statusInterval) :
    ∃ steps count watched, ComesTo timing replies steps count (.over watched) := by
  -- by induction on the time that is left
  have looks (left : Nat) : ∀ k, k * timing.statusInterval ≤ timing.timeout →
      timing.timeout - k * timing.statusInterval < left →
      ComesTo timing replies (3 * k + 8) k (.asking timing.timeout) →
      ∃ steps count watched, ComesTo timing replies steps count (.over watched) := by
    induction left with
    | zero => exact fun _ _ hleft => absurd hleft (Nat.not_lt_zero _)
    | succ left ih =>
      intro k hintime hleft h
      cases hverdict : Watch.verdict? (replies k) with
      | some watched =>
        exact ⟨_, _, watched, h.look.goOn (by simp only [Watch.step, hverdict]) trivial⟩
      | none =>
        obtain ⟨hintime', h'⟩ | h' := (h.look.pause hinterval hintime hverdict).wake
        · refine ih (k + 1) hintime' ?_ h'
          rw [Nat.succ_mul] at hintime' ⊢
          omega
        · exact ⟨_, _, _, h'⟩
  have hbegan : ((promptScript timing replies).clock 7).timer = 0 :=
    (promptScript_timer timing replies 0 7 (by omega) (by omega)).trans (by simp)
  have hbegin : ComesTo timing replies 8 0 (.asking timing.timeout) :=
    comesTo_waiting.goOn (by simp only [Watch.step, hbegan, Nat.zero_add]) rfl
  exact looks _ 0 (by simp) (Nat.lt_succ_self _) hbegin

/-- When the other actors have ended, the operation can come to an outcome. -/
theorem Script.PlaysWithin.exists_over {script : Script} {start : Session} {P : Moment → Prop}
    {m : Moment} {target : Target} {ending : Ending} (plays : script.PlaysWithin start P m)
    (hphase : m.session.phase = .stopping target ending)
    (hstopped : m.session.progress.all Progress.isOver = true)
    (h : ∀ m : Moment, m.session.phase.IsEnding → P m) :
    ∃ m' outcome, script.PlaysWithin start P m' ∧ (SetOff m.trace → SetOff m'.trace) ∧
      m'.session.phase = .over outcome := by
  have leads : (m.session.step (script.clock m.steps) .operation).Leads (script.clock m.steps) []
      (m.session.stopped target ending) := by
    rw [Session.step, Session.operationStep, hphase]
    simp only [hstopped, if_true]
    exact .goOn _
  obtain ⟨outcome, hover⟩ | ⟨status, htrace⟩ := m.session.stopped_cases target ending
  · rw [hover] at leads
    have ended := plays.operation leads (by simp) (h _ (.inr (.inr rfl)))
    exact ⟨_, outcome, ended, fun hoff => hoff.append _, rfl⟩
  · rw [htrace] at leads
    have tracing := plays.operation leads (by simp) (h _ (.inr (.inl rfl)))
    have unread := tracing.operation (.call _ _ (.error (.http "")))
      (Script.gives_call_of_none rfl) (h _ (.inr (.inl rfl)))
    have ended := unread.operation (.goOn _) (by simp) (h _ (.inr (.inr rfl)))
    exact ⟨_, _, ended, fun hoff => ((hoff.append _).append _).append _, rfl⟩

/-- When the watch is over, the deployment comes to an outcome. -/
theorem ComesTo.ends {steps count : Nat} {watched : Watched}
    (h : ComesTo timing replies steps count (.over watched)) : ∃ m outcome,
      (promptScript timing replies).PlaysWithin (queueDeploymentWith timing)
        (Moment.Prompt (promptScript timing replies)) m ∧
        SetOff m.trace ∧ m.session.phase = .over outcome := by
  obtain ⟨trace, plays, ⟨a, ha, hoff⟩, -⟩ := h
  have leads : ((queueWatch timing (.over watched)).step ((promptScript timing replies).clock steps)
      .operation).Leads ((promptScript timing replies).clock steps) []
      ((queueWatch timing (.over watched)).stop queueTarget
        ((queueWatch timing (.over watched)).ending queueTarget watched)) := by
    rw [← Session.watched_eq_stop]
    exact .goOn _
  have stopping := plays.operation leads (by simp) (by rintro _ _ ⟨⟩)
  have draining := stopping.feed ⟨0, 0, .epoch⟩ (.goOn _) (by rintro _ _ ⟨⟩)
  have polled := draining.feed ⟨0, 0, .epoch⟩ (.call _ _ (.ok (⟨[], none⟩ : EventPage)))
    (by rintro _ _ ⟨⟩)
  have drained := polled.feed ⟨0, 0, .epoch⟩ (.goOn _) (by rintro _ _ ⟨⟩)
  have closed := drained.painter ⟨0, 0, .epoch⟩ (.goOn _) (by rintro _ _ ⟨⟩)
  have hprompt (m : Moment) (hending : m.session.phase.IsEnding) :
      m.Prompt (promptScript timing replies) := by
    intro _ _ hwatching
    exact absurd (hwatching ▸ hending) Session.Phase.not_isEnding_watching
  obtain ⟨m, outcome, ended, hkept, hover⟩ := closed.exists_over rfl rfl hprompt
  exact ⟨m, outcome, ended, hkept ⟨a, by simp [ha], hoff⟩, hover⟩

/-- **There are prompt runs**: for every timing and all replies a fair one comes to an outcome. -/
theorem exists_prompt_play (timing : DeploySettings) (replies : Nat → Except ApiError Stack)
    (hinterval : 0 < timing.statusInterval) :
    ∃ play : Play (promptScript timing replies) (queueDeploymentWith timing), play.Prompt ∧
      play.Fair ∧ play.FiniteHistories ∧ ∃ n outcome, SetOff (play.moment n).trace ∧
        (play.moment n).session.phase = .over outcome := by
  obtain ⟨_, _, _, h⟩ := exists_comesTo_over timing replies hinterval
  obtain ⟨m, outcome, plays, hoff, hover⟩ := h.ends
  obtain ⟨play, hfair, hfinite, hprompt, n, rfl⟩ :=
    plays.exists_fair_play (Session.staged_deploy _ _ _ _ _) hover
  exact ⟨play, ⟨promptScript_onward timing replies, hprompt⟩, hfair, hfinite, n, outcome, hoff,
    hover⟩

end StackDeploy
