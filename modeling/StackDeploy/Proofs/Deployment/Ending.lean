import Mathlib.Order.OrderIsoNat
import StackDeploy.Proofs.Deployment.Rank
import StackDeploy.Proofs.Deployment.Review

/-!
# How an operation ends

Once an operation is about to end, as a deployment with its verdict is, a fair run comes to its end
if no history goes on for ever: somebody can always go on until then, and the moves of actors lower
the rank of the session.

* `Moment.exists_canMove` — somebody can always go on.
* `Play.exists_over_of_ending`, `Play.exists_verdict` — fair runs reach their verdict and their end.
* `stream_never_decides` — the feed, the painter and the sink neither change the verdict of a
  deployment nor keep it from ending.
-/

namespace StackDeploy

/-! ### Somebody can go on -/

namespace Moment

variable {m : Moment} {script : Script}

theorem canMove_operation {actions : List Action} {t : Session}
    (leads : (m.session.step (script.clock m.steps) .operation).Leads (script.clock m.steps)
      actions t) : m.CanMove script .operation := by
  obtain ⟨actions', t', leads', given⟩ := Script.exists_leads script m.trace leads
  exact ⟨_, _, .operation leads' given⟩

theorem canMove_feed {p p' : Progress} {clock : Clock} {actions : List Action}
    (hp : m.session.progress = some p)
    (leads : (p.feedStep clock : Step Progress Session).Leads clock actions p') :
    m.CanMove script .feed := by
  have hstep : (m.session.step clock .feed).Leads clock actions
      { m.session with progress := some p' } := by
    rw [Session.step, hp]
    exact leads.embed (fun p => { m.session with progress := some p }) id
  exact ⟨_, _, .other (by decide) hstep⟩

theorem canMove_painter {p p' : Progress} {clock : Clock} {actions : List Action}
    (hp : m.session.progress = some p)
    (leads : (p.painterStep : Step Progress Session).Leads clock actions p') :
    m.CanMove script .painter := by
  have hstep : (m.session.step clock .painter).Leads clock actions
      { m.session with progress := some p' } := by
    rw [Session.step, hp]
    exact leads.embed (fun p => { m.session with progress := some p }) id
  exact ⟨_, _, .other (by decide) hstep⟩

/-- A cancelled progress that is not over goes on: the painter makes room for the feed, and when the
feed is over the painter needs nothing more. -/
theorem exists_canMove_of_works {p : Progress} (hp : m.session.progress = some p)
    (hcancelled : p.cancelled = true) (hworks : p.isOver = false) :
    ∃ actor, m.CanMove script actor := by
  have clock : Clock := script.clock m.steps
  have hpaints (hpainter : p.painter.result? = none)
      (hfeed : p.queue ≠ [] ∨ p.feed.result?.isSome ∨ p.painter.phase ≠ .receiving) :
      ∃ actor, m.CanMove script actor := by
    obtain ⟨actions, p', leads⟩ := Progress.exists_painterStep_leads clock hpainter hfeed
    exact ⟨.painter, canMove_painter hp leads⟩
  cases hfeed : p.feed.result? with
  | some result =>
    refine hpaints ?_ (.inr (.inl (by rw [hfeed]; rfl)))
    rw [Progress.isOver, hfeed] at hworks
    simpa using hworks
  | none =>
    by_cases hroom : p.queue.length < queueCapacity ∨ p.painter.result?.isSome
    · obtain ⟨actions, p', leads⟩ :=
        Progress.exists_feedStep_leads clock hcancelled hfeed hroom
      exact ⟨.feed, canMove_feed hp leads⟩
    · -- the queue is full, so there is a batch to be painted
      rw [not_or] at hroom
      refine hpaints (by simpa using hroom.2) (.inl fun hnil => hroom.1 ?_)
      rw [hnil]
      exact Nat.zero_lt_succ _

/-- **No standstill.** As long as an operation that is about to end is not over, somebody can go
on. -/
theorem exists_canMove (hstaged : m.session.Staged) (h : m.session.phase.IsEnding)
    (hopen : m.session.phase.stage ≠ .over) : ∃ actor, m.CanMove script actor := by
  cases hphase : m.session.phase with
  | stopping target ending =>
    by_cases hall : m.session.progress.all Progress.isOver
    · have leads : (m.session.step (script.clock m.steps) .operation).Leads
          (script.clock m.steps) [] (m.session.stopped target ending) := by
        rw [Session.step, Session.operationStep, hphase]
        simp only [hall, if_true]
        exact .goOn _
      exact ⟨.operation, canMove_operation leads⟩
    · cases hp : m.session.progress with
      | none => simp [hp] at hall
      | some p =>
        have hcancelled := (Session.stage_of_works hstaged h hp (by simpa [hp] using hall)).2
        exact exists_canMove_of_works hp hcancelled (by simpa [hp] using hall)
  | tracing target status fetch =>
    have hleads : ∃ actions t, (m.session.step (script.clock m.steps) .operation).Leads
        (script.clock m.steps) actions t := by
      rw [Session.step, Session.operationStep, hphase]
      cases fetch with
      | reading source reader => exact ⟨_, _, .call _ _ (.error (.http ""))⟩
      | «over» result source => exact ⟨_, _, .goOn _⟩
    obtain ⟨actions, t, leads⟩ := hleads
    exact ⟨.operation, canMove_operation leads⟩
  | «over» outcome => exact absurd (by rw [hphase]; rfl) hopen
  | _ => simp [hphase, Session.Phase.IsEnding, Session.Phase.stage] at h

end Moment

/-! ### Fair runs -/

theorem Script.Moves.isEnding {script : Script} {mover : Option Actor} {actions : List Action}
    {m m' : Moment} (moves : script.Moves mover actions m m') (h : m.session.phase.IsEnding) :
    m'.session.phase.IsEnding := by
  by_cases hmover : mover = some .operation
  · subst hmover
    cases moves with
    | operation leads => exact (Session.operationGoes_of_leads leads).isEnding h
    | other hactor => exact absurd rfl hactor
  · obtain ⟨-, hphase, -, -⟩ := moves.aside hmover
    rwa [hphase]

theorem Session.Phase.exists_outcome {phase : Session.Phase} (h : phase.stage = .over) :
    ∃ outcome, phase = .over outcome := by
  cases phase with
  | «over» outcome => exact ⟨outcome, rfl⟩
  | _ => cases h

namespace Play

variable {script : Script} {start : Session}

theorem staged (play : Play script start) (hstart : start.Staged) (k : Nat) :
    (play.moment k).session.Staged :=
  hstart.runs (play.plays k).runs

/-- An operation that is about to end stays so. -/
theorem isEnding_of_le (play : Play script start) {k : Nat}
    (h : (play.moment k).session.phase.IsEnding) {j : Nat} (hkj : k ≤ j) :
    (play.moment j).session.phase.IsEnding := by
  induction j, hkj using Nat.le_induction with
  | base => exact h
  | succ j hkj ih => exact (play.moves j).isEnding ih

/-- Once the operation is about to end a move lowers the rank of the session, reads a page that is
followed by another one, or changes nothing. -/
theorem rank_cases (play : Play script start) (hstart : start.Staged) {k : Nat}
    (h : (play.moment k).session.phase.IsEnding)
    (hopen : (play.moment k).session.phase.stage ≠ .over) :
    (play.moment (k + 1)).session.rank < (play.moment k).session.rank ∨
      (play.moment (k + 1)).session.rank = (play.moment k).session.rank ∧
        ((∃ a, play.actions k = [a] ∧ a.isContinuedPage) ∨
          play.mover k = none ∧ play.actions k = [] ∧ play.moment (k + 1) = play.moment k) := by
  have hstaged := play.staged hstart k
  have hmoves := play.moves k
  generalize play.moment k = m at *
  generalize play.moment (k + 1) = m' at *
  generalize play.actions k = actions at *
  generalize play.mover k = mover at *
  cases hmoves with
  | operation leads | other _ leads =>
    exact (Session.rank_of_leads hstaged h leads).imp_right fun ⟨hsame, ha⟩ => ⟨hsame, .inl ha⟩
  | rest => exact .inr ⟨rfl, .inr ⟨rfl, rfl, rfl⟩⟩
  | cancel =>
    -- the operation has cancelled the feed already
    have hcancel : m.session.cancel = m.session := by
      rw [Session.cancel]
      cases hp : m.session.progress with
      | none => rw [Option.map_none, ← hp]
      | some p =>
        have hcancelled : p.cancelled = true := by
          rcases h with hstage | hstage | hstage
          · simp only [Session.Staged, hstage] at hstaged
            exact hstaged p hp
          · simp only [Session.Staged, hstage] at hstaged
            exact (hstaged p hp).1
          · exact absurd hstage hopen
        rw [Option.map_some, ← hcancelled, ← hp]
    rw [hcancel]
    exact .inr ⟨rfl, .inr ⟨rfl, rfl, rfl⟩⟩

/-- **What is about to end does end.** A fair run in which the operation is about to end comes to
its end, if histories are finite. -/
theorem exists_over_of_ending (play : Play script start) (hstart : start.Staged)
    (hfair : play.Fair) (hfinite : play.FiniteHistories) {k : Nat}
    (h : (play.moment k).session.phase.IsEnding) :
    ∃ j outcome, k ≤ j ∧ (play.moment j).session.phase = .over outcome := by
  by_contra hnever
  have hopen {j : Nat} (hkj : k ≤ j) : (play.moment j).session.phase.stage ≠ .over := by
    intro hstage
    obtain ⟨outcome, hover⟩ := Session.Phase.exists_outcome hstage
    exact hnever ⟨j, outcome, hkj, hover⟩
  have hcases {j : Nat} (hkj : k ≤ j) :=
    play.rank_cases hstart (play.isEnding_of_le h hkj) (hopen hkj)
  -- the rank falls from then on, so it is kept from some time on
  have hfalls : Antitone fun j => (play.moment (k + j)).session.rank :=
    antitone_nat_of_succ_le fun j =>
      (hcases (Nat.le_add_right k j)).elim le_of_lt fun hsame => le_of_eq hsame.1
  obtain ⟨i, hconst⟩ := WellFoundedLT.antitone_chain_condition hfalls
  have hquiet {j : Nat} (hij : k + i ≤ j) : (∃ a, play.actions j = [a] ∧ a.isContinuedPage) ∨
      play.mover j = none ∧ play.actions j = [] ∧ play.moment (j + 1) = play.moment j := by
    obtain ⟨d, rfl⟩ := Nat.exists_eq_add_of_le (Nat.le_trans (Nat.le_add_right k i) hij)
    rcases hcases (Nat.le_add_right k d) with hlt | ⟨-, hquiet⟩
    · have hsame := (hconst d (by omega)).symm.trans (hconst (d + 1) (by omega))
      exact absurd (hsame ▸ hlt) (lt_irrefl _)
    · exact hquiet
  -- so every history that is read goes on, until no page is read any more
  obtain ⟨n, hin, hnone⟩ := hfinite (k + i) fun j hij a ha _ => by
    rcases hquiet hij with ⟨b, hb, hcontinued⟩ | ⟨-, hnil, -⟩
    · rw [hb] at ha
      exact List.mem_singleton.mp ha ▸ hcontinued
    · rw [hnil] at ha
      cases ha
  have hrest : ∀ j, n ≤ j → play.mover j = none ∧ play.moment (j + 1) = play.moment j := by
    intro j hnj
    rcases hquiet (Nat.le_trans hin hnj) with ⟨a, ha, hcontinued⟩ | ⟨hmover, -, hsame⟩
    · have hpage := hnone j hnj a (by rw [ha]; exact List.mem_singleton_self a)
      rw [Action.isPage_of_isContinuedPage hcontinued] at hpage
      cases hpage
    · exact ⟨hmover, hsame⟩
  have hsame : ∀ j, n ≤ j → play.moment j = play.moment n := by
    intro j hnj
    induction j, hnj using Nat.le_induction with
    | base => rfl
    | succ j hnj ih => rw [(hrest j hnj).2, ih]
  -- then somebody could go on for ever, and does not
  have hkn : k ≤ n := Nat.le_trans (Nat.le_add_right k i) hin
  obtain ⟨actor, hcan⟩ : ∃ actor, (play.moment n).CanMove script actor :=
    Moment.exists_canMove (play.staged hstart n) (play.isEnding_of_le h hkn) (hopen hkn)
  obtain ⟨j, hnj, hmover | hcannot⟩ := hfair actor n
  · rw [(hrest j hnj).1] at hmover
    cases hmover
  · exact hcannot (hsame j hnj ▸ hcan)

end Play

/-- Operations in phases that are alike can go on at the same times. -/
theorem Session.Phase.Alike.exists_leads {s s' t : Session} {clock : Clock} {actions : List Action}
    (halike : s.phase.Alike s'.phase) (leads : (s.operationStep clock).Leads clock actions t) :
    ∃ actions' t', (s'.operationStep clock).Leads clock actions' t' := by
  rw [Session.operationStep] at leads ⊢
  generalize hphase : s.phase = phase at halike leads
  generalize hphase' : s'.phase = phase' at halike
  cases halike with
  | submitting | submittingUpdate | executing => exact ⟨_, _, .call _ _ (.error (.http ""))⟩
  | announcing => exact ⟨_, _, .write _ _ (.ok ())⟩
  | reviewing stack review =>
    obtain ⟨r, hleads, -⟩ | ⟨result, hover, -, -⟩ := Step.leads_embed leads
    · exact ⟨_, _, hleads.embed _ _⟩
    · simp only [hover]
      exact ⟨_, _, .goOn _⟩
  | watching w hgoal =>
    obtain ⟨r, hleads, -⟩ | ⟨result, hover, -, -⟩ := Step.leads_embed leads
    · exact ⟨_, _, hleads.embed _ _⟩
    · simp only [hover]
      exact ⟨_, _, .goOn _⟩

namespace Play

variable {script : Script} {start start' : Session} {m : Moment} {verdict : Verdict}

theorem steps_le_succ (play : Play script start) (k : Nat) :
    (play.moment k).steps ≤ (play.moment (k + 1)).steps := by
  have hmoves := play.moves k
  generalize play.moment k = m at *
  generalize play.moment (k + 1) = m' at *
  generalize play.mover k = mover at *
  generalize play.actions k = actions at *
  cases hmoves with
  | operation => exact Nat.le_succ _
  | other | cancel | rest => exact Nat.le_refl _

/-- **A fair run reaches the verdict** that one run by its script has come to. -/
theorem exists_verdict (hstart : (Moment.first start').Abreast (.first start))
    (plays : script.Plays start' m) (h : m.session.phase.verdict? = some verdict)
    (play : Play script start) (hfair : play.Fair) :
    ∃ k, (play.moment k).session.phase.verdict? = some verdict := by
  by_contra hnever
  rw [not_exists] at hnever
  have hfewer (k : Nat) : (play.moment k).steps < m.steps :=
    Nat.lt_of_not_le fun hle =>
      hnever k (plays.verdict?_of_steps_le hstart (play.plays k) h hle)
  -- the operation takes no more steps from some time on
  have hfalls : Antitone fun j => m.steps - (play.moment j).steps :=
    antitone_nat_of_succ_le fun j => Nat.sub_le_sub_left (play.steps_le_succ j) _
  obtain ⟨k, hleft⟩ := WellFoundedLT.antitone_chain_condition hfalls
  have hconst : ∀ j, k ≤ j → (play.moment j).steps = (play.moment k).steps := by
    intro j hkj
    have hsame : m.steps - (play.moment k).steps = m.steps - (play.moment j).steps := hleft j hkj
    have hk := hfewer k
    have hj := hfewer j
    omega
  obtain ⟨j, hkj, hmover | hcannot⟩ := hfair .operation k
  · have hmoves := play.moves j
    have hsame := (hconst (j + 1) (by omega)).trans (hconst j hkj).symm
    rw [hmover] at hmoves
    generalize play.moment j = now at *
    generalize play.moment (j + 1) = next at *
    generalize play.actions j = actions at *
    cases hmoves with
    | operation => exact Nat.succ_ne_self _ hsame
    | other hactor => exact hactor rfl
  · -- but it can go on, as it did in the other run
    have hplays := play.plays j
    obtain ⟨after, hafter, hsteps, -⟩ := plays.exists_earlier (hfewer j)
    obtain ⟨before, actions, t, hbefore, hcount, leads, -⟩ := hafter.exists_step hsteps
    obtain ⟨-, ⟨other, -, hother⟩ | ⟨halike, -⟩⟩ :=
      hbefore.abreast hstart hplays hcount
    · exact hnever j (hother.trans (congrArg some
        (plays.verdict_unique hstart hplays h hother).symm))
    · obtain ⟨actions', t', leads'⟩ := halike.exists_leads leads
      exact hcannot (Moment.canMove_operation leads')

end Play

/-- A run that has come to its end can rest there, which is fair. -/
theorem Script.PlaysWithin.exists_fair_play {script : Script} {start : Session}
    {P : Moment → Prop} {m : Moment} {outcome : Outcome} (plays : script.PlaysWithin start P m)
    (hstart : start.Staged) (hover : m.session.phase = .over outcome) :
    ∃ play : Play script start, play.Fair ∧ play.FiniteHistories ∧ (∀ k, P (play.moment k)) ∧
      ∃ k, play.moment k = m := by
  have hstaged := hstart.runs plays.plays.runs
  have hstill (actor : Actor) : ¬ m.CanMove script actor := by
    rintro ⟨actions, m', moves⟩
    cases moves with
    | operation leads => exact hstaged.not_leads hover leads
    | other _ leads => exact hstaged.not_leads hover leads
  obtain ⟨play, n, hwithin, hrest⟩ := plays.exists_play
  refine ⟨play, fun actor k => ?_, fun k _ => ?_, hwithin, n, (hrest n (Nat.le_refl n)).1⟩
  · refine ⟨max k n, Nat.le_max_left k n, .inr ?_⟩
    rw [(hrest _ (Nat.le_max_right k n)).1]
    exact hstill actor
  · refine ⟨max k n, Nat.le_max_left k n, fun i hi a ha => ?_⟩
    rw [(hrest i (Nat.le_trans (Nat.le_max_right k n) hi)).2.2] at ha
    cases ha

/-! ### Two deployments -/

section Deployments

variable (timing : DeploySettings) (request : DeployRequest) (rendered : Except String String)
  (display display' : DisplayOptions) (lookups lookups' : Bool)
  (name updateName name' updateName' : String)

theorem abreast_deploy :
    (Moment.first (.deploy ⟨timing, display, lookups⟩ request rendered name updateName)).Abreast
      (.first (.deploy ⟨timing, display', lookups'⟩ request rendered name' updateName')) := by
  refine ⟨rfl, ?_⟩
  cases rendered with
  | ok body => exact .inr ⟨.submitting _ rfl rfl, fun _ _ => rfl⟩
  | error message => exact .inl ⟨_, rfl, rfl⟩

/-- The outcome of a deployment is never that of a deletion or of a stream. -/
theorem Session.Phase.exists_verdict_of_deploy {script : Script} {m : Moment} {outcome : Outcome}
    (plays : script.Plays (.deploy ⟨timing, display, lookups⟩ request rendered name updateName) m)
    (hover : m.session.phase = .over outcome) :
    ∃ verdict, outcome.verdict? = some verdict := by
  obtain ⟨-, ⟨verdict, hverdict, -⟩ | ⟨halike, -⟩⟩ := plays.abreast
    (abreast_deploy timing request rendered display display lookups lookups name updateName name
      updateName) plays rfl
  · rw [hover] at hverdict
    exact ⟨verdict, hverdict⟩
  · rw [hover] at halike
    cases halike

/-- **The stream never decides.** Suppose that one deployment has come to its outcome. Another
deployment of the same request, with the same timing, hears the same at the same times, but for
events and rollouts, and its changes can be written; it may be shown in another way, its feed and
its painter may go other ways at other times, and their calls and writes may have other results.
Then it never comes to an outcome with another verdict; and unless it is unfair to one of its
actors, or the histories of events have no end, it comes to an outcome with that verdict. -/
theorem stream_never_decides {script : Script} {first : Moment} {outcome : Outcome}
    (plays : script.Plays (.deploy ⟨timing, display, lookups⟩ request rendered name updateName)
      first)
    (hover : first.session.phase = .over outcome) :
    ∃ verdict, outcome.verdict? = some verdict ∧
      (∀ second outcome', script.Plays
          (.deploy ⟨timing, display', lookups'⟩ request rendered name' updateName') second →
        second.session.phase = .over outcome' → outcome'.verdict? = some verdict) ∧
      ∀ play : Play script
          (.deploy ⟨timing, display', lookups'⟩ request rendered name' updateName'),
        play.Fair → play.FiniteHistories →
          ∃ k outcome', (play.moment k).session.phase = .over outcome' ∧
            outcome'.verdict? = some verdict := by
  have hstart := abreast_deploy timing request rendered display display' lookups lookups' name
    updateName name' updateName'
  obtain ⟨verdict, hverdict⟩ := Session.Phase.exists_verdict_of_deploy timing request rendered
    display lookups name updateName plays hover
  have hfirst : first.session.phase.verdict? = some verdict := by
    rw [hover]
    exact hverdict
  have hsame : ∀ second outcome', script.Plays
      (.deploy ⟨timing, display', lookups'⟩ request rendered name' updateName') second →
        second.session.phase = .over outcome' → outcome'.verdict? = some verdict := by
    intro second outcome' plays' hover'
    obtain ⟨verdict', hverdict'⟩ := Session.Phase.exists_verdict_of_deploy timing request rendered
      display' lookups' name' updateName' plays' hover'
    have hsecond : second.session.phase.verdict? = some verdict' := by
      rw [hover']
      exact hverdict'
    rw [plays.verdict_unique hstart plays' hfirst hsecond, hverdict']
  refine ⟨verdict, hverdict, hsame, fun play hfair hfinite => ?_⟩
  obtain ⟨k, hk⟩ := Play.exists_verdict hstart plays hfirst play hfair
  obtain ⟨j, outcome', -, houtcome⟩ := play.exists_over_of_ending (Session.staged_deploy _ _ _ _ _)
    hfair hfinite (Session.isEnding_of_verdict hk)
  exact ⟨j, outcome', houtcome, hsame _ _ (play.plays j) houtcome⟩

end Deployments

/-! ### A deployment whose stream fails -/

/-- The script of a deployment that adds a queue. -/
def queueScript : Script where
  clock _ := ⟨0, 0, .epoch⟩
  created _ := .ok ⟨"queue", "demo"⟩
  described _ := .ok queueChangeSet
  executed _ := .ok ()
  watched _ := .ok (.named "demo" .createComplete)

/-- The stream of the first deployment ends well. -/
theorem queueDeployment_ends : ∃ m tree, queueScript.Plays queueDeployment m ∧
    m.session.phase = .over (.deployed .createComplete tree none) := by
  have begun : queueScript.Plays queueDeployment (.first queueDeployment) := .start
  have submitted := begun.operation
    (.call _ _ (.ok (⟨"queue", "demo"⟩ : ChangeSetRef))) (Script.gives_call rfl)
  have asking := submitted.operation (.goOn _) (by simp)
  have described := asking.operation (.call _ _ (.ok queueChangeSet))
    (Script.gives_call rfl)
  have judged := described.operation (.goOn _) (by simp)
  have reviewed := judged.operation (.goOn _) (by simp)
  have written := reviewed.operation (.write _ _ (.ok ())) (by simp [Script.Gives])
  have executed := written.operation (.call _ _ (.ok ())) (Script.gives_call rfl)
  have watching := executed.operation (.goOn _) (by simp)
  have looked := watching.operation
    (.call _ _ (.ok (Stack.named "demo" .createComplete))) (Script.gives_call rfl)
  have heard := looked.operation (.goOn _) (by simp)
  have stopping := heard.operation (.goOn _) (by simp)
  have draining := stopping.feed ⟨0, 0, .epoch⟩ (.goOn _)
  have polled := draining.feed ⟨0, 0, .epoch⟩ (.call _ _ (.ok (⟨[], none⟩ : EventPage)))
  have drained := polled.feed ⟨0, 0, .epoch⟩ (.goOn _)
  have closed := drained.painter ⟨0, 0, .epoch⟩ (.goOn _)
  have ended := closed.operation (.goOn _) (by simp)
  exact ⟨_, _, ended, rfl⟩

/-- The drawing of the second one cannot be written, and its feed fails. -/
theorem liveQueueDeployment_ends : ∃ m tree error, queueScript.Plays liveQueueDeployment m ∧
    m.session.phase = .over (.deployed .createComplete tree (some error)) := by
  have begun : queueScript.Plays liveQueueDeployment (.first liveQueueDeployment) := .start
  have submitted := begun.operation
    (.call _ _ (.ok (⟨"queue", "demo"⟩ : ChangeSetRef))) (Script.gives_call rfl)
  have asking := submitted.operation (.goOn _) (by simp)
  have described := asking.operation (.call _ _ (.ok queueChangeSet))
    (Script.gives_call rfl)
  have judged := described.operation (.goOn _) (by simp)
  have reviewed := judged.operation (.goOn _) (by simp)
  have written := reviewed.operation (.write _ _ (.ok ())) (by simp [Script.Gives])
  have polling := written.feed ⟨0, 0, .epoch⟩ (.goOn _)
  have polled := polling.feed ⟨0, 0, .epoch⟩ (.call _ _ (.ok (⟨[queueCreated], none⟩ : EventPage)))
  have concluded := polled.feed ⟨0, 0, .epoch⟩ (.goOn _)
  have published := concluded.feed ⟨0, 0, .epoch⟩ (.goOn _)
  have executed := published.operation (.call _ _ (.ok ())) (Script.gives_call rfl)
  have received := executed.painter ⟨0, 0, .epoch⟩ (.goOn _)
  have applied := received.painter ⟨0, 0, .epoch⟩ (.goOn _)
  have drawing := applied.painter ⟨0, 0, .epoch⟩ (.goOn _)
  have failed := drawing.painter ⟨0, 0, .epoch⟩ (.write _ _ (.error "sink full"))
  have watching := failed.operation (.goOn _) (by simp)
  have looked := watching.operation
    (.call _ _ (.ok (Stack.named "demo" .createComplete))) (Script.gives_call rfl)
  have heard := looked.operation (.goOn _) (by simp)
  have stopping := heard.operation (.goOn _) (by simp)
  have draining := stopping.feed ⟨0, 0, .epoch⟩ (.goOn _)
  have refused := draining.feed ⟨0, 0, .epoch⟩ (.call _ _ (.error (.service 400 "slow down")))
  have drained := refused.feed ⟨0, 0, .epoch⟩ (.goOn _)
  have ended := drained.operation (.goOn _) (by simp)
  exact ⟨_, _, _, ended, rfl⟩

/-- Both deployments have the same verdict, and a fair run of the second one comes to it. -/
theorem liveQueueDeployment_deployed :
    ∃ first tree, queueScript.Plays queueDeployment first ∧
      first.session.phase = .over (.deployed .createComplete tree none) ∧
      ∃ second tree' error, queueScript.Plays liveQueueDeployment second ∧
        second.session.phase = .over (.deployed .createComplete tree' (some error)) ∧
        ∃ play : Play queueScript liveQueueDeployment, play.Fair ∧ play.FiniteHistories ∧
          ∃ k outcome, (play.moment k).session.phase = .over outcome ∧
            outcome.verdict? = some (.deployed .createComplete) := by
  obtain ⟨first, tree, plays, hover⟩ := queueDeployment_ends
  obtain ⟨second, tree', error, plays', hover'⟩ := liveQueueDeployment_ends
  obtain ⟨play, hfair, hfinite, -⟩ :=
    plays'.within.exists_fair_play (Session.staged_deploy _ _ _ _ _) hover'
  obtain ⟨verdict, ⟨⟩, -, hreaches⟩ := stream_never_decides _ _ _ _ _ _ _ _ _ _ _ plays hover
  exact ⟨first, tree, plays, hover, second, tree', error, plays', hover', play, hfair, hfinite,
    hreaches play hfair hfinite⟩

end StackDeploy
