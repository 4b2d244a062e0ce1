import StackDeploy.Proofs.Deployment.Ending
import StackDeploy.Proofs.Deployment.Watching

/-!
# How a watch ends

A watch waits for the time of its next look, or for its deadline if that is earlier. A run is
**punctual** if the time never goes back, and if the watch is woken when its time has come, and not
so late after its deadline that the next look is due as well. Then the watch ends: every look comes
at least one tick of the timer after the one before it, and after the deadline there is none.

* `Play.Punctual` — punctual runs.
* `Watch.rank_of_leads` — the steps of a watch lower its rank.
* `Play.exists_over_of_setOff` — fair and punctual runs in which a change is set off come to an
  outcome.
-/

namespace StackDeploy

/-! ### Punctual runs -/

/-- The pause of a watch is **over in time**: the time for the next look or the deadline has come,
and if the deadline comes first, the time for the next look has not. -/
def Watch.InTime (clock : Clock) (w : Watch) : Prop :=
  ∀ deadline wake, w.phase = .pausing deadline wake →
    min deadline wake ≤ clock.timer ∧ (deadline < wake → clock.timer < wake)

/-- When the operation takes its next step, the pause of its watch is over in time. -/
def Moment.InTime (script : Script) (m : Moment) : Prop :=
  ∀ target w, m.session.phase = .watching target w → w.InTime (script.clock m.steps)

/-- A **punctual** run. -/
structure Play.Punctual {script : Script} {start : Session} (play : Play script start) : Prop where
  onward : Monotone fun n => (script.clock n).timer
  inTime : ∀ k, (play.moment k).InTime script

/-! ### Ranks of watches -/

namespace Watch

variable {clock : Clock} {w w' : Watch} {actions : List Action}

/-- The **rank** of a watch at a time: what is left until its deadline, and the steps until the next
look. -/
def rank (now : Nat) (w : Watch) : Nat :=
  match w.phase with
  | .waiting => 3 * (w.timeout + 1) + 4
  | .pausing deadline wake => if wake ≤ deadline then 3 * (deadline + 1 - wake) + 4 else 1
  | .asking deadline => 3 * (deadline + 1 - now) + 3
  | .heard deadline _ => 3 * (deadline + 1 - now) + 2
  | .over _ => 0

/-- **A watch goes on to its end.** Every step lowers the rank. -/
theorem rank_of_leads {now : Nat} (hintime : w.InTime clock) (hnow : clock.timer ≤ now)
    (leads : (w.step clock).Leads clock actions w') : w'.rank now < w.rank clock.timer := by
  rw [rank.eq_def clock.timer]
  cases steps_of_leads leads with
  | begin hphase =>
    simp only [rank, hphase]
    omega
  | ask hphase =>
    simp only [rank, hphase]
    omega
  | pause hphase =>
    -- the next look is due one tick later at least
    have hlater : clock.timer + 1 ≤ clock.after w.interval :=
      Nat.add_le_add_left (Nat.le_max_left 1 _) _
    simp only [rank, hphase]
    split <;> omega
  | settle hphase =>
    simp only [rank, hphase]
    omega
  | @wake deadline wake hphase hdue =>
    have hearly := (hintime deadline wake hphase).2
    have hbefore : wake ≤ deadline := by omega
    simp only [rank, hphase, if_pos hbefore]
    omega
  | timeOut hphase =>
    simp only [rank, hphase]
    split <;> omega
  | sleep hphase hdue hlate =>
    have hawake := (hintime _ _ hphase).1
    omega

/-- A watch goes on or is over. -/
theorem exists_leads_or_finish (hawake : w.InTime clock) :
    (∃ actions w', (w.step clock).Leads clock actions w') ∨
      ∃ watched, w.step clock = .finish watched := by
  rw [step]
  cases hphase : w.phase with
  | waiting => exact .inl ⟨_, _, .goOn _⟩
  | asking deadline => exact .inl ⟨_, _, .call _ _ (.error (.http ""))⟩
  | heard deadline reply =>
    dsimp only
    split
    · exact .inl ⟨_, _, .goOn _⟩
    · exact .inl ⟨_, _, .goOn _⟩
  | pausing deadline wake =>
    have hdue := (hawake deadline wake hphase).1
    dsimp only
    split
    · exact .inl ⟨_, _, .goOn _⟩
    · split
      · exact .inl ⟨_, _, .goOn _⟩
      · exact .inl ⟨_, _, .wake _ hdue⟩
  | «over» watched => exact .inr ⟨watched, rfl⟩

end Watch

/-! ### Fair runs -/

theorem Moment.canMove_watching {m : Moment} {script : Script} {target : Target} {w : Watch}
    (hphase : m.session.phase = .watching target w)
    (hintime : w.InTime (script.clock m.steps)) : m.CanMove script .operation := by
  have hleads : ∃ actions t, (m.session.step (script.clock m.steps) .operation).Leads
      (script.clock m.steps) actions t := by
    rw [Session.step, Session.operationStep, hphase]
    obtain ⟨actions, w', leads⟩ | ⟨watched, hover⟩ := Watch.exists_leads_or_finish hintime
    · exact ⟨_, _, leads.embed _ _⟩
    · simp only [hover]
      exact ⟨_, _, .goOn _⟩
  obtain ⟨actions, t, leads⟩ := hleads
  exact canMove_operation leads

namespace Play

variable {script : Script} {start : Session}

/-- The operation takes a step **from** a moment to the next one. -/
def StepsAt (play : Play script start) (j : Nat) : Prop :=
  ∃ actions t, ((play.moment j).session.operationStep (script.clock (play.moment j).steps)).Leads
      (script.clock (play.moment j).steps) actions t ∧
    play.moment (j + 1) = ⟨(play.moment j).steps + 1, (play.moment j).trace ++ actions, t⟩

theorem stepsAt_or_stays (play : Play script start) (j : Nat) :
    play.StepsAt j ∨ play.mover j ≠ some .operation ∧
      (play.moment (j + 1)).steps = (play.moment j).steps ∧
      (play.moment (j + 1)).session.phase = (play.moment j).session.phase := by
  have hmoves := play.moves j
  by_cases hmover : play.mover j = some .operation
  · rw [hmover] at hmoves
    generalize hnext : play.moment (j + 1) = next at hmoves
    cases hmoves with
    | operation leads => exact .inl ⟨_, _, leads, hnext⟩
    | other hactor => exact absurd rfl hactor
  · obtain ⟨hsteps, hphase, -⟩ := hmoves.aside hmover
    exact .inr ⟨hmover, hsteps, hphase⟩

/-- In a fair run an operation that can go on, whatever the other actors do, takes its **next step**
sooner or later. -/
theorem exists_next (play : Play script start) (hfair : play.Fair) {k : Nat}
    (hcan : ∀ m : Moment, m.steps = (play.moment k).steps →
      m.session.phase = (play.moment k).session.phase → m.CanMove script .operation) :
    ∃ j, k ≤ j ∧ (play.moment j).steps = (play.moment k).steps ∧
      (play.moment j).session.phase = (play.moment k).session.phase ∧ play.StepsAt j := by
  by_contra hnever
  -- then the operation stands where it stands
  have hstands : ∀ j, k ≤ j → (play.moment j).steps = (play.moment k).steps ∧
      (play.moment j).session.phase = (play.moment k).session.phase := by
    intro j hkj
    induction j, hkj using Nat.le_induction with
    | base => exact ⟨rfl, rfl⟩
    | succ j hkj ih =>
      rcases play.stepsAt_or_stays j with hstep | ⟨-, hsteps, hphase⟩
      · exact absurd ⟨j, hkj, ih.1, ih.2, hstep⟩ hnever
      · exact ⟨hsteps.trans ih.1, hphase.trans ih.2⟩
  obtain ⟨j, hkj, hmover | hcannot⟩ := hfair .operation k
  · obtain ⟨hsteps, hphase⟩ := hstands j hkj
    rcases play.stepsAt_or_stays j with hstep | ⟨hother, -⟩
    · exact hnever ⟨j, hkj, hsteps, hphase, hstep⟩
    · exact hother hmover
  · exact hcannot (hcan _ (hstands j hkj).1 (hstands j hkj).2)

variable {target : Target} {w : Watch} {k : Nat}

/-- A watch whose pause is over in time takes its next step, or the operation stops the others. -/
theorem exists_watch_next (play : Play script start) (hfair : play.Fair)
    (hphase : (play.moment k).session.phase = .watching target w)
    (hintime : w.InTime (script.clock (play.moment k).steps)) :
    ∃ j, k ≤ j ∧ ((∃ actions w', (w.step (script.clock (play.moment k).steps)).Leads
        (script.clock (play.moment k).steps) actions w' ∧
        (play.moment j).session.phase = .watching target w' ∧
        (play.moment j).steps = (play.moment k).steps + 1) ∨
      (play.moment j).session.phase.IsEnding) := by
  obtain ⟨j, hkj, hsteps, hphase', actions, t, leads, hnext⟩ := play.exists_next hfair (k := k)
    fun m hsteps hsame => Moment.canMove_watching (hsame.trans hphase) (hsteps ▸ hintime)
  rw [hsteps, Session.operationStep, hphase', hphase] at leads
  refine ⟨j + 1, Nat.le_succ_of_le hkj, ?_⟩
  rw [hnext, hsteps]
  obtain ⟨w', hstep, rfl⟩ | ⟨watched, -, -, rfl⟩ := Step.leads_embed leads
  · exact .inl ⟨actions, w', hstep, rfl, rfl⟩
  · refine .inr (.inl ?_)
    rw [Session.watched_eq_stop]
    rfl

/-- **A watch ends.** -/
theorem exists_ending_of_watching (play : Play script start) (hfair : play.Fair)
    (hpunctual : play.Punctual) (hphase : (play.moment k).session.phase = .watching target w) :
    ∃ j, k ≤ j ∧ (play.moment j).session.phase.IsEnding := by
  -- by induction on the rank of the watch at the time of the operation's next step
  generalize hrank : w.rank (script.clock (play.moment k).steps).timer = rank
  induction rank using Nat.strong_induction_on generalizing k w with
  | _ rank ih =>
    have hintime := hpunctual.inTime k target w hphase
    obtain ⟨j, hkj, ⟨actions, w', leads, hwatching, hsteps⟩ | hending⟩ :=
      play.exists_watch_next hfair hphase hintime
    · have hlower := Watch.rank_of_leads hintime (hpunctual.onward (Nat.le_succ _)) leads
      obtain ⟨i, hji, hending⟩ := ih _ (hrank ▸ hlower) hwatching (by rw [hsteps])
      exact ⟨i, Nat.le_trans hkj hji, hending⟩
    · exact ⟨j, hkj, hending⟩

/-- Once the watch is over, the operation stops the others. -/
theorem exists_ending_of_over (play : Play script start) (hfair : play.Fair) {watched : Watched}
    (hphase : (play.moment k).session.phase = .watching target w)
    (hover : w.phase = .over watched) : ∃ j, k ≤ j ∧ (play.moment j).session.phase.IsEnding := by
  obtain ⟨j, hkj, ⟨actions, w', leads, -⟩ | hending⟩ :=
    play.exists_watch_next hfair hphase fun _ _ hpausing => nomatch hover.symm.trans hpausing
  · rw [Watch.step, hover] at leads
    cases leads
  · exact ⟨j, hkj, hending⟩

/-- Once the watch has heard what decides, the operation stops the others; the time does not
matter. -/
theorem exists_ending_of_decided (play : Play script start) (hfair : play.Fair) {deadline : Nat}
    {reply : Except ApiError Stack} {watched : Watched}
    (hphase : (play.moment k).session.phase = .watching target w)
    (hheard : w.phase = .heard deadline reply) (hdecides : Watch.verdict? reply = some watched) :
    ∃ j, k ≤ j ∧ (play.moment j).session.phase.IsEnding := by
  obtain ⟨j, hkj, ⟨actions, w', leads, hwatching, -⟩ | hending⟩ :=
    play.exists_watch_next hfair hphase fun _ _ hpausing => nomatch hheard.symm.trans hpausing
  · rw [Watch.step, hheard] at leads
    simp only [hdecides] at leads
    cases leads
    obtain ⟨i, hji, hending⟩ := play.exists_ending_of_over hfair hwatching rfl
    exact ⟨i, Nat.le_trans hkj hji, hending⟩
  · exact ⟨j, hkj, hending⟩

/-! ### Answers -/

theorem exists_trace_eq (play : Play script start) {j : Nat} (hkj : k ≤ j) :
    ∃ more, (play.moment j).trace = (play.moment k).trace ++ more := by
  induction j, hkj using Nat.le_induction with
  | base => exact ⟨[], (List.append_nil _).symm⟩
  | succ j hkj ih =>
    obtain ⟨more, hmore⟩ := ih
    obtain ⟨actions, hactions⟩ := (play.moves j).exists_trace_eq
    exact ⟨more ++ actions, by rw [hactions, hmore, List.append_assoc]⟩

variable {goal : Goal} {stack : String}

theorem attends (play : Play script start) (hstart : start.Attends goal stack []) (k : Nat) :
    (play.moment k).session.Attends goal stack (play.moment k).trace :=
  hstart.runs (play.plays k).runs

/-- Once a look at the stack has shown what decides, the operation is about to end sooner or later.
-/
theorem exists_ending_of_mem_looks (play : Play script start) (hstart : start.Attends goal stack [])
    (hfair : play.Fair) {reply : Except ApiError Stack} {watched : Watched}
    (hmem : reply ∈ looks stack (play.moment k).trace)
    (hdecides : Watch.verdict? reply = some watched) :
    ∃ j, k ≤ j ∧ (play.moment j).session.phase.IsEnding := by
  have hattends := play.attends hstart k
  obtain ⟨target, w, hphase⟩ | hending := hattends.watching_or_ending (setOff_of_mem_looks hmem)
  · simp only [Session.Attends, hphase] at hattends
    obtain ⟨-, -, -, -, -, hheeds⟩ := hattends
    have hdecided : ¬ Watch.Undecided (looks stack (play.moment k).trace) := fun h =>
      absurd ((h reply hmem).symm.trans hdecides) (by simp)
    rw [Watch.Heeds] at hheeds
    cases hw : w.phase with
    | waiting | asking | pausing =>
      simp only [hw] at hheeds
      exact absurd hheeds hdecided
    | heard deadline last =>
      simp only [hw] at hheeds
      obtain ⟨earlier, hlooks, hearlier⟩ := hheeds
      rw [hlooks, List.mem_append] at hmem
      rcases hmem with hmem | hmem
      · exact absurd ((hearlier reply hmem).symm.trans hdecides) (by simp)
      · exact play.exists_ending_of_decided hfair hphase hw (List.mem_singleton.mp hmem ▸ hdecides)
    | «over» result => exact play.exists_ending_of_over hfair hphase hw
  · exact ⟨k, Nat.le_refl k, hending⟩

theorem mem_looks_of_le (play : Play script start) {reply : Except ApiError Stack}
    (hmem : reply ∈ looks stack (play.moment k).trace) {j : Nat} (hkj : k ≤ j) :
    reply ∈ looks stack (play.moment j).trace := by
  obtain ⟨more, hmore⟩ := play.exists_trace_eq hkj
  rw [hmore, looks_append (setOff_of_mem_looks hmem)]
  exact List.mem_append_left _ hmem

/-- **A change that is set off has an outcome.** A fair and punctual run in which a change is set
off comes to an outcome, if histories are finite. -/
theorem exists_over_of_setOff (play : Play script start) (hstaged : start.Staged)
    (hstart : start.Attends goal stack []) (hfair : play.Fair) (hfinite : play.FiniteHistories)
    (hpunctual : play.Punctual) (hoff : SetOff (play.moment k).trace) :
    ∃ j outcome, k ≤ j ∧ (play.moment j).session.phase = .over outcome := by
  obtain ⟨i, hki, hending⟩ : ∃ i, k ≤ i ∧ (play.moment i).session.phase.IsEnding := by
    obtain ⟨target, w, hphase⟩ | hending := (play.attends hstart k).watching_or_ending hoff
    · exact play.exists_ending_of_watching hfair hpunctual hphase
    · exact ⟨k, Nat.le_refl k, hending⟩
  obtain ⟨j, outcome, hij, hover⟩ := play.exists_over_of_ending hstaged hfair hfinite hending
  exact ⟨j, outcome, Nat.le_trans hki hij, hover⟩

end Play

end StackDeploy
