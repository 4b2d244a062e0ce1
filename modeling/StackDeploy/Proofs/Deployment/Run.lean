import StackDeploy.Deployment.Schedule
import StackDeploy.Proofs.Deployment.Progress

/-!
# Runs of sessions

A session is run by taking steps of its actors in any order, at any time, with any replies and any
results of writes. Every such run leaves a **trace**, the list of its actions. What holds of every
run holds in particular of the schedule that the program follows.

* `Session.Runs` — the runs from a session, with their traces.
* `Session.Runs.induct` — what the start has and every step keeps, every run keeps.
* `Session.runs_of_run` — the program's schedule, against any host that answers by its own state,
  yields such a run, and the outcome it reports is the one the session has come to.
-/

namespace StackDeploy

namespace Session

/-! ### Runs -/

/-- A session **moves** when one of its actors takes a step, or when its feed is cancelled from
outside. -/
inductive Moves (s : Session) : List Action → Session → Prop
  | step {clock : Clock} {actor : Actor} {actions : List Action} {t : Session}
      (h : (s.step clock actor).Leads clock actions t) : Moves s actions t
  | cancel : Moves s [] s.cancel

/-- The **runs** from a session: the actions so far, and the session they have led to. -/
inductive Runs (start : Session) : List Action → Session → Prop
  | start : Runs start [] start
  | move {trace actions : List Action} {s t : Session} (run : Runs start trace s)
      (moves : s.Moves actions t) : Runs start (trace ++ actions) t

/-- **Invariants.** What the start has and every move keeps holds after every run. -/
theorem Runs.induct {start : Session} {P : List Action → Session → Prop} (hstart : P [] start)
    (hmove : ∀ trace s actions t, P trace s → s.Moves actions t → P (trace ++ actions) t)
    {trace : List Action} {s : Session} (run : Runs start trace s) : P trace s := by
  induction run with
  | start => exact hstart
  | move _ moves ih => exact hmove _ _ _ _ ih moves

/-- A move takes at most one action. -/
theorem Moves.actions_eq {s t : Session} {actions : List Action} (h : s.Moves actions t) :
    actions = [] ∨ ∃ a, actions = [a] := by
  cases h with
  | step hleads => exact hleads.actions_eq
  | cancel => exact .inl rfl

/-- A move has at most one action, so a trace obeys a rule after the move if the actions of the move
are allowed by the trace before it. -/
theorem Moves.obeys {allowed : List Action → Action → Prop} {trace actions : List Action}
    {s t : Session} (moves : s.Moves actions t) (h : Obeys allowed trace)
    (hactions : ∀ a ∈ actions, allowed trace a) : Obeys allowed (trace ++ actions) := by
  rcases moves.actions_eq with rfl | ⟨a, rfl⟩
  · rwa [List.append_nil]
  · exact obeys_append_singleton.mpr ⟨h, hactions a (List.mem_singleton_self a)⟩

/-- Runs can be put together. -/
theorem Runs.trans {a b c : Session} {first second : List Action} (hab : Runs a first b)
    (hbc : Runs b second c) : Runs a (first ++ second) c := by
  induction hbc with
  | start => simpa using hab
  | move _ moves ih => simpa [List.append_assoc] using ih.move moves

theorem Moves.run {s t : Session} {actions : List Action} (h : s.Moves actions t) :
    Runs s actions t := by
  simpa using Runs.start.move h

/-! ### The other actors -/

end Session

/-- The action is one that the feed or the painter takes: they ask for events and rollouts, and
write. -/
def Action.isProgress : Action → Bool
  | .call (.describeStackEvents _ _) _ | .call (.resolveRollout _) _ | .write _ _ => true
  | _ => false

/-- A feed asks for nothing but events. -/
theorem Progress.FeedGoes.isProgress {clock : Clock} {p p' : Progress} {actions : List Action}
    {published : List Batch} (h : p.FeedGoes clock actions published p') :
    ∀ a ∈ actions, a.isProgress := by
  cases h <;> simp [Action.isProgress]

/-- A painter asks for nothing but rollouts, and writes. -/
theorem Progress.PainterGoes.isProgress {p p' : Progress} {actions : List Action}
    (h : p.PainterGoes actions p') : ∀ a ∈ actions, a.isProgress := by
  cases h <;> simp [Action.isProgress]

theorem Progress.feedStep_ne_finish {α : Type} (p : Progress) (clock : Clock) (a : α) :
    p.feedStep clock ≠ .finish a := by
  rw [feedStep]
  split
  · simp
  · split
    · simp
    · split <;> simp
  · simp
  · simp
  · simp

theorem Progress.painterStep_ne_finish {α : Type} (p : Progress) (a : α) :
    p.painterStep ≠ .finish a := by
  rw [painterStep]
  split
  · split
    · simp
    · split <;> simp
  · simp
  · simp
  · simp
  · simp

namespace Session

variable {clock : Clock} {s t : Session} {actions : List Action}

/-- A step of the feed changes nothing but the progress. -/
theorem feedGoes_of_leads (h : (s.step clock .feed).Leads clock actions t) :
    ∃ p p' published, s.progress = some p ∧ t = { s with progress := some p' } ∧
      p.FeedGoes clock actions published p' := by
  rw [step] at h
  cases hp : s.progress with
  | none =>
    simp only [hp] at h
    cases h
  | some p =>
    simp only [hp] at h
    rcases Step.leads_embed h with ⟨p', hleads, ht⟩ | ⟨a, hfinish, -⟩
    · obtain ⟨published, goes⟩ := Progress.feedGoes_of_leads hleads
      exact ⟨p, p', published, rfl, ht, goes⟩
    · exact absurd hfinish (p.feedStep_ne_finish clock a)

/-- A step of the painter changes nothing but the progress. -/
theorem painterGoes_of_leads (h : (s.step clock .painter).Leads clock actions t) :
    ∃ p p', s.progress = some p ∧ t = { s with progress := some p' } ∧
      p.PainterGoes actions p' := by
  rw [step] at h
  cases hp : s.progress with
  | none =>
    simp only [hp] at h
    cases h
  | some p =>
    simp only [hp] at h
    rcases Step.leads_embed h with ⟨p', hleads, ht⟩ | ⟨a, hfinish, -⟩
    · exact ⟨p, p', rfl, ht, Progress.painterGoes_of_leads hleads⟩
    · exact absurd hfinish (p.painterStep_ne_finish a)

/-- The feed and the painter change nothing but the progress. -/
theorem progress_of_leads {actor : Actor} (hactor : actor ≠ .operation)
    (h : (s.step clock actor).Leads clock actions t) :
    ∃ p p', s.progress = some p ∧ t = { s with progress := some p' } ∧
      ∀ a ∈ actions, a.isProgress := by
  cases actor with
  | operation => exact absurd rfl hactor
  | feed =>
    obtain ⟨p, p', published, hp, ht, goes⟩ := feedGoes_of_leads h
    exact ⟨p, p', hp, ht, goes.isProgress⟩
  | painter =>
    obtain ⟨p, p', hp, ht, goes⟩ := painterGoes_of_leads h
    exact ⟨p, p', hp, ht, goes.isProgress⟩

/-! ### The schedule -/

/-- The step that a turn takes is a step of the list, or the end of a pause that is due. -/
theorem mem_of_ofSteps_eq_take {now : Nat} {steps : List (Step Session Outcome)}
    {step : Step Session Outcome} (h : Turn.ofSteps now steps = .take step) :
    step ∈ steps ∨
      ∃ deadline s, .pause deadline s ∈ steps ∧ deadline ≤ now ∧ step = .goOn s := by
  induction steps with
  | nil => cases h
  | cons first rest ih =>
    -- a turn passes over what is blocked and over pauses that are not due
    have hrest (hr : Turn.ofSteps now rest = .take step) :
        step ∈ first :: rest ∨
          ∃ deadline s, .pause deadline s ∈ first :: rest ∧ deadline ≤ now ∧ step = .goOn s := by
      rcases ih hr with hmem | ⟨deadline, s, hmem, hdue⟩
      · exact .inl (List.mem_cons_of_mem _ hmem)
      · exact .inr ⟨deadline, s, List.mem_cons_of_mem _ hmem, hdue⟩
    cases first with
    | blocked => exact hrest (by simpa [Turn.ofSteps] using h)
    | pause deadline s =>
      by_cases hdue : deadline ≤ now
      · simp only [Turn.ofSteps, if_pos hdue, Turn.take.injEq] at h
        exact .inr ⟨deadline, s, List.mem_cons_self, hdue, h.symm⟩
      · simp only [Turn.ofSteps, if_neg hdue] at h
        cases hr : Turn.ofSteps now rest with
        | take other =>
          simp only [hr, Turn.take.injEq] at h
          exact hrest (h ▸ hr)
        | sleep other => simp [hr] at h
        | stuck => simp [hr] at h
    | call request resume =>
      simp only [Turn.ofSteps, Turn.take.injEq] at h
      exact .inl (h ▸ List.mem_cons_self)
    | write text resume =>
      simp only [Turn.ofSteps, Turn.take.injEq] at h
      exact .inl (h ▸ List.mem_cons_self)
    | goOn s =>
      simp only [Turn.ofSteps, Turn.take.injEq] at h
      exact .inl (h ▸ List.mem_cons_self)
    | finish outcome =>
      simp only [Turn.ofSteps, Turn.take.injEq] at h
      exact .inl (h ▸ List.mem_cons_self)

/-- Whatever the step of a turn leads to is a move of the session. -/
theorem moves_of_turn {clock : Clock} {s t : Session} {step : Step Session Outcome}
    {actions : List Action} (hturn : s.turn clock = .take step)
    (hleads : step.Leads clock actions t) : s.Moves actions t := by
  rcases mem_of_ofSteps_eq_take hturn with hmem | ⟨deadline, other, hmem, hdue, rfl⟩
  · obtain ⟨actor, -, rfl⟩ := List.mem_map.mp hmem
    exact .step hleads
  · obtain ⟨actor, -, hstep⟩ := List.mem_map.mp hmem
    cases hleads with
    | goOn =>
      -- the turn has replaced the pause by its end
      have hwake : (s.step clock actor).Leads clock [] t := hstep ▸ Step.Leads.wake t hdue
      exact .step hwake

/-- Only the operation finishes a session, and it does so with its outcome. -/
theorem phase_of_step_eq_finish {clock : Clock} {s : Session} {actor : Actor} {outcome : Outcome}
    (h : s.step clock actor = .finish outcome) : s.phase = .over outcome := by
  cases actor with
  | operation =>
    rw [step, operationStep] at h
    cases hphase : s.phase with
    | «over» other =>
      simp only [hphase, Step.finish.injEq] at h
      rw [h]
    | stopping target ending =>
      simp only [hphase] at h
      split at h <;> cases h
    | following =>
      simp only [hphase] at h
      split at h
      · cases h
      · split at h <;> cases h
    | _ => simp [hphase] at h
  | feed =>
    rw [step] at h
    split at h
    · cases h
    · exact absurd h (Step.embed_ne_finish _ _ _ _)
  | painter =>
    rw [step] at h
    split at h
    · cases h
    · exact absurd h (Step.embed_ne_finish _ _ _ _)

end Session

/-! ### Hosts that keep a log -/

variable {ω : Type}

/-- A host that notes every action in a log, newest last, and otherwise does as the given one. -/
def Host.logged (host : Host (StateM ω)) : Host (StateM (ω × List Action)) where
  call request := fun p =>
    let (reply, w) := host.call request p.1
    (reply, (w, p.2 ++ [.call request reply]))
  write text := fun p =>
    let (result, w) := host.write text p.1
    (result, (w, p.2 ++ [.write text result]))
  clock := fun p => ((host.clock p.1).1, ((host.clock p.1).2, p.2))
  sleepUntil deadline := fun p => ((), ((host.sleepUntil deadline p.1).2, p.2))
  interrupted := fun p => ((host.interrupted p.1).1, ((host.interrupted p.1).2, p.2))

theorem Host.logged_clock (host : Host (StateM ω)) (w : ω) (log : List Action) :
    host.logged.clock (w, log) = ((host.clock w).1, ((host.clock w).2, log)) := rfl

theorem Host.logged_interrupted (host : Host (StateM ω)) (w : ω) (log : List Action) :
    host.logged.interrupted (w, log) =
      ((host.interrupted w).1, ((host.interrupted w).2, log)) := rfl

namespace Session

/-- One turn of the schedule against a host that answers by its own state. -/
theorem run_succ (host : Host (StateM ω)) (fuel : Nat) (s : Session) (w : ω) :
    Session.run host (fuel + 1) s w =
      let asked := host.interrupted w
      let s := if asked.1 then s.cancel else s
      let now := host.clock asked.2
      match s.turn now.1 with
      | .take (.call request resume) =>
        Session.run host fuel (resume (host.call request now.2).1) (host.call request now.2).2
      | .take (.write text resume) =>
        Session.run host fuel (resume (host.write text now.2).1) (host.write text now.2).2
      | .take (.goOn s) => Session.run host fuel s now.2
      | .take (.finish outcome) => (some outcome, now.2)
      | .take (.pause _ _) | .take .blocked | .stuck => (none, now.2)
      | .sleep deadline => Session.run host fuel s (host.sleepUntil deadline now.2).2 := by
  rw [Session.run]
  simp only [bind, StateT.bind]
  rcases host.interrupted w with ⟨asked, w₁⟩
  dsimp only
  rcases host.clock w₁ with ⟨now, w₂⟩
  dsimp only
  cases Session.turn now (if asked then s.cancel else s) with
  | take step => cases step <;> rfl
  | sleep deadline => rfl
  | stuck => rfl

/-- **The schedule follows the runs.** What the program's schedule does against a host, as a log of
it shows, is a run of the session, and the outcome that it reports is the one that the session has
come to. Keeping the log changes nothing else. -/
theorem runs_of_run (host : Host (StateM ω)) (fuel : Nat) (s : Session) (w : ω)
    (log : List Action) :
    ∃ trace t w' outcome?, s.Runs trace t ∧
      Session.run host fuel s w = (outcome?, w') ∧
      Session.run host.logged fuel s (w, log) = (outcome?, (w', log ++ trace)) ∧
      ∀ outcome, outcome? = some outcome → t.phase = .over outcome := by
  induction fuel generalizing s w log with
  | zero => exact ⟨[], s, w, none, .start, rfl, by rw [List.append_nil]; rfl, by simp⟩
  | succ fuel ih =>
    rw [run_succ, run_succ, Host.logged_interrupted]
    dsimp only
    rw [Host.logged_clock]
    generalize hs : (if (host.interrupted w).1 then s.cancel else s) = s₁
    generalize host.clock (host.interrupted w).2 = now
    have hstart : s.Runs [] s₁ := by
      subst hs
      split
      · exact Moves.run .cancel
      · exact .start
    -- one move, and then the rest of the schedule
    have hgo {actions : List Action} {t : Session} (w : ω) (hmoves : s₁.Moves actions t) :
        ∃ trace u w' outcome?, s.Runs trace u ∧
          Session.run host fuel t w = (outcome?, w') ∧
          Session.run host.logged fuel t (w, log ++ actions) = (outcome?, (w', log ++ trace)) ∧
          ∀ outcome, outcome? = some outcome → u.phase = .over outcome := by
      obtain ⟨trace, u, w', outcome?, hrun, hplain, hlogged, hover⟩ := ih t w (log ++ actions)
      refine ⟨actions ++ trace, u, w', outcome?, ?_, hplain, ?_, hover⟩
      · simpa using hstart.trans (hmoves.run.trans hrun)
      · rw [hlogged, List.append_assoc]
    cases hturn : s₁.turn now.1 with
    | take step =>
      cases step with
      | call request resume => exact hgo _ (moves_of_turn hturn (.call _ _ _))
      | write text resume => exact hgo _ (moves_of_turn hturn (.write _ _ _))
      | goOn t => simpa using hgo now.2 (moves_of_turn hturn (.goOn t))
      | finish outcome =>
        refine ⟨[], s₁, now.2, some outcome, hstart, rfl, by simp, fun other hother => ?_⟩
        obtain rfl : outcome = other := Option.some.inj hother
        rcases mem_of_ofSteps_eq_take hturn with hmem | ⟨_, _, _, _, hstep⟩
        · obtain ⟨actor, -, hstep⟩ := List.mem_map.mp hmem
          exact phase_of_step_eq_finish hstep
        · cases hstep
      | pause deadline t => exact ⟨[], s₁, now.2, none, hstart, rfl, by simp, by simp⟩
      | blocked => exact ⟨[], s₁, now.2, none, hstart, rfl, by simp, by simp⟩
    | sleep deadline =>
      -- the session does not take part in the sleep of its host
      obtain ⟨trace, t, w', outcome?, hrun, hplain, hlogged, hover⟩ :=
        ih s₁ (host.sleepUntil deadline now.2).2 log
      exact ⟨trace, t, w', outcome?, by simpa using hstart.trans hrun, hplain, hlogged, hover⟩
    | stuck => exact ⟨[], s₁, now.2, none, hstart, rfl, by simp, by simp⟩

end Session

end StackDeploy
