import StackDeploy.Deployment.Session
import StackDeploy.Proofs.Progress.Painting
import StackDeploy.Proofs.Stream.Feed

/-!
# What the feed and the painter do

The feed and the painter of a session share a queue. Each way in which one of them goes on is one
case, with the actions that it takes and, for the feed, the batches that it publishes.

* `Progress.feedGoes_of_leads`, `Progress.painterGoes_of_leads` — there are no other ways.
* `Progress.exists_feedStep_leads`, `Progress.exists_painterStep_leads` — when they can go on.
-/

namespace StackDeploy

namespace Progress

/-- The feed **goes on** in one of these ways. Batches are queued as long as the painter works. -/
inductive FeedGoes (clock : Clock) (p : Progress) : List Action → List Batch → Progress → Prop
  | page {stack : String} {token : Option String} {reply : Except ApiError EventPage} {f : Feed}
      (leads : (p.feed.step clock p.cancelled).Leads clock [.page stack token reply] f) :
      FeedGoes clock p [.call (.describeStackEvents stack token) reply] [] { p with feed := f }
  | quiet {f : Feed} (leads : (p.feed.step clock p.cancelled).Leads clock [] f) :
      FeedGoes clock p [] [] { p with feed := f }
  | queued {batch : Batch} {f : Feed}
      (leads : (p.feed.step clock p.cancelled).Leads clock [.publish batch] f)
      (hopen : p.painter.result? = none) (hroom : p.queue.length < queueCapacity) :
      FeedGoes clock p [] [batch] { p with feed := f, queue := p.queue ++ [batch] }
  | dropped {batch : Batch} {f : Feed}
      (leads : (p.feed.step clock p.cancelled).Leads clock [.publish batch] f)
      (hover : p.painter.result?.isSome) :
      FeedGoes clock p [] [batch] { p with feed := f }

/-- There are no other ways. -/
theorem feedGoes_of_leads {α : Type} {clock : Clock} {p p' : Progress} {actions : List Action}
    (h : (p.feedStep clock : Step Progress α).Leads clock actions p') :
    ∃ published, p.FeedGoes clock actions published p' := by
  rw [feedStep] at h
  cases hstep : p.feed.step clock p.cancelled with
  | call request resume =>
    simp only [hstep] at h
    cases h with
    | call _ _ reply =>
      have leads : (p.feed.step clock p.cancelled).Leads clock [.call request reply]
          (resume reply) := hstep ▸ .call request resume reply
      dsimp only
      generalize resume reply = f at leads ⊢
      -- a feed asks for nothing but pages
      cases Feed.goes_of_leads leads with
      | page => exact ⟨[], .page leads⟩
  | publish batch next =>
    have leads : (p.feed.step clock p.cancelled).Leads clock [.publish batch] next :=
      hstep ▸ .publish batch next
    simp only [hstep] at h
    split at h
    next hover =>
      cases h
      exact ⟨[batch], .dropped leads hover⟩
    next hopen =>
      split at h
      next hroom =>
        cases h
        exact ⟨[batch], .queued leads (by simpa using hopen) hroom⟩
      · cases h
  | goOn next =>
    simp only [hstep] at h
    cases h
    exact ⟨[], .quiet (hstep ▸ .goOn next)⟩
  | pause deadline next =>
    simp only [hstep] at h
    cases h with
    | wake _ due => exact ⟨[], .quiet (hstep ▸ .wake next due)⟩
  | «over» result =>
    simp only [hstep] at h
    cases h

/-- The painter **goes on** in one of these ways. -/
inductive PainterGoes (p : Progress) : List Action → Progress → Prop
  | receive {batch : Batch} {queue : List Batch} (hphase : p.painter.phase = .receiving)
      (hqueue : p.queue = batch :: queue) :
      PainterGoes p [] { p with painter := p.painter.receive batch, queue }
  | close (hphase : p.painter.phase = .receiving) (hqueue : p.queue = [])
      (hfeed : p.feed.result?.isSome) : PainterGoes p [] { p with painter := p.painter.close }
  | apply {e : StreamEvent} {rest : Batch} {display : Display}
      (hphase : p.painter.phase = .applying (e :: rest))
      (hnotify : p.painter.display.notify e = (display, none)) :
      PainterGoes p [] { p with painter := ⟨display, .applying rest⟩ }
  | ask {e : StreamEvent} {rest : Batch} {display : Display} {lookup : Display.Lookup}
      (hphase : p.painter.phase = .applying (e :: rest))
      (hnotify : p.painter.display.notify e = (display, some lookup)) :
      PainterGoes p [] { p with painter := ⟨display, .asking lookup rest⟩ }
  | answered {lookup : Display.Lookup} {rest : Batch}
      (hphase : p.painter.phase = .asking lookup rest) (reply : Except ApiError Rollout) :
      PainterGoes p [.call (.resolveRollout lookup.ref) reply]
        { p with painter := ⟨p.painter.display.answered lookup reply, .applying rest⟩ }
  | applied (hphase : p.painter.phase = .applying []) :
      PainterGoes p [] { p with painter := ⟨p.painter.display, .drawing⟩ }
  | drawn (hphase : p.painter.phase = .drawing) :
      PainterGoes p [.write p.painter.display.frame (.ok ())]
        { p with painter := ⟨p.painter.display.redrawn, .receiving⟩ }
  | failed (hphase : p.painter.phase = .drawing) (message : String) :
      PainterGoes p [.write p.painter.display.frame (.error message)]
        { p with painter := ⟨p.painter.display, .over (.error message)⟩ }

theorem PainterGoes.of_goes {p : Progress} {actions : List Action} {painter : Painter}
    (goes : p.painter.Goes actions painter) : p.PainterGoes actions { p with painter } := by
  cases goes with
  | apply hphase hnotify => exact .apply hphase hnotify
  | ask hphase hnotify => exact .ask hphase hnotify
  | answered hphase reply => exact .answered hphase reply
  | applied hphase => exact .applied hphase
  | drawn hphase => exact .drawn hphase
  | failed hphase message => exact .failed hphase message

/-- There are no other ways. -/
theorem painterGoes_of_leads {α : Type} {clock : Clock} {p p' : Progress} {actions : List Action}
    (h : (p.painterStep : Step Progress α).Leads clock actions p') : p.PainterGoes actions p' := by
  -- apart from waiting, the painter does with its batch what it does by itself
  have hbatch {painter : Painter}
      (leads : (p.painter.batchStep clock).Leads clock actions painter) :
      p.PainterGoes actions { p with painter } := .of_goes (Painter.goes_of_leads leads)
  rw [painterStep] at h
  rw [Painter.batchStep] at hbatch
  cases hstep : p.painter.step with
  | receive =>
    have hphase := Painter.phase_of_step_eq_receive hstep
    simp only [hstep] at h
    split at h
    next hqueue =>
      cases h
      exact .receive hphase hqueue
    next hqueue =>
      split at h
      next hfeed =>
        cases h
        exact .close hphase hqueue hfeed
      · cases h
  | call request resume =>
    simp only [hstep] at h hbatch
    cases h with
    | call _ _ reply => exact hbatch (.call request resume reply)
  | write text resume =>
    simp only [hstep] at h hbatch
    cases h with
    | write _ _ written => exact hbatch (.write text resume written)
  | goOn next =>
    simp only [hstep] at h hbatch
    cases h
    exact hbatch (.goOn next)
  | «over» =>
    simp only [hstep] at h
    cases h

/-! ### When they can go on -/

variable {α : Type} {p : Progress}

/-- A cancelled feed can go on until it is over, unless the queue is full. -/
theorem exists_feedStep_leads (clock : Clock) (hcancelled : p.cancelled = true)
    (hfeed : p.feed.result? = none)
    (hroom : p.queue.length < queueCapacity ∨ p.painter.result?.isSome) :
    ∃ actions p', (p.feedStep clock : Step Progress α).Leads clock actions p' := by
  rw [feedStep, hcancelled, Feed.step]
  cases hphase : p.feed.phase with
  | ready => exact ⟨_, _, .goOn _⟩
  | polling round poll =>
    cases hstep : poll.step with
    | call request resume =>
      simp only [hstep]
      exact ⟨_, _, .call _ _ (.error (.http ""))⟩
    | done outcome =>
      simp only [hstep]
      exact ⟨_, _, .goOn _⟩
  | publishing round batch result =>
    simp only
    split
    · exact ⟨_, _, .goOn _⟩
    next hopen =>
      rw [if_pos (hroom.resolve_right hopen)]
      exact ⟨_, _, .goOn _⟩
  | pausing deadline => exact ⟨_, _, .goOn _⟩
  | «over» result =>
    rw [Feed.result?, hphase] at hfeed
    cases hfeed

/-- A painter can go on until it is over, unless it has to wait for the feed. -/
theorem exists_painterStep_leads (clock : Clock) (hpainter : p.painter.result? = none)
    (hfeed : p.queue ≠ [] ∨ p.feed.result?.isSome ∨ p.painter.phase ≠ .receiving) :
    ∃ actions p', (p.painterStep : Step Progress α).Leads clock actions p' := by
  rw [painterStep, Painter.step]
  cases hphase : p.painter.phase with
  | receiving =>
    cases hqueue : p.queue with
    | cons batch queue => exact ⟨_, _, .goOn _⟩
    | nil =>
      simp only
      rw [if_pos (by simpa [hqueue, hphase] using hfeed)]
      exact ⟨_, _, .goOn _⟩
  | applying rest =>
    cases rest with
    | nil => exact ⟨_, _, .goOn _⟩
    | cons e rest =>
      rcases hnotify : p.painter.display.notify e with ⟨display, _ | lookup⟩
      · simp only [hnotify]
        exact ⟨_, _, .goOn _⟩
      · simp only [hnotify]
        exact ⟨_, _, .goOn _⟩
  | asking lookup rest => exact ⟨_, _, .call _ _ (.error (.http ""))⟩
  | drawing => exact ⟨_, _, .write _ _ (.ok ())⟩
  | «over» result =>
    rw [Painter.result?, hphase] at hpainter
    cases hpainter

end Progress

end StackDeploy
