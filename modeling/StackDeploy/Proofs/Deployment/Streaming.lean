import StackDeploy.Proofs.Deployment.Publication
import StackDeploy.Proofs.Deployment.Review
import StackDeploy.Proofs.Progress.Painting

/-!
# From the feed to the display

Every batch that the feed of an operation publishes is painted, unless a drawing could not be
written: it waits in the queue, or the painter is at work on it, or it has been painted. The
operation returns only when both actors have ended, and then the first two are ruled out.

* `Progress.Accounts` — where every published batch is.
* `no_batch_is_lost` — what holds when a deployment or a deletion returns.
-/

namespace StackDeploy

/-! ### Where every batch is -/

namespace Progress

/-- The progress **accounts** for the published batches: some have been painted, the painter is at
work on the next one or waits for it, and the others are in the queue. A painter that ended well has
painted them all, and the feed has ended before it. -/
def Accounts (first : Painting) (published : List Batch) (drawings : List String) (p : Progress) :
    Prop :=
  match p.painter.phase with
  | .receiving => ∃ done, first.paintAll? done = some ⟨p.painter.display, [], drawings⟩ ∧
      published = done ++ p.queue
  | .applying rest => ∃ done before seen, first.paintAll? done = some before ∧
      before.seeAll? seen = some ⟨p.painter.display, [], drawings⟩ ∧
      published = done ++ (seen ++ rest) :: p.queue
  | .asking lookup rest => ∃ done before seen display e, first.paintAll? done = some before ∧
      before.seeAll? seen = some ⟨display, [], drawings⟩ ∧
      display.notify e = (p.painter.display, some lookup) ∧
      published = done ++ (seen ++ e :: rest) :: p.queue
  | .drawing => ∃ done before batch, first.paintAll? done = some before ∧
      before.seeAll? batch = some ⟨p.painter.display, [], drawings⟩ ∧
      published = done ++ batch :: p.queue
  | .over (.ok ()) => first.paintAll? published = some ⟨p.painter.display, [], drawings⟩ ∧
      p.feed.result?.isSome
  | .over (.error _) => False

variable {first : Painting} {published more : List Batch} {drawings : List String}
  {p p' : Progress} {clock : Clock} {actions : List Action}

/-- What a feed publishes is put into the queue. -/
theorem Accounts.queue (h : p.Accounts first published drawings) (hfeed : p.feed.result? = none)
    (f : Feed) (more : List Batch) :
    Accounts first (published ++ more) drawings { p with feed := f, queue := p.queue ++ more } := by
  rw [Accounts] at h ⊢
  cases hphase : p.painter.phase with
  | receiving =>
    simp only [hphase] at h ⊢
    obtain ⟨done, painted, rfl⟩ := h
    exact ⟨done, painted, List.append_assoc _ _ _⟩
  | applying rest =>
    simp only [hphase] at h ⊢
    obtain ⟨done, before, seen, painted, hseen, rfl⟩ := h
    exact ⟨done, before, seen, painted, hseen, List.append_assoc _ _ _⟩
  | asking lookup rest =>
    simp only [hphase] at h ⊢
    obtain ⟨done, before, seen, display, e, painted, hseen, hnotify, rfl⟩ := h
    exact ⟨done, before, seen, display, e, painted, hseen, hnotify, List.append_assoc _ _ _⟩
  | drawing =>
    simp only [hphase] at h ⊢
    obtain ⟨done, before, batch, painted, hseen, rfl⟩ := h
    exact ⟨done, before, batch, painted, hseen, List.append_assoc _ _ _⟩
  | «over» result =>
    simp only [hphase] at h ⊢
    cases result with
    | ok =>
      rw [hfeed] at h
      cases h.2
    | error message => exact h

/-- A painter that accounts for its batches ends after the feed. -/
theorem Accounts.painter_result? (h : p.Accounts first published drawings)
    (hfeed : p.feed.result? = none) : p.painter.result? = none := by
  rw [Accounts] at h
  rw [Painter.result?]
  split
  next result hphase =>
    simp only [hphase] at h
    cases result with
    | ok =>
      rw [hfeed] at h
      cases h.2
    | error message => exact h.elim
  · rfl

/-- A painter that has ended has painted all batches. -/
theorem Accounts.painted (h : p.Accounts first published drawings)
    (hover : p.painter.result?.isSome) :
    first.paintAll? published = some ⟨p.painter.display, [], drawings⟩ ∧
      p.tree? = some p.painter.display.tree := by
  rw [Accounts] at h
  rw [tree?, Painter.result?]
  rw [Painter.result?] at hover
  cases hphase : p.painter.phase with
  | «over» result =>
    simp only [hphase] at h ⊢
    cases result with
    | ok => exact ⟨h.1, rfl⟩
    | error message => exact h.elim
  | _ =>
    rw [hphase] at hover
    cases hover

/-- There is no stream error if the feed ended well, and only then. -/
theorem streamError?_eq_none_iff (p : Progress) (hover : p.feed.result?.isSome) :
    p.streamError? = none ↔ p.feed.result? = some (.ok ()) := by
  obtain ⟨result, hresult⟩ := Option.isSome_iff_exists.mp hover
  rw [streamError?, hresult]
  cases result <;> simp

theorem Accounts.feed (h : p.Accounts first published drawings)
    (goes : p.FeedGoes clock actions more p') :
    p'.Accounts first (published ++ more) drawings := by
  have hfeed := goes.result?_eq_none
  cases goes with
  | @page _ _ _ f | @quiet f => simpa using h.queue hfeed f []
  | @queued batch f => exact h.queue hfeed f [batch]
  | dropped _ hover =>
    -- batches are dropped only when a drawing could not be written
    rw [h.painter_result? hfeed] at hover
    cases hover

/-- The painter goes through the batches in their order, and what it draws is written. -/
theorem Accounts.painter (h : p.Accounts first published drawings) (goes : p.PainterGoes actions p')
    (hwritten : ∀ a ∈ actions, a.isFailedWrite = false) :
    p'.Accounts (first.hearing (rollouts actions)) published (drawings ++ writes actions) := by
  -- steps without an action
  have hsilent {p' : Progress} (hp' : p'.Accounts first published drawings) :
      p'.Accounts (first.hearing (rollouts [])) published (drawings ++ writes []) := by
    rwa [rollouts, writes, List.filterMap_nil, List.filterMap_nil, List.append_nil,
      Painting.hearing_nil]
  rw [Accounts] at h
  cases goes with
  | receive hphase hqueue =>
    simp only [hphase] at h
    obtain ⟨done, painted, rfl⟩ := h
    exact hsilent ⟨done, _, [], painted, rfl, by rw [hqueue]; rfl⟩
  | close hphase hqueue hfeed =>
    simp only [hphase] at h
    obtain ⟨done, painted, rfl⟩ := h
    refine hsilent ⟨?_, hfeed⟩
    rw [hqueue, List.append_nil]
    exact painted
  | apply hphase hnotify =>
    simp only [hphase] at h
    obtain ⟨done, before, seen, painted, hseen, rfl⟩ := h
    refine hsilent ⟨done, before, _, painted,
      Painting.seeAll?_concat hseen (Painting.see?_of_plain hnotify), ?_⟩
    rw [List.append_assoc, List.singleton_append]
  | ask hphase hnotify =>
    simp only [hphase] at h
    obtain ⟨done, before, seen, painted, hseen, rfl⟩ := h
    exact hsilent ⟨done, before, seen, _, _, painted, hseen, hnotify, rfl⟩
  | answered hphase reply =>
    simp only [hphase] at h
    obtain ⟨done, before, seen, display, e, painted, hseen, hnotify, rfl⟩ := h
    -- what has been painted before stays as it is when the answer comes in
    have hheard := Painting.seeAll?_hearing hseen [reply]
    have hsee := Painting.see?_of_lookup
      (w := ⟨display, [reply], drawings⟩) hnotify rfl
    show Accounts (first.hearing [reply]) _ (drawings ++ []) _
    rw [List.append_nil]
    refine ⟨done, _, _, Painting.paintAll?_hearing painted [reply],
      Painting.seeAll?_concat hheard hsee, ?_⟩
    rw [List.append_assoc, List.singleton_append]
  | applied hphase =>
    simp only [hphase] at h
    obtain ⟨done, before, seen, painted, hseen, rfl⟩ := h
    exact hsilent ⟨done, before, seen, painted, hseen, by rw [List.append_nil]⟩
  | drawn hphase =>
    simp only [hphase] at h
    obtain ⟨done, before, batch, painted, hseen, rfl⟩ := h
    show Accounts (first.hearing []) _ (drawings ++ [p.painter.display.frame]) _
    rw [Painting.hearing_nil]
    refine ⟨_, Painting.paintAll?_concat painted hseen, ?_⟩
    rw [List.append_assoc, List.singleton_append]
  | failed hphase message => cases hwritten _ (List.mem_singleton_self _)

end Progress

/-! ### Whole operations -/

/-- The tree and the stream error that an outcome reports. -/
def Outcome.report? : Outcome → Option (ProgressTree × Option String)
  | .deployed _ tree streamError | .deleted tree streamError => some (tree, streamError)
  | .noChanges | .followed _ _ | .failed _ => none

namespace Session

/-- A deployment or a deletion of a stack **begins**. -/
inductive Begins (settings : SessionSettings) : String → Session → Prop
  | deploy (request : DeployRequest) (rendered : Except String String) (name updateName : String) :
      Begins settings request.stack (.deploy settings request rendered name updateName)
  | delete (stack : String) : Begins settings stack (.delete settings stack)

/-- The **canvas** of an operation on a stack: a fresh tree of the stack, of which nothing has been
drawn, and the answers that the trace holds. -/
def canvas (settings : SessionSettings) (stack : String) (trace : List Action) : Painting :=
  ⟨.start stack settings.display settings.lookups, rollouts trace, []⟩

theorem canvas_append (settings : SessionSettings) (stack : String) (trace more : List Action) :
    canvas settings stack (trace ++ more) =
      (canvas settings stack trace).hearing (rollouts more) := by
  rw [canvas, rollouts_append]
  rfl

/-- Nothing has been lost **on the way** of an operation on a stack with some settings. -/
structure Accounts (settings : SessionSettings) (stack : String) (trace : List Action)
    (published : List Batch) (s : Session) : Prop where
  settings_eq : s.settings = settings
  stack_eq : s.phase.stage = .early → s.phase.stack = stack
  idle : s.progress = none → published = [] ∧ rollouts trace = []
  progress : ∀ p, s.progress = some p → (∀ a ∈ trace, a.isFailedWrite = false) →
    ∃ drawings, drawings <:+ writes trace ∧
      p.Accounts (canvas settings stack trace) published drawings

variable {settings : SessionSettings} {stack : String} {start s t : Session}
  {trace actions : List Action} {published : List Batch} {clock : Clock}

theorem accounts_of_begins (begins : Begins settings stack start) :
    start.Accounts settings stack [] [] := by
  cases begins with
  | deploy request rendered name updateName =>
    refine ⟨rfl, ?_, fun _ => ⟨rfl, rfl⟩, fun p hp => nomatch hp⟩
    cases rendered with
    | ok body => exact fun _ => rfl
    | error message => exact fun hearly => nomatch hearly
  | delete => exact ⟨rfl, fun _ => rfl, fun _ => ⟨rfl, rfl⟩, fun p hp => nomatch hp⟩

/-- Steps that neither look up rollouts nor write lose nothing. -/
theorem Accounts.setPhase {phase : Phase} (h : s.Accounts settings stack trace published)
    (hphase : phase.stage ≠ .early) (hactions : ∀ a ∈ actions, a.isPainting = false) :
    Accounts settings stack (trace ++ actions) published { s with phase } := by
  have hwrites := writes_eq_nil hactions
  have hrollouts := rollouts_eq_nil fun a ha => Action.isLookup_eq_false (hactions a ha)
  refine ⟨h.settings_eq, fun hearly => absurd hearly hphase, fun hp => ?_, fun p hp hwritten => ?_⟩
  · rw [rollouts_append, hrollouts, List.append_nil]
    exact h.idle hp
  · rw [writes_append, hwrites, List.append_nil, canvas_append, hrollouts, Painting.hearing_nil]
    exact h.progress p hp fun a ha => hwritten a (List.mem_append_left _ ha)

theorem Accounts.cancel (h : s.Accounts settings stack trace published) :
    s.cancel.Accounts settings stack trace published := by
  refine ⟨h.settings_eq, h.stack_eq, fun hp => ?_, fun p hp hwritten => ?_⟩
  · exact h.idle (Option.map_eq_none_iff.mp hp)
  · obtain ⟨q, hq, rfl⟩ := Option.map_eq_some_iff.mp hp
    exact h.progress q hq hwritten

/-- The operation loses nothing; it starts the other actors on a canvas of its stack. -/
theorem Accounts.operation (h : s.Accounts settings stack trace published) (hstaged : s.Staged)
    (goes : s.OperationGoes actions t) :
    t.Accounts settings stack (trace ++ actions) published := by
  cases goes with
  | @advance actions phase hbefore hafter hactions =>
    have hnone : s.progress = none := by simpa only [Staged, hbefore] using hstaged
    refine ⟨h.settings_eq, fun hearly => ?_, fun hp => ?_, fun p hp => ?_⟩
    · rcases hafter with ⟨-, hstack⟩ | rfl | ⟨e, rfl⟩
      · exact hstack.trans (h.stack_eq hbefore)
      · cases hearly
      · cases hearly
    · rw [rollouts_append, rollouts_eq_nil hactions, List.append_nil]
      exact h.idle hp
    · cases hnone.symm.trans hp
  | @launch actions phase hbefore hafter key cutoff hactions =>
    have hnone : s.progress = none := by simpa only [Staged, hbefore] using hstaged
    -- nothing has been published or asked, so all is as on the empty canvas
    obtain ⟨hpublished, hrollouts⟩ := h.idle hnone
    refine ⟨h.settings_eq, fun hearly => ?_, fun hp => ?_, fun p hp _ => ?_⟩
    · cases hafter.symm.trans hearly
    · cases hp
    · obtain rfl := Option.some.inj hp
      refine ⟨[], List.nil_suffix, [], ?_, by rw [hpublished]; rfl⟩
      rw [canvas, rollouts_append, hrollouts, rollouts_eq_nil hactions,
        ← h.stack_eq hbefore, ← h.settings_eq]
      rfl
  | wait hbefore hafter hactions => exact h.setPhase (by rw [hafter]; rintro ⟨⟩) hactions
  | stop hbefore target ending hactions => exact h.cancel.setPhase (by rintro ⟨⟩) hactions
  | @stopped target ending =>
    have hstage := s.stage_stopped target ending
    obtain ⟨phase, hstopped⟩ := s.stopped_eq target ending
    rw [hstopped] at hstage ⊢
    refine h.setPhase ?_ (by simp)
    rcases hstage with hstage | hstage
    · rw [hstage]
      rintro ⟨⟩
    · rw [hstage]
      rintro ⟨⟩
  | read => exact h.setPhase (by rintro ⟨⟩) (by simp [Action.isPainting])
  | explain | follow => exact h.setPhase (by rintro ⟨⟩) (by simp)

theorem Accounts.feed {p p' : Progress} {more : List Batch}
    (h : s.Accounts settings stack trace published) (hp : s.progress = some p)
    (goes : p.FeedGoes clock actions more p') :
    Accounts settings stack (trace ++ actions) (published ++ more)
      { s with progress := some p' } := by
  have hactions : ∀ a ∈ actions, a.isPainting = false := by
    cases goes <;> simp [Action.isPainting]
  have hwrites := writes_eq_nil hactions
  have hrollouts := rollouts_eq_nil fun a ha => Action.isLookup_eq_false (hactions a ha)
  refine ⟨h.settings_eq, h.stack_eq, by rintro ⟨⟩, fun q hq hwritten => ?_⟩
  obtain rfl := Option.some.inj hq
  obtain ⟨drawings, hsuffix, haccounts⟩ :=
    h.progress p hp fun a ha => hwritten a (List.mem_append_left _ ha)
  refine ⟨drawings, ?_, ?_⟩
  · rwa [writes_append, hwrites, List.append_nil]
  · rw [canvas_append, hrollouts, Painting.hearing_nil]
    exact haccounts.feed goes

theorem Accounts.painter {p p' : Progress} (h : s.Accounts settings stack trace published)
    (hp : s.progress = some p) (goes : p.PainterGoes actions p') :
    Accounts settings stack (trace ++ actions) published { s with progress := some p' } := by
  refine ⟨h.settings_eq, h.stack_eq, fun hp' => (nomatch hp'), fun q hq hwritten => ?_⟩
  obtain rfl := Option.some.inj hq
  obtain ⟨drawings, ⟨before, hbefore⟩, haccounts⟩ :=
    h.progress p hp fun a ha => hwritten a (List.mem_append_left _ ha)
  refine ⟨drawings ++ writes actions, ⟨before, ?_⟩, ?_⟩
  · rw [writes_append, ← hbefore, List.append_assoc]
  · rw [canvas_append]
    exact haccounts.painter goes fun a ha => hwritten a (List.mem_append_right _ ha)

/-- **No run loses a batch.** -/
theorem Accounts.streams (h : start.Accounts settings stack [] []) (hstaged : start.Staged)
    (run : start.Streams trace published s) : s.Accounts settings stack trace published := by
  induction run with
  | start => exact h
  | cancel _ ih => exact ih.cancel
  | @step _ _ _ _ actor _ _ run leads ih =>
    cases actor with
    | operation =>
      rw [outgoing, List.append_nil]
      exact ih.operation (hstaged.runs run.runs) (operationGoes_of_leads leads)
    | feed =>
      obtain ⟨p, p', published, hp, rfl, goes⟩ := feedGoes_of_leads leads
      rw [outgoing, hp, Option.elim_some, ← goes.published_eq]
      exact ih.feed hp goes
    | painter =>
      obtain ⟨p, p', hp, rfl, goes⟩ := painterGoes_of_leads leads
      rw [outgoing, List.append_nil]
      exact ih.painter hp goes

/-! ### What is reported -/

/-- What a session **reports** at its end is what the other actors have left behind. -/
def Reports (s : Session) : Prop :=
  ∀ p outcome tree streamError, s.progress = some p → s.phase = .over outcome →
    outcome.report? = some (tree, streamError) →
      (∀ shown, p.tree? = some shown → tree = shown) ∧ streamError = p.streamError?

theorem reports_of_stage (h : s.phase.stage ≠ .over) : s.Reports := by
  intro p outcome tree streamError hp hover
  rw [hover] at h
  exact absurd rfl h

theorem reports_of_failed {outcome : Outcome} (h : s.phase = .over outcome)
    (hreport : outcome.report? = none) : s.Reports := by
  intro p outcome' tree streamError hp hover hreport'
  rw [h] at hover
  cases hover
  cases hreport.symm.trans hreport'

theorem reports_finished (target : Target) {outcome : Outcome}
    (hreport : outcome.report? = some (s.finalTree target, s.streamError?)) :
    Reports { s with phase := .over outcome } := by
  intro p outcome' tree streamError hp hover hreport'
  cases hover
  cases hreport.symm.trans hreport'
  have hprogress : s.progress = some p := hp
  refine ⟨fun shown hshown => ?_, ?_⟩
  · rw [finalTree, hprogress, Option.bind_some, hshown, Option.getD_some]
  · rw [streamError?, hprogress, Option.bind_some]

theorem reports_stopped (s : Session) (target : Target) (ending : Ending) :
    (s.stopped target ending).Reports := by
  rw [stopped.eq_def]
  split
  · exact reports_of_failed rfl rfl
  · split
    · exact reports_of_failed rfl rfl
    · exact reports_finished target rfl
  · split
    · split
      · exact reports_finished target rfl
      · exact reports_of_stage (by rintro ⟨⟩)
    · split
      · exact reports_finished target rfl
      · exact reports_of_stage (by rintro ⟨⟩)

theorem reports_of_operation (goes : s.OperationGoes actions t) : t.Reports := by
  cases goes with
  | advance hbefore hafter =>
    rcases hafter with ⟨hafter, -⟩ | rfl | ⟨e, rfl⟩
    · exact reports_of_stage (by rw [hafter]; exact nofun)
    · exact reports_of_failed rfl rfl
    · exact reports_of_failed rfl rfl
  | launch hbefore hafter | wait hbefore hafter =>
    exact reports_of_stage (by rw [hafter]; exact nofun)
  | stop | read => exact reports_of_stage nofun
  | @stopped target ending => exact s.reports_stopped target ending
  | explain | follow => exact reports_of_failed rfl rfl

/-- Every run reports what the other actors have left behind. -/
theorem Reports.runs (h : start.Reports) (hstaged : start.Staged) (run : start.Runs trace s) :
    s.Reports := by
  induction run with
  | start => exact h
  | move run moves ih =>
    cases moves with
    | cancel =>
      intro p outcome tree streamError hp
      obtain ⟨q, hq, rfl⟩ := Option.map_eq_some_iff.mp hp
      exact ih q outcome tree streamError hq
    | @step _ actor _ _ leads =>
      cases actor with
      | operation => exact reports_of_operation (operationGoes_of_leads leads)
      | feed | painter =>
        -- the other actors go on only before the operation is over
        obtain ⟨p, p', -, rfl, -⟩ := progress_of_leads (by decide) leads
        intro q outcome tree streamError hq hover
        exact absurd leads ((hstaged.runs run).not_leads hover)

theorem Begins.staged (begins : Begins settings stack start) : start.Staged := by
  cases begins with
  | deploy request rendered name updateName =>
    exact staged_deploy settings request rendered name updateName
  | delete => exact staged_delete settings stack

theorem Begins.reports (begins : Begins settings stack start) : start.Reports := by
  intro p outcome tree streamError hp
  cases begins with
  | deploy | delete => cases hp

end Session

/-! ### Returning -/

/-- The tree **shows** the batches that the feed of an operation has published. -/
structure ProgressTree.Shows (settings : SessionSettings) (stack : String) (trace : List Action)
    (published : List Batch) (tree : ProgressTree) : Prop where
  /-- It is painted from them and from the answers to all lookups, and every drawing on the way is
  written. -/
  painted : ∃ display drawings, display.tree = tree ∧ drawings <:+ writes trace ∧
    (Session.canvas settings stack trace).paintAll? published = some ⟨display, [], drawings⟩
  /-- Apart from its lines of diagnosis, it is the tree to which all their events were applied. -/
  applied : tree.plain = (ProgressTree.start stack).applyAll published.flatten
  /-- The last text on the sink is a drawing of it, after the erasure of the drawing before it. -/
  drawn : published ≠ [] → ∃ before : Display, before.options = settings.display ∧
    (writes trace).getLast? =
      some (before.erasure ++ ProgressTree.unlines (tree.lines settings.display.color))

variable {settings : SessionSettings} {stack : String} {start s : Session} {trace : List Action}
  {published : List Batch} {p : Progress} {outcome : Outcome}

theorem ProgressTree.shows_of_painted {display : Display} {drawings : List String}
    (painted : (Session.canvas settings stack trace).paintAll? published =
      some ⟨display, [], drawings⟩) (hsuffix : drawings <:+ writes trace) :
    ProgressTree.Shows settings stack trace published display.tree := by
  have hfollows := Painting.follows_of_paintAll? painted
  refine ⟨⟨display, drawings, rfl, hsuffix, painted⟩, hfollows.tree, fun hne => ?_⟩
  obtain ⟨before, hlast, hoptions⟩ := Painting.getLast?_drawings painted hne
  obtain ⟨earlier, hearlier⟩ := hsuffix
  refine ⟨before, hoptions, ?_⟩
  have hcolor : display.options.color = settings.display.color :=
    congrArg DisplayOptions.color hfollows.options
  rw [← hearlier, List.getLast?_append, hlast, Option.some_or, Display.lines, hcolor]

/-- **No batch is lost.** When a deployment or a deletion that has started its feed and its painter
returns, both have ended, and nothing is called, written or published any more. If it reports a
tree, there is no stream error just when the feed ended well; and unless a write has failed, the
tree shows every batch that the feed has published, and so does the last drawing. -/
theorem no_batch_is_lost (begins : Session.Begins settings stack start)
    (run : start.Streams trace published s) (hp : s.progress = some p)
    (hover : s.phase = .over outcome) :
    (p.feed.result?.isSome ∧ p.painter.result?.isSome) ∧
      (∀ later more t, s.Streams later more t → later = [] ∧ more = []) ∧
      ∀ tree streamError, outcome.report? = some (tree, streamError) →
        (streamError = none ↔ p.feed.result? = some (.ok ())) ∧
        ((∀ a ∈ trace, a.isFailedWrite = false) →
          tree.Shows settings stack trace published) := by
  have hstaged := begins.staged.runs run.runs
  have hboth : p.feed.result?.isSome ∧ p.painter.result?.isSome := by
    have hstage : s.phase.stage = .over := by rw [hover]; rfl
    simp only [Session.Staged, hstage] at hstaged
    simpa [Progress.isOver] using hstaged p hp
  refine ⟨hboth, fun later more t run' => hstaged.streams_of_over hover run',
    fun tree streamError hreport => ?_⟩
  obtain ⟨htree, rfl⟩ :=
    begins.reports.runs begins.staged run.runs p outcome tree streamError hp hover hreport
  refine ⟨p.streamError?_eq_none_iff hboth.1, fun hwritten => ?_⟩
  obtain ⟨drawings, hsuffix, haccounts⟩ :=
    ((Session.accounts_of_begins begins).streams begins.staged run).progress p hp hwritten
  -- the painter has ended, so no batch waits in the queue or is being painted
  obtain ⟨painted, hshown⟩ := haccounts.painted hboth.2
  rw [htree _ hshown]
  exact ProgressTree.shows_of_painted painted hsuffix

/-! ### A service that fails -/

/-- A service of the stack failed. -/
def serviceFailed : StackEvent :=
  ⟨"e1", "Web", "main/web", "AWS::ECS::Service", "CREATE_FAILED", none, .epoch⟩

section LiveQueueDeployment

variable {trace actions : List Action} {published : List Batch} {s t : Session}

theorem streams_operation (run : liveQueueDeployment.Streams trace published s)
    (leads : (s.step ⟨0, 0, .epoch⟩ .operation).Leads ⟨0, 0, .epoch⟩ actions t) :
    liveQueueDeployment.Streams (trace ++ actions) (published ++ []) t := run.step leads

theorem streams_feed (run : liveQueueDeployment.Streams trace published s)
    (leads : (s.step ⟨0, 0, .epoch⟩ .feed).Leads ⟨0, 0, .epoch⟩ actions t) :
    liveQueueDeployment.Streams (trace ++ actions) (published ++ s.outgoing .feed) t :=
  run.step leads

theorem streams_painter (run : liveQueueDeployment.Streams trace published s)
    (leads : (s.step ⟨0, 0, .epoch⟩ .painter).Leads ⟨0, 0, .epoch⟩ actions t) :
    liveQueueDeployment.Streams (trace ++ actions) (published ++ []) t := run.step leads

end LiveQueueDeployment

/-- The failure turns up when the feed is drained, and its rollout is found. -/
theorem liveQueueDeployment_streams : ∃ trace s p tree,
    liveQueueDeployment.Streams trace [[⟨"demo", serviceFailed⟩]] s ∧ s.progress = some p ∧
      s.phase = .over (.deployed .createComplete tree none) ∧
      tree.lines false = ["demo", "  Web CREATE_FAILED",
        "    rollout FAILED (0/1 running, 1 failed tasks)"] ∧
      ∀ a ∈ trace, a.isFailedWrite = false := by
  have begun : liveQueueDeployment.Streams [] [] liveQueueDeployment := .start
  have submitted := streams_operation begun (.call _ _ (.ok (⟨"queue", "demo"⟩ : ChangeSetRef)))
  have asking := streams_operation submitted (.goOn _)
  have described := streams_operation asking (.call _ _ (.ok queueChangeSet))
  have judged := streams_operation described (.goOn _)
  have reviewed := streams_operation judged (.goOn _)
  have written := streams_operation reviewed (.write _ _ (.ok ()))
  have executed := streams_operation written (.call _ _ (.ok ()))
  have watching := streams_operation executed (.goOn _)
  have looked := streams_operation watching
    (.call _ _ (.ok (Stack.named "demo" .createComplete)))
  have heard := streams_operation looked (.goOn _)
  have stopping := streams_operation heard (.goOn _)
  have draining := streams_feed stopping (.goOn _)
  have polled := streams_feed draining (.call _ _ (.ok (⟨[serviceFailed], none⟩ : EventPage)))
  have concluded := streams_feed polled (.goOn _)
  have drained := streams_feed concluded (.goOn _)
  have received := streams_painter drained (.goOn _)
  have found := streams_painter received (.goOn _)
  have answered := streams_painter found
    (.call _ _ (.ok (⟨"FAILED", 0, 1, 1, none⟩ : Rollout)))
  have applied := streams_painter answered (.goOn _)
  have drawn := streams_painter applied (.write _ _ (.ok ()))
  have closed := streams_painter drawn (.goOn _)
  have ended := streams_operation closed (.goOn _)
  refine ⟨_, _, _, _, ended, rfl, rfl, ?_, by simp [Action.isFailedWrite]⟩
  decide +kernel

/-- The tree that is reported, and drawn last, shows the service and its rollout. -/
theorem liveQueueDeployment_shows : ∃ trace s p tree,
    liveQueueDeployment.Streams trace [[⟨"demo", serviceFailed⟩]] s ∧ s.progress = some p ∧
      s.phase = .over (.deployed .createComplete tree none) ∧
      tree.lines false = ["demo", "  Web CREATE_FAILED",
        "    rollout FAILED (0/1 running, 1 failed tasks)"] ∧
      (p.feed.result? = some (.ok ()) ∧ p.painter.result?.isSome) ∧
      (∀ later more t, s.Streams later more t → later = [] ∧ more = []) ∧
      tree.Shows liveQueueDeployment.settings "demo" trace [[⟨"demo", serviceFailed⟩]] := by
  obtain ⟨trace, s, p, tree, run, hp, hover, hlines, hwritten⟩ := liveQueueDeployment_streams
  obtain ⟨⟨-, hpainter⟩, hquiet, hreports⟩ := no_batch_is_lost (.deploy _ _ _ _) run hp hover
  obtain ⟨hstream, hshows⟩ := hreports tree none rfl
  exact ⟨trace, s, p, tree, run, hp, hover, hlines, ⟨hstream.mp rfl, hpainter⟩, hquiet,
    hshows hwritten⟩

end StackDeploy
