import StackDeploy.Proofs.Progress.Redraw

/-!
# The work of a painter

What a painter does with the batches that it is given, one deed after the other: it looks up
rollouts, each for a node of the tree, and it draws.

* `Painter.Works` — the batches so far, the deeds so far, and where the painter stands.
* `Painter.Runs.exists_works` — every run is made of deeds.
* `Painter.exists_works` — whatever the resolver answers, all batches can be drawn.
* `Painter.Works.length_drawings` — there is one drawing for every batch.
* `Painter.Works.obeys_drawn` — each drawing is one of the display as it was at that time.
-/

namespace StackDeploy

namespace Painter

/-! ### Deeds -/

/-- A **deed** of a painter is a lookup with the answer to it, or a drawing with the result of
writing it. -/
inductive Deed where
  | look (lookup : Display.Lookup) (answer : Except ApiError Rollout)
  | draw (text : String) (result : Written)

/-- The deed as an action: the service is not told which node a lookup is for. -/
def Deed.action : Deed → Action
  | look lookup answer => .call (.resolveRollout lookup.ref) answer
  | draw text result => .write text result

/-- A resolver that knows what was done before gives the answers, and every drawing is written. -/
def Deed.Allowed (resolver : List Deed → ServiceRef → Except ApiError Rollout)
    (before : List Deed) : Deed → Prop
  | look lookup answer => answer = resolver before lookup.ref
  | draw _ result => result = .ok ()

/-- The lookups that were made. -/
def looked (deeds : List Deed) : List Display.Lookup :=
  deeds.filterMap fun
    | .look lookup _ => some lookup
    | .draw _ _ => none

/-- The texts that were drawn. -/
def drawings (deeds : List Deed) : List String :=
  deeds.filterMap fun
    | .look _ _ => none
    | .draw text _ => some text

@[simp] theorem looked_append (first second : List Deed) :
    looked (first ++ second) = looked first ++ looked second :=
  List.filterMap_append

theorem looked_append_draw (deeds : List Deed) (text : String) (result : Written) :
    looked (deeds ++ [.draw text result]) = looked deeds := by
  rw [looked_append]
  exact List.append_nil _

@[simp] theorem drawings_append (first second : List Deed) :
    drawings (first ++ second) = drawings first ++ drawings second :=
  List.filterMap_append

/-! ### Painters at work -/

/-- The lookup that is to be made next. -/
def inquiry? (p : Painter) : Option Display.Lookup :=
  match p.phase with
  | .asking lookup _ => some lookup
  | .receiving | .applying _ | .drawing | .over _ => none

/-- The lookups that were asked for: those that were made, and the one that is to be made next. -/
def asked (deeds : List Deed) (p : Painter) : List Display.Lookup :=
  looked deeds ++ p.inquiry?.toList

theorem asked_of_inquiry?_eq_none {p : Painter} (h : p.inquiry? = none) (deeds : List Deed) :
    asked deeds p = looked deeds := by
  rw [asked, h, Option.toList_none, List.append_nil]

/-- The painter has no batch in hand: the last one was drawn, or could not be drawn. -/
def isIdle (p : Painter) : Bool :=
  match p.phase with
  | .receiving | .over _ => true
  | .applying _ | .asking _ _ | .drawing => false

theorem pending_of_isIdle {p : Painter} (h : p.isIdle = true) : p.pending = [] := by
  rw [isIdle] at h
  cases hphase : p.phase with
  | receiving | «over» => rw [pending, hphase]
  | applying | asking | drawing =>
    rw [hphase] at h
    cases h

theorem inquiry?_of_isIdle {p : Painter} (h : p.isIdle = true) : p.inquiry? = none := by
  rw [isIdle] at h
  cases hphase : p.phase with
  | receiving | «over» => rw [inquiry?, hphase]
  | applying | asking | drawing =>
    rw [hphase] at h
    cases h

/-- The deed that an action of a painter is. -/
def deed? (p : Painter) : Action → Option Deed
  | .call (.resolveRollout _) answer => p.inquiry?.map fun lookup => .look lookup answer
  | .call _ _ => none
  | .write text result => some (.draw text result)

/-- A painter **works**: these batches it has been given, these deeds it has done, and here it
stands. It can be given another batch whenever it has none in hand. -/
inductive Works (start : Painter) : List Batch → List Deed → Painter → Prop
  | start : Works start [] [] start
  | receive {batches : List Batch} {deeds : List Deed} {p : Painter}
      (work : Works start batches deeds p) (hidle : p.isIdle = true) (batch : Batch) :
      Works start (batches ++ [batch]) deeds (p.receive batch)
  | step {batches : List Batch} {deeds : List Deed} {actions : List Action} {p q : Painter}
      {clock : Clock} (work : Works start batches deeds p)
      (leads : (p.batchStep clock).Leads clock actions q) :
      Works start batches (deeds ++ actions.filterMap p.deed?) q

variable {start p q : Painter} {batches : List Batch} {deeds : List Deed} {actions : List Action}
  {resolver : List Deed → ServiceRef → Except ApiError Rollout}

/-- A painter that goes on does nothing but deeds. -/
theorem Goes.map_action (goes : p.Goes actions q) :
    (actions.filterMap p.deed?).map Deed.action = actions := by
  obtain ⟨d, phase⟩ := p
  cases goes with
  | apply | ask | applied => rfl
  | answered hphase reply =>
    obtain rfl := hphase
    rfl
  | drawn | failed => rfl

/-- **Every run is made of deeds.** -/
theorem Runs.exists_works {trace : List Action} (run : start.Runs batches trace p) :
    ∃ deeds, start.Works batches deeds p ∧ deeds.map Deed.action = trace := by
  induction run with
  | start => exact ⟨[], .start, rfl⟩
  | receive run hphase batch ih =>
    obtain ⟨deeds, work, htrace⟩ := ih
    exact ⟨deeds, work.receive (by rw [isIdle, hphase]) batch, htrace⟩
  | step run leads ih =>
    obtain ⟨deeds, work, htrace⟩ := ih
    exact ⟨_, work.step leads, by rw [List.map_append, htrace, (goes_of_leads leads).map_action]⟩

/-! ### All batches can be drawn -/

theorem leads_of_goes (goes : p.Goes actions q) (clock : Clock) :
    (p.batchStep clock).Leads clock actions q := by
  rw [batchStep, Painter.step]
  cases goes with
  | apply hphase hnotify | ask hphase hnotify =>
    simp only [hphase, hnotify]
    exact .goOn _
  | @answered lookup _ hphase reply =>
    simp only [hphase]
    exact .call (.resolveRollout lookup.ref) _ reply
  | applied hphase =>
    simp only [hphase]
    exact .goOn _
  | drawn hphase =>
    simp only [hphase]
    exact .write _ _ (.ok ())
  | failed hphase message =>
    simp only [hphase]
    exact .write _ _ (.error message)

theorem Works.goes (work : start.Works batches deeds p) (goes : p.Goes actions q) :
    start.Works batches (deeds ++ actions.filterMap p.deed?) q :=
  work.step (leads_of_goes goes ⟨0, 0, .epoch⟩)

section OneDeed

variable {d shown : Display} {e : StreamEvent} {rest : Batch} {lookup : Display.Lookup}

/-- An event that calls for no lookup is applied. -/
theorem Works.see (work : start.Works batches deeds ⟨d, .applying (e :: rest)⟩)
    (hnotify : d.notify e = (shown, none)) : start.Works batches deeds ⟨shown, .applying rest⟩ := by
  simpa using work.goes (.apply rfl hnotify)

/-- An event that calls for a lookup is applied, and the lookup is made. -/
theorem Works.look (work : start.Works batches deeds ⟨d, .applying (e :: rest)⟩)
    (hnotify : d.notify e = (shown, some lookup)) (answer : Except ApiError Rollout) :
    start.Works batches (deeds ++ [.look lookup answer])
      ⟨shown.answered lookup answer, .applying rest⟩ := by
  have asking : start.Works batches deeds ⟨shown, .asking lookup rest⟩ := by
    simpa using work.goes (.ask rfl hnotify)
  exact asking.goes (.answered rfl answer)

/-- A batch that has been applied is drawn. -/
theorem Works.draw (work : start.Works batches deeds ⟨d, .applying []⟩) :
    start.Works batches (deeds ++ [.draw d.frame (.ok ())]) ⟨d.redrawn, .receiving⟩ := by
  have ready : start.Works batches deeds ⟨d, .drawing⟩ := by simpa using work.goes (.applied rfl)
  exact ready.goes (.drawn rfl)

end OneDeed

/-- A batch that is being applied can be drawn, whatever its lookups give. -/
theorem Works.exists_receiving {d : Display} {rest : Batch}
    (work : start.Works batches deeds ⟨d, .applying rest⟩)
    (hallowed : Obeys (Deed.Allowed resolver) deeds) :
    ∃ deeds' d', start.Works batches deeds' ⟨d', .receiving⟩ ∧
      Obeys (Deed.Allowed resolver) deeds' := by
  induction rest generalizing deeds d with
  | nil => exact ⟨_, _, work.draw, obeys_append_singleton.mpr ⟨hallowed, rfl⟩⟩
  | cons e rest ih =>
    rcases hnotify : d.notify e with ⟨shown, _ | lookup⟩
    · exact ih (work.see hnotify) hallowed
    · exact ih (work.look hnotify (resolver deeds lookup.ref))
        (obeys_append_singleton.mpr ⟨hallowed, rfl⟩)

/-- **All batches can be drawn**, whatever a resolver answers, if every drawing can be written. -/
theorem exists_works (d : Display) (batches : List Batch)
    (resolver : List Deed → ServiceRef → Except ApiError Rollout) :
    ∃ deeds d', (Painter.start d).Works batches deeds ⟨d', .receiving⟩ ∧
      Obeys (Deed.Allowed resolver) deeds := by
  induction batches using List.reverseRecOn with
  | nil => exact ⟨[], d, .start, obeys_nil _⟩
  | append_singleton batches batch ih =>
    obtain ⟨deeds, d', work, hallowed⟩ := ih
    exact (work.receive rfl batch).exists_receiving hallowed

/-- A painter whose drawings are all written is never over. -/
theorem Works.result?_eq_none (work : start.Works batches deeds p) (hstart : start.result? = none)
    (hwritten : ∀ text result, .draw text result ∈ deeds → result = .ok ()) :
    p.result? = none := by
  induction work with
  | start => exact hstart
  | receive => rfl
  | step work leads ih =>
    cases goes_of_leads leads with
    | apply | ask | answered | applied | drawn => rfl
    | failed hphase message =>
      cases hwritten _ _ (List.mem_append_right _ (List.mem_singleton_self _))

/-- How the tree is drawn, and whether rollouts are looked up, does not change. -/
theorem Works.settings (work : start.Works batches deeds p) :
    p.display.options = start.display.options ∧ p.display.lookups = start.display.lookups := by
  induction work with
  | start => exact ⟨rfl, rfl⟩
  | receive _ _ _ ih => exact ih
  | step work leads ih =>
    rw [← ih.1, ← ih.2]
    cases goes_of_leads leads with
    | apply _ hnotify | ask _ hnotify =>
      obtain ⟨enriched, rfl⟩ := Display.exists_eq_of_notify hnotify
      exact ⟨rfl, rfl⟩
    | answered _ answer => cases answer <;> exact ⟨rfl, rfl⟩
    | applied | drawn | failed => exact ⟨rfl, rfl⟩

/-! ### Drawings -/

/-- **There is one drawing for every batch.** -/
theorem Works.length_drawings (work : start.Works batches deeds p) (hstart : start.isIdle = true) :
    (drawings deeds).length + (if p.isIdle then 0 else 1) = batches.length := by
  induction work with
  | start => rw [hstart]; rfl
  | receive work hidle batch ih =>
    rw [hidle] at ih
    rw [List.length_append, ← ih]
    rfl
  | @step _ _ _ p q _ work leads ih =>
    obtain ⟨d, phase⟩ := p
    rw [← ih, drawings_append, List.length_append]
    cases goes_of_leads leads with
    | apply hphase
    | ask hphase
    | answered hphase
    | applied hphase
    | drawn hphase
    | failed hphase =>
      obtain rfl := hphase
      rfl

/-- At the time of a drawing the painter had been given some of the batches, and what it drew was
its display. -/
def Drawn (start : Painter) (batches : List Batch) (before : List Deed) : Deed → Prop
  | .look _ _ => True
  | .draw text _ => ∃ given d, given <+: batches ∧ start.Works given before ⟨d, .drawing⟩ ∧
      text = d.frame

/-- **Each drawing is one of the display as it was at that time.** -/
theorem Works.obeys_drawn (work : start.Works batches deeds p) :
    Obeys (start.Drawn batches) deeds := by
  induction work with
  | start => exact obeys_nil _
  | receive work hidle batch ih =>
    refine ih.imp fun before deed hdrawn => ?_
    cases deed with
    | look => exact trivial
    | draw text result =>
      obtain ⟨given, d, hgiven, hwork⟩ := hdrawn
      exact ⟨given, d, hgiven.trans (List.prefix_append _ _), hwork⟩
  | @step batches _ _ p q _ work leads ih =>
    obtain ⟨d, phase⟩ := p
    cases goes_of_leads leads with
    | apply | ask | applied => rwa [List.filterMap_nil, List.append_nil]
    | answered hphase reply =>
      obtain rfl := hphase
      exact obeys_append_singleton.mpr ⟨ih, trivial⟩
    | drawn hphase | failed hphase =>
      obtain rfl := hphase
      exact obeys_append_singleton.mpr ⟨ih, batches, d, List.prefix_rfl, work, rfl⟩

end Painter

end StackDeploy
