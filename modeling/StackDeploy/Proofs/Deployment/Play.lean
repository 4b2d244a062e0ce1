import StackDeploy.Proofs.Deployment.Run

/-!
# Scripted runs

Runs of a session in which everything that its operation hears is written down beforehand: a
**script** holds the time at every step of the operation and the replies to its calls, apart from
those about events. The other actors are free: they take their steps when they like, and their calls
and writes may have any results.

* `Script.Moves` — one move at a moment of such a run.
* `Script.Plays` — the moments that runs by a script come to.
* `Play`, `Play.Fair` — infinite runs by a script, and the fair ones among them, in which nobody who
  can go on is passed over for ever.
-/

namespace StackDeploy

/-! ### Scripts -/

/-- The operation that a call asks for. -/
def Action.operation? : Action → Option Operation
  | .call request _ => some request.operation
  | .write _ _ => none

/-- How often an operation was **asked** for. -/
def asked (operation : Operation) (trace : List Action) : Nat :=
  trace.countP fun a => a.operation? = some operation

theorem asked_append (operation : Operation) (trace more : List Action) :
    asked operation (trace ++ more) = asked operation trace + asked operation more :=
  List.countP_append

theorem asked_eq_zero {operation : Operation} {actions : List Action}
    (h : ∀ a ∈ actions, a.operation? ≠ some operation) : asked operation actions = 0 :=
  List.countP_eq_zero.mpr fun a ha => by simpa using h a ha

/-- What the operation of a session hears: the time at each of its steps, and the replies that the
service gives one after the other to its calls. -/
structure Script where
  clock : Nat → Clock
  created : Nat → Except ApiError ChangeSetRef
  described : Nat → Except ApiError ChangeSet
  executed : Nat → Except ApiError Unit
  watched : Nat → Except ApiError Stack

/-- The operations whose replies are **scripted**. -/
def Operation.IsScripted (operation : Operation) : Prop :=
  operation = .createChangeSet ∨ operation = .describeChangeSet ∨ operation = .executeChangeSet ∨
    operation = .describeStack

namespace Script

/-- The reply that the script holds for a request after the calls of a trace, if it holds one. -/
def reply? (script : Script) (trace : List Action) : (request : Request) → Option (Reply request)
  | .createChangeSet _ => some (script.created (asked .createChangeSet trace))
  | .describeChangeSet _ _ => some (script.described (asked .describeChangeSet trace))
  | .executeChangeSet _ _ => some (script.executed (asked .executeChangeSet trace))
  | .describeStack _ => some (script.watched (asked .describeStack trace))
  | .describeStackEvents _ _ | .deleteStack _ | .resolveRollout _ => none

/-- The script **gives** an action of the operation: its calls have the replies of the script, and
what it writes is written. -/
def Gives (script : Script) (trace : List Action) : Action → Prop
  | .call request reply => ∀ given, script.reply? trace request = some given → reply = given
  | .write _ result => result = .ok ()

end Script

/-- Two traces have **asked alike** if they have asked for the scripted operations equally often. -/
def AskedAlike (trace other : List Action) : Prop :=
  ∀ operation, operation.IsScripted → asked operation trace = asked operation other

theorem AskedAlike.symm {trace other : List Action} (h : AskedAlike trace other) :
    AskedAlike other trace :=
  fun operation hscripted => (h operation hscripted).symm

theorem AskedAlike.trans {trace other third : List Action} (h : AskedAlike trace other)
    (h' : AskedAlike other third) : AskedAlike trace third :=
  fun operation hscripted => (h operation hscripted).trans (h' operation hscripted)

theorem AskedAlike.append {trace other first second : List Action} (h : AskedAlike trace other)
    (hmore : AskedAlike first second) : AskedAlike (trace ++ first) (other ++ second) := by
  intro operation hscripted
  rw [asked_append, asked_append, h operation hscripted, hmore operation hscripted]

/-- The feed and the painter ask for nothing that is scripted. -/
theorem askedAlike_nil_of_isProgress {actions : List Action} (h : ∀ a ∈ actions, a.isProgress) :
    AskedAlike actions [] := by
  intro operation hscripted
  refine List.countP_eq_zero.mpr fun a ha => ?_
  have hprogress := h a ha
  unfold Action.isProgress at hprogress
  split at hprogress
  · rcases hscripted with rfl | rfl | rfl | rfl <;> simp [Action.operation?, Request.operation]
  · rcases hscripted with rfl | rfl | rfl | rfl <;> simp [Action.operation?, Request.operation]
  · simp [Action.operation?]
  · cases hprogress

namespace Script

variable {script : Script} {trace other : List Action}

/-- Requests for one scripted operation have the same reply after traces that have asked alike. -/
theorem reply?_congr (h : AskedAlike trace other) (request : Request) :
    script.reply? trace request = script.reply? other request := by
  cases request with
  | createChangeSet =>
    rw [reply?, reply?, h .createChangeSet (.inl rfl)]
  | describeChangeSet =>
    rw [reply?, reply?, h .describeChangeSet (.inr (.inl rfl))]
  | executeChangeSet =>
    rw [reply?, reply?, h .executeChangeSet (.inr (.inr (.inl rfl)))]
  | describeStack =>
    rw [reply?, reply?, h .describeStack (.inr (.inr (.inr rfl)))]
  | describeStackEvents | deleteStack | resolveRollout => rfl

theorem exists_reply?_eq_some (trace : List Action) {request : Request}
    (h : request.operation.IsScripted) : ∃ given, script.reply? trace request = some given := by
  cases request with
  | createChangeSet | describeChangeSet | executeChangeSet | describeStack => exact ⟨_, rfl⟩
  | describeStackEvents | deleteStack | resolveRollout =>
    simp [Operation.IsScripted, Request.operation] at h

/-- **Determinism.** A step whose call is scripted leads to one state, whatever else differs. -/
theorem leads_unique {σ α : Type} {step : Step σ α} {clock : Clock} {first second : List Action}
    {s t : σ} (halike : AskedAlike trace other)
    (hscripted : ∀ request resume, step = .call request resume → request.operation.IsScripted)
    (hfirst : step.Leads clock first s) (hsecond : step.Leads clock second t)
    (hgiven : ∀ a ∈ first, script.Gives trace a) (hgiven' : ∀ a ∈ second, script.Gives other a) :
    s = t ∧ first = second := by
  cases hfirst with
  | call request resume reply =>
    cases hsecond with
    | call _ _ reply' =>
      obtain ⟨given, hreply⟩ : ∃ given, script.reply? trace request = some given :=
        exists_reply?_eq_some trace (hscripted request resume rfl)
      obtain rfl := hgiven _ (List.mem_singleton_self _) given hreply
      obtain rfl := hgiven' _ (List.mem_singleton_self _) reply
        (by rw [← reply?_congr halike, hreply])
      exact ⟨rfl, rfl⟩
  | write text resume result =>
    cases hsecond with
    | write _ _ result' =>
      obtain rfl := hgiven _ (List.mem_singleton_self _)
      obtain rfl := hgiven' _ (List.mem_singleton_self _)
      exact ⟨rfl, rfl⟩
  | goOn =>
    cases hsecond
    exact ⟨rfl, rfl⟩
  | wake _ due =>
    cases hsecond
    exact ⟨rfl, rfl⟩

/-- **Determinism** of a task inside two others: both go on from the same state, or both have been
handed over the same result. -/
theorem leads_embed_unique {σ τ α β : Type} {step : Step σ α} {f f' : σ → τ} {g g' : α → τ}
    {clock : Clock} {first second : List Action} {t t' : τ} (halike : AskedAlike trace other)
    (hscripted : ∀ request resume, step = .call request resume → request.operation.IsScripted)
    (hfirst : (step.embed f g : Step τ β).Leads clock first t)
    (hsecond : (step.embed f' g' : Step τ β).Leads clock second t')
    (hgiven : ∀ a ∈ first, script.Gives trace a) (hgiven' : ∀ a ∈ second, script.Gives other a) :
    first = second ∧ ((∃ s, t = f s ∧ t' = f' s) ∨ ∃ a, t = g a ∧ t' = g' a) := by
  obtain ⟨s, hleads, rfl⟩ | ⟨a, hover, rfl, rfl⟩ := Step.leads_embed hfirst
  · obtain ⟨s', hleads', rfl⟩ | ⟨a, hover, rfl, rfl⟩ := Step.leads_embed hsecond
    · obtain ⟨rfl, rfl⟩ := leads_unique halike hscripted hleads hleads' hgiven hgiven'
      exact ⟨rfl, .inl ⟨s, rfl, rfl⟩⟩
    · rw [hover] at hleads
      cases hleads
  · obtain ⟨s', hleads', rfl⟩ | ⟨a', hover', rfl, rfl⟩ := Step.leads_embed hsecond
    · rw [hover] at hleads'
      cases hleads'
    · obtain rfl := Step.finish.inj (hover.symm.trans hover')
      exact ⟨rfl, .inr ⟨a, rfl, rfl⟩⟩

/-- A call with the reply that the script holds for it is given. -/
theorem gives_call {request : Request} {reply : Reply request}
    (h : script.reply? trace request = some reply) :
    ∀ a ∈ [Action.call request reply], script.Gives trace a := by
  intro a ha
  obtain rfl := List.mem_singleton.mp ha
  intro given hgiven
  exact Option.some.inj (h.symm.trans hgiven)

/-- A call for which the script holds no reply may have any. -/
theorem gives_call_of_none {request : Request} {reply : Reply request}
    (h : script.reply? trace request = none) :
    ∀ a ∈ [Action.call request reply], script.Gives trace a := by
  intro a ha
  obtain rfl := List.mem_singleton.mp ha
  intro given hgiven
  exact absurd (h.symm.trans hgiven) nofun

/-- A step that leads on does so in a way that the script gives. -/
theorem exists_leads {σ α : Type} {step : Step σ α} {clock : Clock} {actions : List Action} {t : σ}
    (script : Script) (trace : List Action) (h : step.Leads clock actions t) :
    ∃ actions t, step.Leads clock actions t ∧ ∀ a ∈ actions, script.Gives trace a := by
  cases h with
  | call request resume reply =>
    refine ⟨_, _, .call request resume ((script.reply? trace request).getD reply), fun a ha => ?_⟩
    obtain rfl := List.mem_singleton.mp ha
    intro given hgiven
    rw [hgiven]
    rfl
  | write text resume result =>
    refine ⟨_, _, .write text resume (.ok ()), fun a ha => ?_⟩
    obtain rfl := List.mem_singleton.mp ha
    rfl
  | goOn => exact ⟨_, _, .goOn t, by simp⟩
  | wake _ due => exact ⟨_, _, .wake t due, by simp⟩

end Script

/-! ### Moments -/

/-- A **moment** of a run: the number of steps that the operation has taken, the actions of all
actors, and the session. -/
structure Moment where
  steps : Nat
  trace : List Action
  session : Session

/-- Nothing has happened. -/
def Moment.first (s : Session) : Moment := ⟨0, [], s⟩

/-- One **move** by a script, with the actor who takes it. The operation goes by the script. The
other actors may be told any time, and any replies to their calls and results of their writes will
do. The feed may be cancelled, and nothing may happen. -/
inductive Script.Moves (script : Script) : Option Actor → List Action → Moment → Moment → Prop
  | operation {m : Moment} {actions : List Action} {t : Session}
      (leads : (m.session.step (script.clock m.steps) .operation).Leads (script.clock m.steps)
        actions t)
      (given : ∀ a ∈ actions, script.Gives m.trace a) :
      Moves script (some .operation) actions m ⟨m.steps + 1, m.trace ++ actions, t⟩
  | other {m : Moment} {actor : Actor} {clock : Clock} {actions : List Action} {t : Session}
      (hactor : actor ≠ .operation) (leads : (m.session.step clock actor).Leads clock actions t) :
      Moves script (some actor) actions m ⟨m.steps, m.trace ++ actions, t⟩
  | cancel {m : Moment} : Moves script none [] m { m with session := m.session.cancel }
  | rest {m : Moment} : Moves script none [] m m

/-- The moments that runs **by a script** come to. -/
inductive Script.Plays (script : Script) (start : Session) : Moment → Prop
  | start : Plays script start (.first start)
  | move {mover : Option Actor} {actions : List Action} {m m' : Moment}
      (plays : Plays script start m) (moves : script.Moves mover actions m m') :
      Plays script start m'

/-- The moments that runs by a script come to while they **keep within** a property of moments. -/
inductive Script.PlaysWithin (script : Script) (start : Session) (P : Moment → Prop) :
    Moment → Prop
  | start (h : P (.first start)) : PlaysWithin script start P (.first start)
  | move {mover : Option Actor} {actions : List Action} {m m' : Moment}
      (plays : PlaysWithin script start P m) (moves : script.Moves mover actions m m') (h : P m') :
      PlaysWithin script start P m'

namespace Script

variable {script : Script} {start : Session} {mover : Option Actor} {actions : List Action}
  {m m' : Moment}

section Turns

variable {P : Moment → Prop} {t : Session}

/-- The operation takes its turn. -/
theorem Plays.operation (plays : script.Plays start m)
    (leads : (m.session.step (script.clock m.steps) .operation).Leads (script.clock m.steps)
      actions t) (given : ∀ a ∈ actions, script.Gives m.trace a) :
    script.Plays start ⟨m.steps + 1, m.trace ++ actions, t⟩ :=
  plays.move (.operation leads given)

/-- The feed takes its turn. -/
theorem Plays.feed (plays : script.Plays start m) (clock : Clock)
    (leads : (m.session.step clock .feed).Leads clock actions t) :
    script.Plays start ⟨m.steps, m.trace ++ actions, t⟩ :=
  plays.move (.other (by decide) leads)

/-- The painter takes its turn. -/
theorem Plays.painter (plays : script.Plays start m) (clock : Clock)
    (leads : (m.session.step clock .painter).Leads clock actions t) :
    script.Plays start ⟨m.steps, m.trace ++ actions, t⟩ :=
  plays.move (.other (by decide) leads)

theorem PlaysWithin.operation (plays : script.PlaysWithin start P m)
    (leads : (m.session.step (script.clock m.steps) .operation).Leads (script.clock m.steps)
      actions t) (given : ∀ a ∈ actions, script.Gives m.trace a)
    (h : P ⟨m.steps + 1, m.trace ++ actions, t⟩) :
    script.PlaysWithin start P ⟨m.steps + 1, m.trace ++ actions, t⟩ :=
  plays.move (.operation leads given) h

theorem PlaysWithin.feed (plays : script.PlaysWithin start P m) (clock : Clock)
    (leads : (m.session.step clock .feed).Leads clock actions t)
    (h : P ⟨m.steps, m.trace ++ actions, t⟩) :
    script.PlaysWithin start P ⟨m.steps, m.trace ++ actions, t⟩ :=
  plays.move (.other (by decide) leads) h

theorem PlaysWithin.painter (plays : script.PlaysWithin start P m) (clock : Clock)
    (leads : (m.session.step clock .painter).Leads clock actions t)
    (h : P ⟨m.steps, m.trace ++ actions, t⟩) :
    script.PlaysWithin start P ⟨m.steps, m.trace ++ actions, t⟩ :=
  plays.move (.other (by decide) leads) h

end Turns

theorem PlaysWithin.plays {P : Moment → Prop} (plays : script.PlaysWithin start P m) :
    script.Plays start m := by
  induction plays with
  | start => exact .start
  | move _ moves _ ih => exact ih.move moves

theorem Plays.within (plays : script.Plays start m) :
    script.PlaysWithin start (fun _ => True) m := by
  induction plays with
  | start => exact .start trivial
  | move _ moves ih => exact ih.move moves trivial

/-- Whatever a script says, a run by it is a run. -/
theorem Plays.runs (plays : script.Plays start m) : start.Runs m.trace m.session := by
  induction plays with
  | start => exact .start
  | move _ moves ih =>
    cases moves with
    | operation leads => exact ih.move (.step leads)
    | other _ leads => exact ih.move (.step leads)
    | cancel => simpa using ih.move .cancel
    | rest => exact ih

theorem Moves.exists_trace_eq (moves : script.Moves mover actions m m') :
    ∃ more, m'.trace = m.trace ++ more := by
  cases moves with
  | operation | other => exact ⟨_, rfl⟩
  | cancel | rest => exact ⟨[], (List.append_nil _).symm⟩

/-- What is not a step of the operation leaves the operation as it is, and asks for nothing that is
scripted. -/
theorem Moves.aside (moves : script.Moves mover actions m m') (hmover : mover ≠ some .operation) :
    m'.steps = m.steps ∧ m'.session.phase = m.session.phase ∧
      m'.session.settings = m.session.settings ∧ AskedAlike m'.trace m.trace := by
  cases moves with
  | operation => exact absurd rfl hmover
  | other hactor leads =>
    obtain ⟨p, p', hp, rfl, hprogress⟩ := Session.progress_of_leads hactor leads
    have halike : AskedAlike m.trace m.trace := fun _ _ => rfl
    refine ⟨rfl, rfl, rfl, ?_⟩
    simpa using halike.append (askedAlike_nil_of_isProgress hprogress)
  | cancel | rest => exact ⟨rfl, rfl, rfl, fun _ _ => rfl⟩

/-- The **last step** of the operation: between two of its steps nothing changes but the progress,
and nothing scripted is asked for. -/
theorem Plays.exists_step (plays : script.Plays start m) {n : Nat} (hn : m.steps = n + 1) :
    ∃ before actions t, script.Plays start before ∧ before.steps = n ∧
      (before.session.step (script.clock n) .operation).Leads (script.clock n) actions t ∧
      (∀ a ∈ actions, script.Gives before.trace a) ∧
      m.session.phase = t.phase ∧ m.session.settings = t.settings ∧
      AskedAlike m.trace (before.trace ++ actions) := by
  induction plays with
  | start => cases hn
  | @move mover actions m m' plays moves ih =>
    by_cases hmover : mover = some .operation
    · subst hmover
      cases moves with
      | operation leads given =>
        obtain rfl : m.steps = n := Nat.succ.inj hn
        exact ⟨m, actions, _, plays, rfl, leads, given, rfl, rfl, fun _ _ => rfl⟩
      | other hactor => exact absurd rfl hactor
    · obtain ⟨hsteps, hphase', hsettings', halike'⟩ := moves.aside hmover
      obtain ⟨before, taken, t, hbefore, hcount, leads, given, hphase, hsettings, halike⟩ :=
        ih (hsteps ▸ hn)
      exact ⟨before, taken, t, hbefore, hcount, leads, given, hphase'.trans hphase,
        hsettings'.trans hsettings, halike'.trans halike⟩

/-- Before the operation has taken its first step it stands at its beginning. -/
theorem Plays.phase_of_steps_eq_zero (plays : script.Plays start m) (h : m.steps = 0) :
    m.session.phase = start.phase ∧ m.session.settings = start.settings ∧
      AskedAlike m.trace [] := by
  induction plays with
  | start => exact ⟨rfl, rfl, fun _ _ => rfl⟩
  | @move mover actions m m' plays moves ih =>
    by_cases hmover : mover = some .operation
    · subst hmover
      cases moves with
      | operation => cases h
      | other hactor => exact absurd rfl hactor
    · obtain ⟨hsteps, hphase', hsettings', halike'⟩ := moves.aside hmover
      obtain ⟨hphase, hsettings, halike⟩ := ih (hsteps ▸ h)
      exact ⟨hphase'.trans hphase, hsettings'.trans hsettings, halike'.trans halike⟩

end Script

/-! ### Infinite runs -/

/-- An **infinite run** by a script. -/
structure Play (script : Script) (start : Session) where
  moment : Nat → Moment
  mover : Nat → Option Actor
  actions : Nat → List Action
  begins : moment 0 = .first start
  moves : ∀ k, script.Moves (mover k) (actions k) (moment k) (moment (k + 1))

/-- The actor can go on: the operation at the time that the script says, the others at any time. -/
def Moment.CanMove (m : Moment) (script : Script) (actor : Actor) : Prop :=
  ∃ actions m', script.Moves (some actor) actions m m'

/-- A page of events that is not the last one of its history. -/
def Action.isContinuedPage : Action → Bool
  | .call (.describeStackEvents _ _) (.ok page) => page.nextToken.isSome
  | _ => false

/-- A reply to a request for a page of events. -/
def Action.isPage : Action → Bool
  | .call (.describeStackEvents _ _) _ => true
  | _ => false

theorem Action.isPage_of_isContinuedPage {a : Action} (h : a.isContinuedPage) :
    a.isPage = true := by
  unfold Action.isContinuedPage at h
  split at h
  · rfl
  · cases h

namespace Play

variable {script : Script} {start : Session}

theorem plays (play : Play script start) (k : Nat) : script.Plays start (play.moment k) := by
  induction k with
  | zero =>
    rw [play.begins]
    exact .start
  | succ k ih => exact ih.move (play.moves k)

/-- In a **fair** run no actor can go on from some time on without ever doing so. -/
def Fair (play : Play script start) : Prop :=
  ∀ actor k, ∃ j, k ≤ j ∧
    (play.mover j = some actor ∨ ¬ (play.moment j).CanMove script actor)

/-- The service replies with **finite histories**: if it never comes to the end of one from some
time on, it is asked for pages only a few times more. -/
def FiniteHistories (play : Play script start) : Prop :=
  ∀ k, (∀ j, k ≤ j → ∀ a ∈ play.actions j, a.isPage → a.isContinuedPage) →
    ∃ j, k ≤ j ∧ ∀ i, j ≤ i → ∀ a ∈ play.actions i, a.isPage = false

end Play

/-- Every run can be made infinite by resting at its end. -/
theorem Script.PlaysWithin.exists_play {script : Script} {start : Session} {P : Moment → Prop}
    {m : Moment} (plays : script.PlaysWithin start P m) :
    ∃ (play : Play script start) (n : Nat), (∀ k, P (play.moment k)) ∧ ∀ k, n ≤ k →
      play.moment k = m ∧ play.mover k = none ∧ play.actions k = [] := by
  induction plays with
  | start h =>
    exact ⟨⟨fun _ => .first start, fun _ => none, fun _ => [], rfl, fun _ => .rest⟩, 0,
      fun _ => h, fun _ _ => ⟨rfl, rfl, rfl⟩⟩
  | @move mover actions m m' _ moves h ih =>
    obtain ⟨play, n, hwithin, hrest⟩ := ih
    -- the run goes as before until it has come to `m`, and then by the last move
    refine ⟨⟨fun k => if k ≤ n then play.moment k else m', fun k => if k = n then mover else
      play.mover k, fun k => if k = n then actions else play.actions k, ?_, fun k => ?_⟩, n + 1,
      fun k => ?_, fun k hk => ?_⟩
    · rw [if_pos (Nat.zero_le n), play.begins]
    · rcases Nat.lt_trichotomy k n with hlt | rfl | hgt
      · rw [if_neg hlt.ne, if_neg hlt.ne, if_pos hlt.le, if_pos (Nat.succ_le_of_lt hlt)]
        exact play.moves k
      · rw [if_pos rfl, if_pos rfl, if_pos (Nat.le_refl k), if_neg (Nat.not_succ_le_self k),
          (hrest k (Nat.le_refl k)).1]
        exact moves
      · obtain ⟨-, hmover, hactions⟩ := hrest k hgt.le
        rw [if_neg hgt.ne', if_neg hgt.ne', if_neg (Nat.not_le_of_lt hgt),
          if_neg (Nat.not_le_of_lt (Nat.lt_succ_of_lt hgt)), hmover, hactions]
        exact .rest
    · change P (if k ≤ n then play.moment k else m')
      split
      · exact hwithin k
      · exact h
    · obtain ⟨-, hmover, hactions⟩ := hrest k (Nat.le_of_succ_le hk)
      have hne : k ≠ n := (Nat.lt_of_succ_le hk).ne'
      have hgt : ¬ k ≤ n := Nat.not_le_of_lt (Nat.lt_of_succ_le hk)
      exact ⟨if_neg hgt, (if_neg hne).trans hmover, (if_neg hne).trans hactions⟩

end StackDeploy
