import Mathlib.Algebra.GroupWithZero.Nat
import Mathlib.Data.Prod.Lex
import StackDeploy.Proofs.Deployment.Verdict
import StackDeploy.Proofs.Stream.Delivery

/-!
# Ranks

A **rank** measures what is still to be done once an operation is about to end: the rounds of the
drain and the sources to be read in each of them, the batches to be painted, and the search for the
cause of a failure. Every step lowers it, except that a history may go on for another page.

* `Feed.rank_of_leads` — how a step of a cancelled feed changes its rank.
* `Session.rank_of_leads` — how a step of an actor changes the rank of the session.
-/

namespace StackDeploy

/-! ### Ranks of feeds -/

/-- The **rank** of a poll: the sources whose turn is still to come. -/
def Poll.rank : Poll → Nat
  | .reading tick _ => tick.waiting.length + 3
  | .over _ => 2

/-- The rank of a round. A feed that is cancelled in a regular poll has all rounds of a drain before
it. -/
def Feed.Round.rank : Feed.Round → Nat
  | .regular => Feed.maxDrainRounds + 2
  | .draining left => left

/-- The **rank** of a cancelled feed: its round, and how far it is in that round. -/
def Feed.rank (f : Feed) : ℕ ×ₗ ℕ :=
  match f.phase with
  | .ready | .pausing _ => toLex (Feed.maxDrainRounds + 1, 0)
  | .polling round poll => toLex (round.rank, poll.rank)
  | .publishing round _ _ => toLex (round.rank, 1)
  | .over _ => toLex (0, 0)

namespace Feed

variable {clock : Clock} {f g : Feed} {deeds : List Deed}

theorem rank_of_lt_left {a b c d : ℕ} (h : a < c) : toLex (a, b) < toLex (c, d) :=
  Prod.Lex.toLex_lt_toLex.mpr (.inl h)

theorem rank_of_lt_right {a b d : ℕ} (h : b < d) : toLex (a, b) < toLex (a, d) :=
  Prod.Lex.toLex_lt_toLex.mpr (.inr ⟨rfl, h⟩)

/-- After a round a feed has a round less before it, or it is over. -/
theorem rank_settle_lt (f : Feed) (round : Round) (result : Except FetchError Nat) {w : ℕ}
    (hw : 0 < w) : (f.settle clock round result).rank < toLex (round.rank, w) := by
  have hover : toLex (0, 0) < toLex (round.rank, w) := by
    rcases Nat.eq_zero_or_pos round.rank with hzero | hpos
    · rw [hzero]
      exact rank_of_lt_right hw
    · exact rank_of_lt_left hpos
  cases result with
  | error e => exact hover
  | ok discovered =>
    cases round with
    -- the pause that follows is over at once, since the feed is cancelled
    | regular => exact rank_of_lt_left (Nat.lt_succ_self _)
    | draining left =>
      rw [settle.eq_def]
      dsimp only
      split
      · exact hover
      next hleft =>
        simp only [Bool.or_eq_true, decide_eq_true_eq, not_or, Nat.not_le] at hleft
        exact rank_of_lt_left (Nat.sub_lt (Nat.zero_lt_of_lt hleft.2) Nat.zero_lt_one)

theorem rank_conclude_lt (f : Feed) (round : Round) (outcome : TickOutcome) {w : ℕ} (hw : 1 < w) :
    (f.conclude clock round outcome).rank < toLex (round.rank, w) := by
  rw [conclude]
  split
  · exact rank_settle_lt _ _ _ (Nat.zero_lt_of_lt hw)
  · exact rank_of_lt_right hw

theorem rank_beginDrain (f : Feed) : f.beginDrain.rank < toLex (maxDrainRounds + 1, 0) :=
  rank_of_lt_left (Nat.lt_succ_self _)

/-- A poll comes nearer to its end with every history that is read to the end. -/
theorem rank_take {tick : Tick} {source : EventSource} {waiting : List EventSource}
    (reader : HistoryReader) (hwaiting : tick.waiting = source :: waiting)
    (reply : Except ApiError EventPage) :
    (Poll.take tick source.stack reader reply).rank < (Poll.reading tick reader).rank ∨
      (Poll.take tick source.stack reader reply).rank = (Poll.reading tick reader).rank ∧
        ∃ page, reply = .ok page ∧ page.nextToken.isSome := by
  cases reply with
  | error cause => exact .inl (by simp [Poll.take, Poll.rank, hwaiting])
  | ok page =>
    cases htoken : page.nextToken with
    | some token =>
      -- how many pages a history has is up to the service
      rw [Poll.take_more _ _ _ htoken]
      exact .inr ⟨rfl, page, rfl, by rw [htoken]; rfl⟩
    | none =>
      rw [Poll.take_last _ _ _ htoken]
      obtain ⟨firstSeen, discovered, heq⟩ :=
        Tick.exists_absorb hwaiting (reader.gathered ++ page.events)
      exact .inl (by simp [Poll.rank, heq, hwaiting])

theorem two_le_rank (poll : Poll) : 2 ≤ poll.rank := by
  cases poll with
  | reading tick reader => exact Nat.le_add_left 2 (tick.waiting.length + 1)
  | «over» outcome => exact Nat.le_refl 2

/-- **Draining ends.** Every step of a cancelled feed lowers its rank, unless it reads a page that
is followed by another one. -/
theorem rank_of_leads (leads : (f.step clock true).Leads clock deeds g) :
    g.rank < f.rank ∨ g.rank = f.rank ∧ ∃ stack token page,
      deeds = [.page stack token (.ok page)] ∧ page.nextToken.isSome := by
  rw [step] at leads
  have hrank := rank.eq_def f
  cases hphase : f.phase with
  | ready =>
    simp only [hphase] at leads hrank
    rw [hrank]
    cases leads
    exact .inl f.rank_beginDrain
  | pausing deadline =>
    simp only [hphase] at leads hrank
    rw [hrank]
    cases leads
    exact .inl f.rank_beginDrain
  | publishing round batch result =>
    simp only [hphase] at leads hrank
    rw [hrank]
    cases leads
    exact .inl (rank_settle_lt _ _ _ Nat.zero_lt_one)
  | «over» result =>
    simp only [hphase] at leads
    cases leads
  | polling round poll =>
    simp only [hphase] at leads hrank
    rw [hrank]
    rcases poll.step_cases with
      ⟨outcome, hdone⟩ | ⟨tick, reader, source, waiting, rfl, hwaiting, hcall⟩
    · simp only [hdone] at leads
      cases leads
      exact .inl (rank_conclude_lt _ _ _ (two_le_rank poll))
    · simp only [hcall] at leads
      cases leads with
      | call _ _ reply =>
        rcases rank_take reader hwaiting reply with hlt | ⟨heq, page, rfl, hnext⟩
        · exact .inl (rank_of_lt_right hlt)
        · refine .inr ⟨?_, source.stack, reader.token, page, rfl, hnext⟩
          exact congrArg (fun w => toLex (round.rank, w)) heq

end Feed

/-! ### Ranks of sessions -/

/-- What a batch costs a painter: two steps for an event, and its redraw. -/
def Batch.cost (batch : Batch) : Nat := 2 * batch.length + 3

/-- What a painter still has to do, apart from the batches in its queue. -/
def Painter.rank (p : Painter) : Nat :=
  match p.phase with
  | .receiving => 1
  | .applying rest => Batch.cost rest
  | .asking _ rest => Batch.cost rest + 1
  | .drawing => 2
  | .over _ => 0

namespace Progress

/-- What is still to be painted. -/
def load (p : Progress) : Nat := p.painter.rank + (p.queue.map Batch.cost).sum

/-- The **rank** of a cancelled progress: that of its feed, and then what is to be painted. -/
def rank (p : Progress) : (ℕ ×ₗ ℕ) ×ₗ ℕ := toLex (p.feed.rank, p.load)

variable {clock : Clock} {p p' : Progress} {actions : List Action} {published : List Batch}

/-- Every step of the painter lowers what is to be painted. -/
theorem PainterGoes.rank_lt (goes : p.PainterGoes actions p') : p'.rank < p.rank := by
  have hsame : p'.feed = p.feed := by
    cases goes <;> rfl
  -- a batch that is received costs the painter less than it did in the queue
  have hless : p'.load < p.load := by
    cases goes with
    | @receive batch queue hphase hqueue =>
      simp only [load, Painter.rank, Painter.receive, hphase, hqueue, List.map_cons, List.sum_cons]
      omega
    | close hphase =>
      simp only [load, Painter.rank, Painter.close, hphase]
      omega
    | apply hphase | ask hphase =>
      simp only [load, Painter.rank, hphase, Batch.cost, List.length_cons]
      omega
    | answered hphase | applied hphase | drawn hphase | failed hphase =>
      simp only [load, Painter.rank, hphase, Batch.cost, List.length_nil]
      omega
  rw [rank, rank, hsame]
  exact Prod.Lex.toLex_lt_toLex.mpr (.inr ⟨rfl, hless⟩)

/-- Every step of a cancelled feed lowers the rank, unless it reads a page that is followed by
another one. -/
theorem FeedGoes.rank_cases (goes : p.FeedGoes clock actions published p')
    (hcancelled : p.cancelled = true) :
    p'.rank < p.rank ∨ p'.rank = p.rank ∧ ∃ a, actions = [a] ∧ a.isContinuedPage := by
  have hlt {f : Feed} {queue : List Batch} (h : f.rank < p.feed.rank) :
      rank { p with feed := f, queue } < p.rank :=
    Prod.Lex.toLex_lt_toLex.mpr (.inl h)
  cases goes with
  | @page stack token reply f leads =>
    rw [hcancelled] at leads
    rcases Feed.rank_of_leads leads with hless | ⟨hsame, _, _, page, heq, hnext⟩
    · exact .inl (hlt hless)
    · refine .inr ⟨?_, _, rfl, ?_⟩
      · rw [rank, rank, hsame]
        rfl
      · cases heq
        exact hnext
  | quiet leads =>
    rw [hcancelled] at leads
    rcases Feed.rank_of_leads leads with hless | ⟨-, _, _, _, heq, -⟩
    · exact .inl (hlt hless)
    · cases heq
  | queued leads | dropped leads =>
    rw [hcancelled] at leads
    rcases Feed.rank_of_leads leads with hless | ⟨-, _, _, _, heq, -⟩
    · exact .inl (hlt hless)
    · cases heq

end Progress

/-- The operation is about to **end**: it has stopped the other actors. -/
def Session.Phase.IsEnding (phase : Session.Phase) : Prop :=
  phase.stage = .stopping ∨ phase.stage = .tracing ∨ phase.stage = .over

theorem Session.Phase.not_isEnding_watching {target : Target} {w : Watch} :
    ¬ (Session.Phase.watching target w).IsEnding := by
  simp [IsEnding, stage]

/-- How far an operation that is about to end is from its end, apart from the other actors. -/
def Session.Phase.rank : Session.Phase → Nat
  | .stopping _ _ => 3
  | .tracing _ _ (.reading _ _) => 2
  | .tracing _ _ (.over _ _) => 1
  | _ => 0

/-- The **rank** of a session that is about to end. -/
def Session.rank (s : Session) : ℕ ×ₗ ((ℕ ×ₗ ℕ) ×ₗ ℕ) :=
  toLex (s.phase.rank, s.progress.elim (toLex (toLex (0, 0), 0)) Progress.rank)

namespace Session

variable {clock : Clock} {s t : Session} {actions : List Action}

theorem rank_lt_of_phase {phase : Phase} (h : phase.rank < s.phase.rank) :
    rank { s with phase } < s.rank :=
  Prod.Lex.toLex_lt_toLex.mpr (.inl h)

theorem rank_lt_of_progress {p p' : Progress} (hp : s.progress = some p) (h : p'.rank < p.rank) :
    rank { s with progress := some p' } < s.rank := by
  rw [rank, rank, hp]
  exact Prod.Lex.toLex_lt_toLex.mpr (.inr ⟨rfl, h⟩)

/-- A phase with a verdict is not one in which the operation has yet to stop the others. -/
theorem isEnding_of_verdict {phase : Phase} {verdict : Verdict}
    (h : phase.verdict? = some verdict) : phase.IsEnding := by
  cases phase with
  | stopping => exact .inl rfl
  | tracing => exact .inr (.inl rfl)
  | «over» => exact .inr (.inr rfl)
  | _ => cases h

theorem rank_stopped (s : Session) (target : Target) (ending : Ending) :
    (s.stopped target ending).phase.rank < 3 := by
  obtain ⟨outcome, hover⟩ | ⟨status, htrace⟩ := s.stopped_cases target ending
  · rw [hover]
    exact Nat.zero_lt_succ _
  · rw [htrace]
    exact Nat.lt_succ_self _

/-- Every step of the operation lowers the rank, unless it reads a page that is followed by another
one. -/
theorem OperationGoes.rank_cases (goes : s.OperationGoes actions t) (h : s.phase.IsEnding) :
    t.rank < s.rank ∨ t.rank = s.rank ∧ ∃ a, actions = [a] ∧ a.isContinuedPage := by
  rw [Phase.IsEnding] at h
  cases goes with
  | advance hbefore | launch hbefore | wait hbefore | stop hbefore => simp [hbefore] at h
  | follow hbefore => simp [hbefore, Phase.stage] at h
  | @stopped target ending hbefore =>
    obtain ⟨phase, hstopped⟩ := s.stopped_eq target ending
    have hless := s.rank_stopped target ending
    rw [hstopped] at hless ⊢
    refine .inl (rank_lt_of_phase ?_)
    rw [hbefore]
    exact hless
  | explain hbefore =>
    refine .inl (rank_lt_of_phase ?_)
    rw [hbefore]
    exact Nat.zero_lt_one
  | @read target status source reader hbefore reply =>
    cases reply with
    | error cause =>
      refine .inl (rank_lt_of_phase ?_)
      rw [hbefore]
      exact Nat.lt_succ_self 1
    | ok page =>
      cases htoken : page.nextToken with
      | none =>
        rw [Fetch.take_last _ _ htoken]
        refine .inl (rank_lt_of_phase ?_)
        rw [hbefore]
        exact Nat.lt_succ_self 1
      | some token =>
        rw [Fetch.take_more _ _ htoken]
        refine .inr ⟨?_, _, rfl, ?_⟩
        · rw [rank, rank, hbefore]
          rfl
        · simp [Action.isContinuedPage, htoken]

/-- The other actors can go on only while the operation waits for them. -/
theorem stage_of_works {p : Progress} (hstaged : s.Staged) (h : s.phase.IsEnding)
    (hp : s.progress = some p) (hworks : p.isOver = false) :
    s.phase.stage = .stopping ∧ p.cancelled = true := by
  rcases h with hstage | hstage | hstage
  · simp only [Staged, hstage] at hstaged
    exact ⟨hstage, hstaged p hp⟩
  · simp only [Staged, hstage] at hstaged
    exact absurd (hstaged p hp).2 (by simp [hworks])
  · simp only [Staged, hstage] at hstaged
    exact absurd (hstaged p hp) (by simp [hworks])

/-- An operation that is about to end stays so. -/
theorem OperationGoes.isEnding (goes : s.OperationGoes actions t) (h : s.phase.IsEnding) :
    t.phase.IsEnding := by
  rw [Phase.IsEnding] at h
  cases goes with
  | advance hbefore | launch hbefore | wait hbefore | stop hbefore => simp [hbefore] at h
  | follow hbefore => simp [hbefore, Phase.stage] at h
  | @stopped target ending => exact .inr (s.stage_stopped target ending).symm
  | read => exact .inr (.inl rfl)
  | explain => exact .inr (.inr rfl)

/-- **Every move leads on.** Once the operation is about to end a move of an actor lowers the rank,
unless it reads a page that is followed by another one. -/
theorem rank_of_leads {actor : Actor} (hstaged : s.Staged) (h : s.phase.IsEnding)
    (leads : (s.step clock actor).Leads clock actions t) :
    t.rank < s.rank ∨ t.rank = s.rank ∧ ∃ a, actions = [a] ∧ a.isContinuedPage := by
  cases actor with
  | operation => exact (operationGoes_of_leads leads).rank_cases h
  | feed =>
    obtain ⟨p, p', published, hp, rfl, goes⟩ := feedGoes_of_leads leads
    obtain ⟨-, hcancelled⟩ := stage_of_works hstaged h hp
      (Progress.isOver_eq_false (.inl goes.result?_eq_none))
    refine (goes.rank_cases hcancelled).imp (rank_lt_of_progress hp) fun ⟨hsame, ha⟩ => ⟨?_, ha⟩
    rw [rank, rank, hp, Option.elim_some, Option.elim_some, hsame]
  | painter =>
    obtain ⟨p, p', hp, rfl, goes⟩ := painterGoes_of_leads leads
    exact .inl (rank_lt_of_progress hp goes.rank_lt)

end Session

end StackDeploy
