import Mathlib.Data.List.Chain
import StackDeploy.Proofs.Stream.Delivery
import StackDeploy.Proofs.Stream.Feed

/-!
# The final drain

After its cancellation a feed polls all sources again, in at most `Feed.maxDrainRounds` rounds. A
round brings the sources up to date that it polls; the stacks that it discovers are one level
further down, and they are polled in the next round. If the histories do not change meanwhile and no
chain of new stacks is longer than the rounds reach, then nothing is left out.

* `Level` — the stacks at which the rounds arrive, with the chains that lead to them.
* `Feed.Drains` — where a feed stands while it drains.
* `feed_drains_completely` — what a feed that ends well has published.
-/

namespace StackDeploy

/-! ### Chains of new stacks -/

/-- From an instant on, the history of a stack **announces** another stack. -/
def LeadsTo (histories : String → List StackEvent) (since : Instant) (parent child : String) :
    Prop :=
  ∃ e ∈ histories parent, since ≤ e.timestamp ∧ e.Announces child

/-- The chains of stacks that are not followed yet **reach** at most so many levels below the
followed ones. -/
def Aggregator.Reaches (a : Aggregator) (histories : String → List StackEvent) (depth : Nat) :
    Prop :=
  ∀ s ∈ a.sources, ∀ chain : List String, chain.Nodup → (∀ key ∈ chain, key ∉ a.keys) →
    (s.stack :: chain).IsChain (LeadsTo histories s.cutoff) → chain.length ≤ depth

/-- The source has seen everything in its stack's history from its cutoff on. -/
def EventSource.UpToDate (histories : String → List StackEvent) (s : EventSource) : Prop :=
  ∀ e ∈ histories s.stack, s.cutoff ≤ e.timestamp → e.eventId ∈ s.seen

section Levels

variable {histories : String → List StackEvent} {origin : Aggregator}

/-- A chain of new stacks **descends** from a source of the original aggregator to a stack. -/
structure Descent (histories : String → List StackEvent) (origin : Aggregator)
    (head : EventSource) (chain : List String) (stack : String) (cutoff : Instant) : Prop where
  head_mem : head ∈ origin.sources
  nodup : chain.Nodup
  new : ∀ key ∈ chain, key ∉ origin.keys
  isChain : (head.stack :: chain).IsChain (LeadsTo histories head.cutoff)
  last_eq : (head.stack :: chain).getLast? = some stack
  cutoff_le : head.cutoff ≤ cutoff

/-- A stack is at a **level** when a chain of so many followed stacks descends to it. -/
def Level (histories : String → List StackEvent) (origin : Aggregator) (followed : List String)
    (n : Nat) (stack : String) (cutoff : Instant) : Prop :=
  ∃ head chain, Descent histories origin head chain stack cutoff ∧ chain.length = n ∧
    chain ⊆ followed

/-- The original sources are at level zero. -/
theorem level_zero (followed : List String) {s : EventSource} (hs : s ∈ origin.sources) :
    Level histories origin followed 0 s.stack s.cutoff := by
  refine ⟨s, [], ?_, rfl, List.nil_subset _⟩
  exact
    { head_mem := hs
      nodup := .nil
      new := fun _ hkey => nomatch hkey
      isChain := List.isChain_singleton _
      last_eq := rfl
      cutoff_le := Instant.le_refl _ }

theorem Level.mono {followed more : List String} {n : Nat} {stack : String} {cutoff : Instant}
    (h : Level histories origin followed n stack cutoff) (hmore : followed ⊆ more) :
    Level histories origin more n stack cutoff := by
  obtain ⟨head, chain, hdescent, hlength, hsubset⟩ := h
  exact ⟨head, chain, hdescent, hlength, List.Subset.trans hsubset hmore⟩

/-- A stack that is new and announced from a level on is one level further down. -/
theorem Level.succ {followed : List String} {n : Nat} {parent child : String}
    {cutoff since : Instant} {e : StackEvent}
    (h : Level histories origin followed n parent cutoff) (he : e ∈ histories parent)
    (hcutoff : cutoff ≤ e.timestamp) (hchild : e.Announces child) (hnew : child ∉ followed)
    (hkeys : origin.keys ⊆ followed) (hsince : cutoff ≤ since) :
    Level histories origin (followed ++ [child]) (n + 1) child since := by
  obtain ⟨head, chain, hdescent, hlength, hsubset⟩ := h
  refine ⟨head, chain ++ [child], ?_, by rw [List.length_append, hlength]; rfl,
    List.append_subset.mpr ⟨List.Subset.trans hsubset (List.subset_append_left _ _),
      List.subset_append_right _ _⟩⟩
  have hle : head.cutoff ≤ cutoff := hdescent.cutoff_le
  refine
    { head_mem := hdescent.head_mem
      nodup := ?_
      new := ?_
      isChain := ?_
      last_eq := by rw [← List.cons_append, List.getLast?_concat]
      cutoff_le := Instant.le_trans hle hsince }
  · -- the chain is followed, and its new end is not
    rw [← List.concat_eq_append, List.nodup_concat]
    exact ⟨fun hmem => hnew (hsubset hmem), hdescent.nodup⟩
  · intro key hkey
    rcases List.mem_append.mp hkey with hkey | hkey
    · exact hdescent.new key hkey
    · obtain rfl := List.mem_singleton.mp hkey
      exact fun hmem => hnew (hkeys hmem)
  · rw [← List.cons_append, List.isChain_append]
    refine ⟨hdescent.isChain, List.isChain_singleton _, fun last hlast next hnext => ?_⟩
    rw [hdescent.last_eq] at hlast
    obtain rfl := Option.some.inj hlast
    obtain rfl := Option.some.inj hnext
    exact ⟨e, he, Instant.le_trans hle hcutoff, hchild⟩

/-- Levels are not deeper than the chains reach. -/
theorem Level.le_of_reaches {followed : List String} {n depth : Nat} {stack : String}
    {cutoff : Instant} (h : Level histories origin followed n stack cutoff)
    (hreaches : origin.Reaches histories depth) : n ≤ depth := by
  obtain ⟨head, chain, hdescent, rfl, -⟩ := h
  exact hreaches head hdescent.head_mem chain hdescent.nodup hdescent.new hdescent.isChain

/-! ### Rounds -/

/-- After some rounds every source is up to date or at the level that they have arrived at. -/
structure Aggregator.Drained (histories : String → List StackEvent) (a origin : Aggregator)
    (n : Nat) : Prop where
  keys_subset : origin.keys ⊆ a.followed
  sources : ∀ s ∈ a.sources,
    s.UpToDate histories ∨ Level histories origin a.followed n s.stack s.cutoff

/-- In the middle of a round the polled sources are up to date, and what is new comes from the level
that the round is about. -/
structure Tick.Drains (histories : String → List StackEvent) (origin : Aggregator) (n : Nat)
    (t : Tick) : Prop where
  keys_subset : origin.keys ⊆ t.followed
  polled : ∀ s ∈ t.polled, s.UpToDate histories
  waiting : ∀ s ∈ t.waiting,
    s.UpToDate histories ∨ Level histories origin t.followed n s.stack s.cutoff
  batch : ∀ p ∈ t.batch, ∃ cutoff, (p.stack, cutoff) ∈ t.view.scopes ∧
    Level histories origin t.followed n p.stack cutoff

theorem Aggregator.Drained.startTick {n : Nat} {a : Aggregator}
    (h : a.Drained histories origin n) : (Tick.start a).Drains histories origin n :=
  { keys_subset := h.keys_subset
    polled := fun _ hs => nomatch hs
    waiting := h.sources
    batch := fun _ hp => nomatch hp }

/-- A source that is up to date has nothing to deliver. -/
theorem EventSource.UpToDate.fresh_eq_nil {source after : EventSource} {fresh : List StackEvent}
    (h : source.UpToDate histories)
    (hdelivers : source.Delivers (histories source.stack) fresh after) : fresh = [] := by
  refine List.eq_nil_iff_forall_not_mem.mpr fun e he => hdelivers.unseen e he ?_
  exact h e (hdelivers.mem_history e he) (hdelivers.cutoff_le e he)

/-- A source that takes in its whole history is up to date. -/
theorem Tick.Drains.absorb {n : Nat} {t : Tick} {source : EventSource} {waiting : List EventSource}
    (h : t.Drains histories origin n) (hwaiting : t.waiting = source :: waiting) :
    (t.absorb (histories source.stack)).Drains histories origin n := by
  have hdelivers := source.delivers_select (histories source.stack)
  have hscopes := Tick.absorb_view_scopes hwaiting (histories source.stack)
  obtain ⟨firstSeen, discovered, heq⟩ := Tick.exists_absorb hwaiting (histories source.stack)
  have hsource : source ∈ t.waiting := hwaiting ▸ List.mem_cons_self
  rw [heq] at hscopes ⊢
  refine
    { keys_subset := h.keys_subset
      polled := fun s hs => ?_
      waiting := fun s hs => h.waiting s (hwaiting ▸ List.mem_cons_of_mem _ hs)
      batch := fun p hp => ?_ }
  · rcases List.mem_append.mp hs with hs | hs
    · exact h.polled s hs
    · obtain rfl := List.mem_singleton.mp hs
      rw [EventSource.UpToDate, hdelivers.stack_eq, hdelivers.cutoff_eq]
      exact hdelivers.complete
  · rw [hscopes]
    rcases List.mem_append.mp hp with hp | hp
    · exact h.batch p hp
    · obtain ⟨e, he, rfl⟩ := List.mem_map.mp hp
      refine ⟨source.cutoff, ?_, ?_⟩
      · rw [Tick.view, Aggregator.scopes]
        exact List.mem_map_of_mem (List.mem_append_right _ hsource)
      · -- a source that is up to date delivers nothing, so this one is at the level
        refine (h.waiting source hsource).resolve_left fun huptodate => ?_
        rw [huptodate.fresh_eq_nil hdelivers] at he
        cases he

/-- A key has one scope. -/
theorem Aggregator.Delivered.cutoff_unique {a : Aggregator} {published : Batch}
    (h : a.Delivered published) {stack : String} {cutoff other : Instant}
    (hcutoff : (stack, cutoff) ∈ a.scopes) (hother : (stack, other) ∈ a.scopes) :
    cutoff = other := by
  have hnodup := h.nodup_keys
  rw [Aggregator.keys_eq] at hnodup
  exact (Prod.mk.inj (List.inj_on_of_nodup_map hnodup hcutoff hother rfl)).2

/-- When a round is over, the stacks discovered in it are the next level. -/
theorem Tick.Drains.finish {n : Nat} {t : Tick} {published : Batch}
    (h : t.Drains histories origin n) (hsound : t.Sound histories published)
    (hwaiting : t.waiting = []) : t.finish.aggregator.Drained histories origin (n + 1) := by
  have hfollowed : t.followed ⊆ t.finish.aggregator.followed := List.subset_append_left _ _
  refine
    { keys_subset := List.Subset.trans h.keys_subset hfollowed
      sources := fun s hs => ?_ }
  rw [Tick.finish, hwaiting, List.append_nil] at hs
  rcases List.mem_append.mp hs with hs | hs
  · exact .inl (h.polled s hs)
  · obtain ⟨d, hd, rfl⟩ := List.mem_map.mp hs
    obtain ⟨p, hp, hann, since, hsince, hle⟩ := hsound.discoveries.announced d hd
    obtain ⟨cutoff, hcutoff, hlevel⟩ := h.batch p hp
    obtain ⟨earliest, hearliest, hcurrent⟩ :=
      hsound.view.inScope p (List.mem_append_right _ hp)
    -- the three cutoffs are those of the one source whose event announces the stack
    obtain rfl := hsound.view.cutoff_unique hcutoff hsince
    obtain rfl := hsound.view.cutoff_unique hcutoff hearliest
    refine .inr (Level.mono (hlevel.succ (hsound.mem_history p (List.mem_append_right _ hp))
      hcurrent hann (hsound.discoveries.not_mem_followed d hd) h.keys_subset hle) ?_)
    refine List.append_subset.mpr ⟨hfollowed, fun key hkey => ?_⟩
    obtain rfl := List.mem_singleton.mp hkey
    exact List.mem_append_right _ (List.mem_map_of_mem hd)

/-- A round that discovers nothing leaves every source up to date. -/
theorem Tick.Drains.upToDate_of_discovered_eq_nil {n : Nat} {t : Tick}
    (h : t.Drains histories origin n) (hwaiting : t.waiting = []) (hnone : t.discovered = []) :
    ∀ s ∈ t.finish.aggregator.sources, s.UpToDate histories := by
  intro s hs
  rw [Tick.finish, hwaiting, hnone, List.map_nil, List.append_nil, List.append_nil] at hs
  exact h.polled s hs

/-- Below the depth that the chains reach there is nothing, so every source is up to date. -/
theorem Aggregator.Drained.upToDate_of_reaches {n depth : Nat} {a : Aggregator}
    (h : a.Drained histories origin n) (hreaches : origin.Reaches histories depth)
    (hdepth : depth < n) : ∀ s ∈ a.sources, s.UpToDate histories :=
  fun s hs => (h.sources s hs).resolve_right fun hlevel =>
    absurd (hlevel.le_of_reaches hreaches) (Nat.not_le_of_lt hdepth)

/-! ### Draining feeds -/

variable {paging : Paging}

/-- A poll of a round, which may be in the middle of a history or have failed. -/
def Poll.Drains (paging : Paging) (histories : String → List StackEvent) (origin : Aggregator)
    (n : Nat) : Poll → Prop
  | .reading tick reader => tick.Drains histories origin n ∧
      ∀ source waiting, tick.waiting = source :: waiting →
        reader.gathered ++ paging.rest (histories source.stack) reader.token =
          histories source.stack
  | .over outcome => ∃ e, outcome.result = .error e

/-- How a round ends: it has failed, or the sources have come one level further, and they are up to
date if nothing was found. -/
def RoundEnds (histories : String → List StackEvent) (origin : Aggregator) (n : Nat)
    (a : Aggregator) (result : Except FetchError Nat) : Prop :=
  (∃ e, result = .error e) ∨ ∃ found, result = .ok found ∧
    a.Drained histories origin (n + 1) ∧
    (found = 0 → ∀ s ∈ a.sources, s.UpToDate histories)

/-- Where a feed stands while it **drains**. The rounds done and the rounds left, the present one
included, are always as many together. -/
def Feed.Drains (paging : Paging) (histories : String → List StackEvent) (origin : Aggregator)
    (f : Feed) : Prop :=
  match f.phase with
  | .polling (.draining left) poll =>
      ∃ n, n + left = maxDrainRounds ∧ 0 < left ∧ poll.Drains paging histories origin n
  | .publishing (.draining left) _ result =>
      ∃ n, n + left = maxDrainRounds ∧ 0 < left ∧ RoundEnds histories origin n f.aggregator result
  | .over (.ok ()) => ∀ s ∈ f.aggregator.sources, s.UpToDate histories
  | .over (.error _) => True
  | _ => False

theorem Aggregator.Drained.startPoll {n : Nat} {a : Aggregator}
    (h : a.Drained histories origin n) : (Poll.start a).Drains paging histories origin n :=
  ⟨h.startTick, fun _ _ _ => by rw [HistoryReader.start, paging.rest_none, List.nil_append]⟩

/-- A page that is cut from the history brings the poll on. -/
theorem Poll.Drains.take {n : Nat} {tick : Tick} {reader : HistoryReader} {source : EventSource}
    {waiting : List EventSource}
    (h : (Poll.reading tick reader).Drains paging histories origin n)
    (hwaiting : tick.waiting = source :: waiting) {reply : Except ApiError EventPage}
    (hreply : ∀ page, reply = .ok page →
      paging.Cuts (histories source.stack) reader.token page) :
    (Poll.take tick source.stack reader reply).Drains paging histories origin n := by
  cases reply with
  | error cause => exact ⟨_, rfl⟩
  | ok page =>
    have hread := h.2 source waiting hwaiting
    rw [hreply page rfl, ← List.append_assoc] at hread
    cases htoken : page.nextToken with
    | some token =>
      rw [htoken] at hread
      rw [take_more _ _ _ htoken]
      refine ⟨h.1, fun other rest hother => ?_⟩
      obtain ⟨rfl, -⟩ := List.cons.inj (hwaiting.symm.trans hother)
      exact hread
    | none =>
      rw [htoken, Option.elim_none, List.append_nil] at hread
      rw [take_last _ _ _ htoken, hread]
      exact ⟨h.1.absorb hwaiting, fun _ _ _ => by
        rw [HistoryReader.start, paging.rest_none, List.nil_append]⟩

/-- A poll that is over ends its round. -/
theorem Poll.Drains.ends {n : Nat} {p : Poll} {published : Batch} {o : TickOutcome}
    (h : p.Drains paging histories origin n) (hsound : p.Sound histories published)
    (hdone : p.step = .done o) : RoundEnds histories origin n o.aggregator o.result := by
  rcases cases_of_step_eq_done hdone with rfl | ⟨tick, reader, rfl, hwaiting, rfl⟩
  · exact .inl h
  · refine .inr ⟨_, rfl, h.1.finish hsound.1 hwaiting, fun hfound => ?_⟩
    exact h.1.upToDate_of_discovered_eq_nil hwaiting (List.length_eq_zero_iff.mp hfound)

namespace Feed

/-- After a round the feed is over, or the next round is about the next level. -/
theorem drains_settle {clock : Clock} {f : Feed} {left n : Nat} {result : Except FetchError Nat}
    (hreaches : origin.Reaches histories (maxDrainRounds - 1)) (hrounds : n + left = maxDrainRounds)
    (hleft : 0 < left) (h : RoundEnds histories origin n f.aggregator result) :
    (f.settle clock (.draining left) result).Drains paging histories origin := by
  rcases h with ⟨e, rfl⟩ | ⟨found, rfl, hdrained, hnone⟩
  · trivial
  · rw [settle.eq_def]
    dsimp only
    split
    next hlast =>
      -- nothing was found, or the rounds are used up and have come below every chain
      rcases Bool.or_eq_true_iff.mp hlast with hfound | hone
      · exact hnone (by simpa using hfound)
      · have hone : left ≤ 1 := by simpa using hone
        exact hdrained.upToDate_of_reaches hreaches (by omega)
    next hmore =>
      have hmore : 1 < left := by
        by_contra hle
        simp [Nat.le_of_not_lt hle] at hmore
      exact ⟨n + 1, by omega, by omega, hdrained.startPoll⟩

theorem drains_conclude {clock : Clock} {f : Feed} {left n : Nat} {o : TickOutcome}
    (hreaches : origin.Reaches histories (maxDrainRounds - 1)) (hrounds : n + left = maxDrainRounds)
    (hleft : 0 < left) (h : RoundEnds histories origin n o.aggregator o.result) :
    (f.conclude clock (.draining left) o).Drains paging histories origin := by
  rw [conclude]
  split
  · exact drains_settle hreaches hrounds hleft h
  · exact ⟨n, hrounds, hleft, h⟩

/-- Pages cut from the histories keep a feed draining. -/
theorem Drains.goes {clock : Clock} {f g : Feed} {deeds : List Deed} {published : Batch}
    (h : f.Drains paging histories origin) (hsound : f.Sound histories published)
    (hreaches : origin.Reaches histories (maxDrainRounds - 1)) (goes : f.Goes clock deeds g)
    (hpages : ∀ stack token page, deeds = [.page stack token (.ok page)] →
      paging.Cuts (histories stack) token page) :
    g.Drains paging histories origin := by
  obtain ⟨a, interval, phase⟩ := f
  cases goes with
  | poll hphase =>
    obtain rfl : phase = .ready := hphase
    exact h.elim
  | drain hphase =>
    obtain rfl | ⟨deadline, rfl⟩ : phase = .ready ∨ ∃ deadline, phase = .pausing deadline := hphase
    · exact h.elim
    · exact h.elim
  | @wake deadline hphase =>
    obtain rfl : phase = .pausing deadline := hphase
    exact h.elim
  | @page round tick reader source waiting hphase hwaiting reply =>
    obtain rfl : phase = .polling round (.reading tick reader) := hphase
    cases round with
    | regular => exact h.elim
    | draining left =>
      obtain ⟨n, hrounds, hleft, hdrains⟩ := h
      exact ⟨n, hrounds, hleft,
        hdrains.take hwaiting fun page hpage => hpages _ _ page (by rw [hpage])⟩
  | @conclude round poll outcome hphase hdone =>
    obtain rfl : phase = .polling round poll := hphase
    cases round with
    | regular => exact h.elim
    | draining left =>
      obtain ⟨n, hrounds, hleft, hdrains⟩ := h
      exact drains_conclude hreaches hrounds hleft (hdrains.ends hsound hdone)
  | @publish round batch result hphase =>
    obtain rfl : phase = .publishing round batch result := hphase
    cases round with
    | regular => exact h.elim
    | draining left =>
      obtain ⟨n, hrounds, hleft, hends⟩ := h
      exact drains_settle hreaches hrounds hleft hends

end Feed

end Levels

/-! ### The start of the drain -/

namespace Feed

/-- The feed has just **begun to drain**. -/
def BeginsDrain (f : Feed) : Prop :=
  f.phase = .polling (.draining maxDrainRounds) (.start f.aggregator)

/-- The feed has not begun to drain. -/
def Regular (f : Feed) : Prop :=
  match f.phase with
  | .ready | .pausing _ | .polling .regular _ | .publishing .regular _ _ | .over (.error _) => True
  | .polling (.draining _) _ | .publishing (.draining _) _ _ | .over (.ok ()) => False

theorem regular_settle (clock : Clock) (f : Feed) (result : Except FetchError Nat) :
    (f.settle clock .regular result).Regular := by
  cases result <;> trivial

theorem Regular.goes {clock : Clock} {f g : Feed} {deeds : List Deed} (h : f.Regular)
    (goes : f.Goes clock deeds g) : g.Regular ∨ g.BeginsDrain := by
  obtain ⟨a, interval, phase⟩ := f
  cases goes with
  | poll | wake => exact .inl trivial
  | drain => exact .inr rfl
  | @page round tick reader source waiting hphase hwaiting reply =>
    obtain rfl : phase = .polling round (.reading tick reader) := hphase
    cases round with
    | regular => exact .inl trivial
    | draining left => exact h.elim
  | @conclude round poll outcome hphase hdone =>
    obtain rfl : phase = .polling round poll := hphase
    cases round with
    | regular =>
      rw [conclude]
      split
      · exact .inl (regular_settle _ _ _)
      · exact .inl trivial
    | draining left => exact h.elim
  | @publish round batch result hphase =>
    obtain rfl : phase = .publishing round batch result := hphase
    cases round with
    | regular => exact .inl (regular_settle _ _ _)
    | draining left => exact h.elim

/-- A feed that is not regular any more has begun to drain at some time. -/
theorem exists_drain_of_runs {start f : Feed} {deeds : List Deed} (hstart : start.Regular)
    (run : start.Runs deeds f) : f.Regular ∨ ∃ before after g, deeds = before ++ after ∧
      start.Runs before g ∧ g.BeginsDrain ∧ g.Runs after f := by
  induction run with
  | start => exact .inl hstart
  | @move earlier deeds f g clock cancelled run leads ih =>
    rcases ih with hregular | ⟨before, after, origin, rfl, hbefore, hbegins, hafter⟩
    · refine (hregular.goes (goes_of_leads leads)).imp_right fun hbegins => ?_
      exact ⟨earlier ++ deeds, [], g, by rw [List.append_nil], run.move clock cancelled leads,
        hbegins, .start⟩
    · exact .inr ⟨before, after ++ deeds, origin, by rw [List.append_assoc], hbefore, hbegins,
        hafter.move clock cancelled leads⟩

end Feed

/-! ### Completeness -/

/-- The published events of one stack. -/
def eventsOf (stack : String) (published : Batch) : List StackEvent :=
  (published.filter fun p => p.stack = stack).map StreamEvent.event

theorem mem_eventsOf {stack : String} {published : Batch} {e : StackEvent} :
    e ∈ eventsOf stack published ↔ ⟨stack, e⟩ ∈ published := by
  constructor
  · intro he
    obtain ⟨p, hp, rfl⟩ := List.mem_map.mp he
    obtain ⟨hmem, hstack⟩ := List.mem_filter.mp hp
    obtain rfl := of_decide_eq_true hstack
    exact hmem
  · exact fun he => List.mem_map.mpr ⟨⟨stack, e⟩, List.mem_filter.mpr ⟨he, by simp⟩, rfl⟩

theorem nodup_eventsOf {published : Batch} (h : (published.map StreamEvent.ident).Nodup)
    (stack : String) : (eventsOf stack published).Nodup := by
  refine (h.of_map.filter _).map_on fun p hp q hq hevent => ?_
  have hstack : p.stack = q.stack :=
    (of_decide_eq_true (List.mem_filter.mp hp).2).trans
      (of_decide_eq_true (List.mem_filter.mp hq).2).symm
  obtain ⟨stack, event⟩ := p
  obtain rfl : stack = q.stack := hstack
  obtain rfl : event = q.event := hevent
  rfl

/-- Of a source that is up to date exactly the history from its cutoff on was published. -/
theorem Aggregator.Sound.perm_eventsOf {a : Aggregator} {published : Batch}
    {histories : String → List StackEvent} (h : a.Sound histories published) {s : EventSource}
    (hs : s ∈ a.sources) (huptodate : s.UpToDate histories)
    (hnodup : ((histories s.stack).map StackEvent.eventId).Nodup) :
    (eventsOf s.stack published).Perm
      ((histories s.stack).filter fun e => decide (s.cutoff ≤ e.timestamp)) := by
  refine (List.perm_ext_iff_of_nodup (nodup_eventsOf h.once s.stack)
    (hnodup.of_map.filter _)).mpr fun e => ?_
  rw [mem_eventsOf, List.mem_filter, decide_eq_true_eq]
  constructor
  · intro hp
    obtain ⟨cutoff, hcutoff, hle⟩ := h.inScope _ hp
    have hscope : (s.stack, s.cutoff) ∈ a.scopes := List.mem_map_of_mem hs
    exact ⟨h.mem_history _ hp, h.cutoff_unique hscope hcutoff ▸ hle⟩
  · -- the identifier was published, and in the history only one event has it
    rintro ⟨he, hcutoff⟩
    obtain ⟨p, hp, hident⟩ := List.mem_map.mp ((h.mem_seen s hs _).mp (huptodate e he hcutoff))
    obtain ⟨hstack, hid⟩ := Prod.mk.inj hident
    have hhistory := h.mem_history p hp
    rw [hstack] at hhistory
    obtain rfl := List.inj_on_of_nodup_map hnodup hhistory he hid
    exact hstack ▸ hp

section Completeness

variable {paging : Paging} {timeline : Timeline} {root : String} {cutoff : Instant}
  {interval : Nat}

theorem Feed.BeginsDrain.drains {histories : String → List StackEvent} {published : Batch}
    {g : Feed} (h : g.BeginsDrain) (hsound : g.Sound histories published) :
    g.Drains paging histories g.aggregator := by
  obtain ⟨a, interval, phase⟩ := g
  obtain rfl : phase = .polling (.draining maxDrainRounds) (.start a) := h
  have hview : a.Delivered (published ++ []) := hsound.1.view
  have hdrained : a.Drained histories a 0 :=
    { keys_subset := hview.followed_eq ▸ List.Subset.refl _
      sources := fun s hs => .inr (level_zero _ hs) }
  exact ⟨0, rfl, by decide, hdrained.startPoll⟩

/-- As long as the histories stay as they were when the drain began, the feed keeps draining. -/
theorem Feed.drains_of_runs {before after : List Deed} {g f : Feed}
    (hbefore : (Feed.start root cutoff interval).Runs before g) (hbegins : g.BeginsDrain)
    (run : g.Runs after f) (hserved : Obeys (timeline.Serves paging) (before ++ after))
    (hstill : ∀ n, before.length ≤ n → n ≤ (before ++ after).length →
      timeline.history n = timeline.history before.length)
    (hreaches : g.aggregator.Reaches (timeline.history before.length) (maxDrainRounds - 1)) :
    f.Drains paging (timeline.history before.length) g.aggregator := by
  induction run with
  | start => exact hbegins.drains (sound_of_runs hbefore hserved.left)
  | @move earlier deeds f f' clock cancelled run leads ih =>
    rw [← List.append_assoc] at hserved hstill
    have hnow : timeline.history (before ++ earlier).length = timeline.history before.length :=
      hstill _ (by simp) (by simp)
    have hsound := sound_of_runs (hbefore.trans run) hserved.left
    rw [hnow] at hsound
    refine (ih hserved.left fun n hle hlt => hstill n hle ?_).goes hsound hreaches
      (goes_of_leads leads) ?_
    · rw [List.length_append]
      exact Nat.le_add_right_of_le hlt
    · rintro stack token page rfl
      rw [← hnow]
      exact (obeys_append_singleton.mp hserved).2

/-- **The final drain is complete.** A feed that ends well has begun to drain at some time. If the
histories did not change from then on, and the chains of stacks that were not followed then reach at
most four levels below the followed ones, then exactly the histories of its sources from their
cutoffs on were published, every event once, and every announced stack has a source. -/
theorem feed_drains_completely {deeds : List Deed} {f : Feed}
    (run : (Feed.start root cutoff interval).Runs deeds f)
    (hserved : Obeys (timeline.Serves paging) deeds) (hok : f.result? = some (.ok ())) :
    ∃ before after g, deeds = before ++ after ∧
      (Feed.start root cutoff interval).Runs before g ∧ g.BeginsDrain ∧ g.Runs after f ∧
      ((∀ n, before.length ≤ n → n ≤ deeds.length →
          timeline.history n = timeline.history before.length) →
        g.aggregator.Reaches (timeline.history before.length) 4 →
        (∀ s ∈ f.aggregator.sources, (eventsOf s.stack (publishedIn deeds)).Perm
          ((timeline.history deeds.length s.stack).filter fun e =>
            decide (s.cutoff ≤ e.timestamp))) ∧
        ∀ p ∈ publishedIn deeds, ∀ child, p.event.Announces child →
          child ∈ f.aggregator.keys) := by
  have hphase : f.phase = .over (.ok ()) := by
    rw [Feed.result?] at hok
    split at hok
    next hover => rw [hover, Option.some.inj hok]
    · cases hok
  have hregular : (Feed.start root cutoff interval).Regular := trivial
  rcases Feed.exists_drain_of_runs hregular run with hstill | ⟨before, after, g, rfl, hbefore,
    hbegins, hafter⟩
  · simp [Feed.Regular, hphase] at hstill
  refine ⟨before, after, g, rfl, hbefore, hbegins, hafter, fun hstill hreaches => ?_⟩
  have hsound := Feed.sound_of_runs run hserved
  have hdrains := Feed.drains_of_runs hbefore hbegins hafter hserved hstill hreaches
  simp only [Feed.Sound, Feed.Drains, hphase] at hsound hdrains
  refine ⟨fun s hs => ?_, hsound.mem_keys⟩
  have hnow := hstill (before ++ after).length (by simp) (Nat.le_refl _)
  exact hsound.perm_eventsOf hs (hnow ▸ hdrains s hs) (timeline.nodup _ _)

end Completeness

/-! ### A drain that finds a nested stack -/

/-- Pages that hold whole histories. -/
def wholePages : Paging where
  rest history token := token.elim history fun _ => []
  rest_none _ := rfl
  rest_subset history token := by
    cases token with
    | none => exact List.Subset.refl _
    | some _ => exact List.nil_subset _

/-- A root stack with a nested stack, in which a queue was created. -/
def addonsTimeline : Timeline where
  history _ stack :=
    if stack = "app" then [addonsCreated] else if stack = "addons" then [queueCreated] else []
  grows _ _ := List.Subset.refl _
  nodup _ stack := by
    split
    · exact List.nodup_singleton _
    · split
      · exact List.nodup_singleton _
      · exact List.nodup_nil

/-- The deeds of a feed that is cancelled before it has polled. -/
def drainDeeds : List Deed :=
  [.page "app" none (.ok ⟨[addonsCreated], none⟩), .publish [⟨"app", addonsCreated⟩],
    .page "app" none (.ok ⟨[addonsCreated], none⟩),
    .page "addons" none (.ok ⟨[queueCreated], none⟩), .publish [⟨"addons", queueCreated⟩]]

/-- The feed when it is over. -/
def drainedFeed : Feed :=
  { aggregator := ⟨[⟨"app", .epoch, ["created"]⟩, ⟨"addons", .epoch, ["queue"]⟩], ["app", "addons"],
      [(("app", "Addons"), .epoch)]⟩
    interval := 3000
    phase := .over (.ok ()) }

theorem drainedFeed_runs : (Feed.start "app" .epoch 3000).Runs drainDeeds drainedFeed := by
  have clock : Clock := ⟨0, 0, .epoch⟩
  have begun : (Feed.start "app" .epoch 3000).Runs [] _ :=
    Feed.Runs.start.move clock true (.goOn _)
  have asked := begun.move clock true (.call _ _ (.ok (⟨[addonsCreated], none⟩ : EventPage)))
  have concluded := asked.move clock true (.goOn _)
  have published := concluded.move clock true (.publish _ _)
  have again := published.move clock true (.call _ _ (.ok (⟨[addonsCreated], none⟩ : EventPage)))
  have nested := again.move clock true (.call _ _ (.ok (⟨[queueCreated], none⟩ : EventPage)))
  have found := nested.move clock true (.goOn _)
  exact found.move clock true (.publish _ _)

theorem drainDeeds_served : Obeys (addonsTimeline.Serves wholePages) drainDeeds := by
  have page (before : List Deed) (stack : String)
      (hbefore : Obeys (addonsTimeline.Serves wholePages) before) :
      Obeys (addonsTimeline.Serves wholePages)
        (before ++ [.page stack none (.ok ⟨addonsTimeline.history 0 stack, none⟩)]) :=
    obeys_append_singleton.mpr ⟨hbefore, (List.append_nil _).symm⟩
  have publish (before : List Deed) (batch : Batch)
      (hbefore : Obeys (addonsTimeline.Serves wholePages) before) :
      Obeys (addonsTimeline.Serves wholePages) (before ++ [.publish batch]) :=
    obeys_append_singleton.mpr ⟨hbefore, trivial⟩
  have first := publish _ [⟨"app", addonsCreated⟩] (page _ "app" (obeys_nil _))
  exact publish _ [⟨"addons", queueCreated⟩] (page _ "addons" (page _ "app" first))

/-- Only the root stack leads to another stack. -/
theorem leadsTo_addons {n : Nat} {since : Instant} {parent child : String}
    (h : LeadsTo (addonsTimeline.history n) since parent child) :
    parent = "app" ∧ child = "addons" := by
  obtain ⟨e, he, -, hann⟩ := h
  rw [addonsTimeline] at he
  dsimp only at he
  split at he
  next hparent =>
    obtain rfl := List.mem_singleton.mp he
    exact ⟨hparent, hann.2.2.1.symm⟩
  · split at he
    · obtain rfl := List.mem_singleton.mp he
      exact absurd hann.1 (by decide +kernel)
    · cases he

theorem addons_reaches (a : Aggregator) (n : Nat) : a.Reaches (addonsTimeline.history n) 4 := by
  intro s _ chain _ _ hchain
  match chain, hchain with
  | [], _ => exact Nat.zero_le _
  | [_], _ => exact Nat.le_of_ble_eq_true rfl
  | _ :: _ :: _, .cons_cons hfirst (.cons_cons hsecond _) =>
    obtain ⟨-, rfl⟩ := leadsTo_addons hfirst
    exact absurd (leadsTo_addons hsecond).1 (by decide +kernel)

/-- The drain publishes the queue of the nested stack. -/
theorem drainedFeed_complete :
    (Feed.start "app" .epoch 3000).Runs drainDeeds drainedFeed ∧
      Obeys (addonsTimeline.Serves wholePages) drainDeeds ∧
      drainedFeed.result? = some (.ok ()) ∧
      (eventsOf "addons" (publishedIn drainDeeds)).Perm
        ([queueCreated].filter fun e => decide (Instant.epoch ≤ e.timestamp)) := by
  obtain ⟨before, after, g, -, -, -, -, hcomplete⟩ :=
    feed_drains_completely drainedFeed_runs drainDeeds_served rfl
  have hevents := (hcomplete (fun _ _ _ => rfl) (addons_reaches _ _)).1
  exact ⟨drainedFeed_runs, drainDeeds_served, rfl,
    hevents ⟨"addons", .epoch, ["queue"]⟩ (by simp [drainedFeed])⟩

end StackDeploy
