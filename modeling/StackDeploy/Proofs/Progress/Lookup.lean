import StackDeploy.Proofs.Progress.Work
import StackDeploy.Proofs.Text.Search
import StackDeploy.Service.Rollout

/-!
# Lookups of failing services

For a node that shows a failing service the display looks up the rollout. It considers each node
once, namely at the first failure that the node shows: if the physical identifier of that event does
not name a service, the node stays without a lookup, also when a later failure names one.

* `ServiceRef.ofPhysicalId?_eq_some_iff` — which service a physical identifier names.
* `ProgressTree.failures` — the failing services that events show, with their nodes.
* `Display.HasAsked` — what a display has asked about; `Display.HasAsked.notify` is its step.
* `first_failure_is_looked_up` — the lookups of a painter are those of the first failures.
* `named_failure_is_not_looked_up` — a failure that is not the first is not looked up.
-/

namespace StackDeploy

open Text

/-! ### The service of a physical identifier -/

namespace ServiceRef

/-- The reference is **named** by a physical identifier: its parts are not empty and stand behind
the last two slashes, the cluster's part possibly at the beginning. -/
structure IsNamedBy (ref : ServiceRef) (physicalId : String) : Prop where
  cluster_ne : ref.cluster ≠ ""
  service_ne : ref.service ≠ ""
  cluster_slash : '/' ∉ ref.cluster.toList
  service_slash : '/' ∉ ref.service.toList
  ends : physicalId = ref.cluster ++ "/" ++ ref.service ∨
    ∃ path, physicalId = path ++ "/" ++ ref.cluster ++ "/" ++ ref.service

variable {physicalId : String} {ref : ServiceRef}

/-- What is read from an identifier that has at least two pieces. -/
theorem ofPhysicalId?_eq_some {pieces : List (List Char)} {cluster service : List Char}
    (h : splitOnChar '/' physicalId.toList = pieces ++ [cluster] ++ [service]) :
    ofPhysicalId? physicalId = some ref ↔
      (service ≠ [] ∧ cluster ≠ []) ∧ ref = ⟨String.ofList cluster, String.ofList service⟩ := by
  rw [ofPhysicalId?, h, List.reverse_concat, List.reverse_concat, ne_eq, ne_eq, ← not_or]
  dsimp only
  split
  next hempty => simp [hempty]
  next hempty => simp [hempty, eq_comm]

theorem isNamedBy_of_ofPhysicalId? (h : ofPhysicalId? physicalId = some ref) :
    ref.IsNamedBy physicalId := by
  by_cases hid : '/' ∈ physicalId.toList
  · obtain ⟨first, service, heq, hservice⟩ := exists_last_of_mem hid
    have hsplit := splitOnChar_append first hservice
    rw [← heq] at hsplit
    by_cases hfirst : '/' ∈ first
    · obtain ⟨path, cluster, rfl, hcluster⟩ := exists_last_of_mem hfirst
      rw [splitOnChar_append _ hcluster] at hsplit
      obtain ⟨⟨hs, hc⟩, rfl⟩ := (ofPhysicalId?_eq_some hsplit).mp h
      refine ⟨by simpa using hc, by simpa using hs, by simpa using hcluster,
        by simpa using hservice, .inr ⟨String.ofList path, ?_⟩⟩
      rw [← String.toList_inj, heq]
      simp
    · have hpair : splitOnChar '/' physicalId.toList = [] ++ [first] ++ [service] := by
        rw [hsplit, splitOnChar_of_not_mem hfirst]
        rfl
      obtain ⟨⟨hs, hc⟩, rfl⟩ := (ofPhysicalId?_eq_some hpair).mp h
      refine ⟨by simpa using hc, by simpa using hs, by simpa using hfirst,
        by simpa using hservice, .inl ?_⟩
      rw [← String.toList_inj, heq]
      simp
  · rw [ofPhysicalId?, splitOnChar_of_not_mem hid] at h
    cases h

theorem IsNamedBy.ofPhysicalId? (h : ref.IsNamedBy physicalId) :
    ofPhysicalId? physicalId = some ref := by
  have hsplit : ∃ pieces, splitOnChar '/' physicalId.toList =
      pieces ++ [ref.cluster.toList] ++ [ref.service.toList] := by
    rcases h.ends with hid | ⟨path, hid⟩
    · have hlist : physicalId.toList = ref.cluster.toList ++ '/' :: ref.service.toList := by
        simp [hid]
      refine ⟨[], ?_⟩
      rw [hlist, splitOnChar_append _ h.service_slash, splitOnChar_of_not_mem h.cluster_slash]
      rfl
    · have hlist : physicalId.toList =
          (path.toList ++ '/' :: ref.cluster.toList) ++ '/' :: ref.service.toList := by
        simp [hid]
      refine ⟨splitOnChar '/' path.toList, ?_⟩
      rw [hlist, splitOnChar_append _ h.service_slash, splitOnChar_append _ h.cluster_slash]
  obtain ⟨pieces, hsplit⟩ := hsplit
  refine (ofPhysicalId?_eq_some hsplit).mpr ⟨⟨?_, ?_⟩, ?_⟩
  · simpa using h.service_ne
  · simpa using h.cluster_ne
  · rw [String.ofList_toList, String.ofList_toList]

/-- **The reference that is read is the one that the identifier names.** -/
theorem ofPhysicalId?_eq_some_iff : ofPhysicalId? physicalId = some ref ↔
    ref.IsNamedBy physicalId :=
  ⟨isNamedBy_of_ofPhysicalId?, IsNamedBy.ofPhysicalId?⟩

end ServiceRef

/-! ### Failing services -/

/-- The event reports a **failing service**. -/
def StackEvent.isFailingService (e : StackEvent) : Bool := e.isFailure && e.kind = .service

namespace ProgressTree

/-- The node on which an event shows a failing service; an event that is stale shows nothing. -/
def failure? (t : ProgressTree) (e : StreamEvent) : Option Nat :=
  (t.apply e).1.filter fun _ => e.event.isFailingService

/-- The **failing services** that events show, one after the other, each with its node. -/
def failures (t : ProgressTree) : Batch → List (Nat × StackEvent)
  | [] => []
  | e :: rest =>
    ((t.failure? e).map fun idx => (idx, e.event)).toList ++ (t.apply e).2.failures rest

/-- The **first** of them on a node. -/
def firstFailure? (t : ProgressTree) (events : Batch) (idx : Nat) : Option StackEvent :=
  ((t.failures events).find? fun failure => failure.1 == idx).map Prod.snd

/-- Lines of diagnosis do not matter. -/
theorem failure?_plain (t : ProgressTree) (e : StreamEvent) :
    t.plain.failure? e = t.failure? e := by
  rw [failure?, failure?, plain_apply]

theorem failures_append_singleton (t : ProgressTree) (events : Batch) (e : StreamEvent) :
    t.failures (events ++ [e]) = t.failures events ++
      (((t.applyAll events).failure? e).map fun idx => (idx, e.event)).toList := by
  induction events generalizing t with
  | nil => rw [List.nil_append, failures, failures, failures, List.append_nil]; rfl
  | cons first events ih =>
    rw [List.cons_append, failures, failures, ih, List.append_assoc]
    rfl

/-- A further event is the first failure of a node if it fails there and nothing has before. -/
theorem firstFailure?_append_singleton (t : ProgressTree) (events : Batch) (e : StreamEvent)
    (idx : Nat) : t.firstFailure? (events ++ [e]) idx = (t.firstFailure? events idx).or
      (if (t.applyAll events).failure? e = some idx then some e.event else none) := by
  rw [firstFailure?, firstFailure?, failures_append_singleton, List.find?_append, Option.map_or]
  refine congrArg _ ?_
  cases (t.applyAll events).failure? e with
  | none => rfl
  | some node =>
    by_cases hnode : node = idx
    · simp [hnode]
    · simp [hnode]

end ProgressTree

/-! ### What a display has asked about -/

namespace Display

open ProgressTree

variable {d d' : Display} {t : ProgressTree} {seen : Batch} {e : StreamEvent} {idx : Nat}
  {lookups : List Lookup} {lookup : Lookup} {lookup? : Option Lookup}

/-- An event that shows no failing service is only applied. -/
theorem notify_of_failure?_eq_none (h : d.tree.failure? e = none) :
    d.notify e = (d.shown e, none) := by
  rw [notify]
  split
  next htree => rw [shown, htree]
  next htree =>
    have hservice : e.event.isFailingService = false := by
      simpa [failure?, htree] using h
    rw [StackEvent.isFailingService] at hservice
    rw [hservice, shown, htree]
    rfl

/-- A failing service is considered. -/
theorem notify_of_failure?_eq_some (h : d.tree.failure? e = some idx) :
    d.notify e = (d.shown e).consider idx e.event := by
  obtain ⟨hnode, hservice⟩ := Option.filter_eq_some_iff.mp h
  rw [StackEvent.isFailingService] at hservice
  have htree : d.tree.apply e = (some idx, (d.tree.apply e).2) := by rw [← hnode]
  rw [notify, htree]
  dsimp only
  rw [if_pos hservice, shown, htree]

/-- These are the lookups that a display **has asked** for when these events have been applied to
a tree. -/
structure HasAsked (d : Display) (t : ProgressTree) (seen : Batch) (lookups : List Lookup) :
    Prop where
  tree : d.tree.plain = t.applyAll seen
  /-- The nodes that were considered are those on which a service has failed. -/
  enriched : ∀ idx, idx ∈ d.enriched ↔
    d.lookups = true ∧ (t.firstFailure? seen idx).isSome = true
  /-- No node is looked up twice. -/
  nodup : (lookups.map (·.node)).Nodup
  /-- The lookups are those of the services that the first failures name. -/
  mem_iff : ∀ lookup, lookup ∈ lookups ↔ d.lookups = true ∧
    ∃ e, t.firstFailure? seen lookup.node = some e ∧ lookup.ref.IsNamedBy e.physicalId

theorem hasAsked_start (root : String) (options : DisplayOptions) (lookups : Bool) :
    (Display.start root options lookups).HasAsked (.start root) [] [] where
  tree := rfl
  enriched := by simp [Display.start, firstFailure?, failures]
  nodup := .nil
  mem_iff := by simp [firstFailure?, failures]

/-- A line of diagnosis is not an event. -/
theorem HasAsked.answered {ε : Type} (h : d.HasAsked t seen lookups) (lookup : Lookup)
    (answer : Except ε Rollout) : (d.answered lookup answer).HasAsked t seen lookups := by
  have hsame : (d.answered lookup answer).enriched = d.enriched ∧
      (d.answered lookup answer).lookups = d.lookups := by
    cases answer <;> exact ⟨rfl, rfl⟩
  refine ⟨by rw [plain_answered, h.tree], ?_, h.nodup, ?_⟩
  · rw [hsame.1, hsame.2]
    exact h.enriched
  · rw [hsame.2]
    exact h.mem_iff

theorem HasAsked.plain_shown (h : d.HasAsked t seen lookups) :
    (d.shown e).tree.plain = t.applyAll (seen ++ [e]) := by
  have hplain := congrArg Prod.snd (plain_apply d.tree e)
  rw [applyAll_append_singleton, ← h.tree, hplain]
  rfl

/-- An event that is the first failure of no node asks for nothing. -/
theorem HasAsked.shown (h : d.HasAsked t seen lookups)
    (hsame : d.lookups = true → ∀ idx, t.firstFailure? (seen ++ [e]) idx =
      t.firstFailure? seen idx) :
    (d.shown e).HasAsked t (seen ++ [e]) lookups where
  tree := h.plain_shown
  enriched := fun idx => (h.enriched idx).trans
    (and_congr_right fun hlookups => by rw [hsame hlookups])
  nodup := h.nodup
  mem_iff := fun lookup => (h.mem_iff lookup).trans
    (and_congr_right fun hlookups => by rw [hsame hlookups])

/-- The first failure of a node asks for the service that it names. -/
theorem HasAsked.first (h : d.HasAsked t seen lookups) (hlookups : d.lookups = true)
    (hfailure : (t.applyAll seen).failure? e = some idx)
    (hnew : t.firstFailure? seen idx = none) :
    { d.shown e with enriched := idx :: d.enriched }.HasAsked t (seen ++ [e])
      (lookups ++
        ((ServiceRef.ofPhysicalId? e.event.physicalId).map (Lookup.mk idx)).toList) := by
  have hfirst (other : Nat) : t.firstFailure? (seen ++ [e]) other =
      if other = idx then some e.event else t.firstFailure? seen other := by
    rw [firstFailure?_append_singleton, hfailure]
    by_cases hother : other = idx
    · simp [hother, hnew]
    · simp [hother, Ne.symm hother]
  have hmem (lookup : Lookup) :
      lookup ∈ ((ServiceRef.ofPhysicalId? e.event.physicalId).map (Lookup.mk idx)).toList ↔
        lookup.node = idx ∧ lookup.ref.IsNamedBy e.event.physicalId := by
    rw [Option.mem_toList, Option.map_eq_some_iff,
      ← ServiceRef.ofPhysicalId?_eq_some_iff]
    constructor
    · rintro ⟨ref, href, rfl⟩
      exact ⟨rfl, href⟩
    · rintro ⟨rfl, href⟩
      exact ⟨lookup.ref, href, rfl⟩
  refine ⟨h.plain_shown, fun other => ?_, ?_, fun lookup => ?_⟩
  · rw [List.mem_cons, h.enriched, hfirst]
    by_cases hother : other = idx
    · simp [hother, hlookups, Display.shown]
    · simp [hother, Display.shown]
  · rw [List.map_append, List.nodup_append]
    refine ⟨h.nodup, ?_, ?_⟩
    · cases ServiceRef.ofPhysicalId? e.event.physicalId <;> simp
    · -- a lookup made before would be of a failure that the node has shown before
      rintro node hbefore _ hnode rfl
      obtain ⟨old, hold, rfl⟩ := List.mem_map.mp hbefore
      obtain ⟨new, hnewest, hnode⟩ := List.mem_map.mp hnode
      obtain ⟨-, first, hfirst, -⟩ := (h.mem_iff old).mp hold
      rw [← hnode, ((hmem new).mp hnewest).1, hnew] at hfirst
      cases hfirst
  · rw [List.mem_append, h.mem_iff, hmem, hfirst]
    by_cases hnode : lookup.node = idx
    · simp [hnode, hnew, hlookups, Display.shown]
    · simp [hnode, Display.shown]

/-- **One event**: the lookup that it calls for is that of a first failure. -/
theorem HasAsked.notify (h : d.HasAsked t seen lookups)
    (hnotify : d.notify e = (d', lookup?)) :
    d'.HasAsked t (seen ++ [e]) (lookups ++ lookup?.toList) := by
  have hfailure := failure?_plain d.tree e
  rw [h.tree] at hfailure
  cases hnode : d.tree.failure? e with
  | none =>
    rw [notify_of_failure?_eq_none hnode] at hnotify
    obtain ⟨rfl, rfl⟩ := Prod.mk.inj hnotify
    rw [Option.toList_none, List.append_nil]
    refine h.shown fun _ idx => ?_
    rw [firstFailure?_append_singleton, hfailure, hnode, if_neg nofun, Option.or_none]
  | some idx =>
    rw [hnode] at hfailure
    rw [notify_of_failure?_eq_some hnode, consider] at hnotify
    split at hnotify
    next hskip =>
      obtain ⟨rfl, rfl⟩ := Prod.mk.inj hnotify
      rw [Option.toList_none, List.append_nil]
      refine h.shown fun hlookups other => ?_
      -- the node has been considered, so it has shown a failure before
      have hknown : d.enriched.contains idx = true := by
        simpa [Display.shown, hlookups] using hskip
      have hsome := ((h.enriched idx).mp (by simpa using hknown)).2
      rw [firstFailure?_append_singleton, hfailure]
      by_cases hother : some idx = some other
      · obtain ⟨first, hfirst⟩ := Option.isSome_iff_exists.mp hsome
        obtain rfl := Option.some.inj hother
        rw [hfirst, Option.some_or]
      · rw [if_neg hother, Option.or_none]
    next hask =>
      obtain ⟨rfl, rfl⟩ := Prod.mk.inj hnotify
      rw [Bool.not_eq_true, Bool.or_eq_false_iff, Bool.not_eq_false'] at hask
      have hlookups : d.lookups = true := hask.1
      have hunknown : idx ∉ d.enriched := by simpa [Display.shown] using hask.2
      refine h.first hlookups hfailure ?_
      rw [h.enriched, not_and, Bool.not_eq_true, Option.isSome_eq_false_iff,
        Option.isNone_iff_eq_none] at hunknown
      exact hunknown hlookups

end Display

/-! ### What a painter has asked about -/

namespace Painter

open ProgressTree

variable {root : String} {options : DisplayOptions} {lookups : Bool} {batches : List Batch}
  {deeds : List Deed} {p : Painter}

/-- **A painter has asked** for the lookups of the events that it has applied. -/
theorem Works.hasAsked
    (work : (Painter.start (.start root options lookups)).Works batches deeds p) :
    ∃ seen, batches.flatten = seen ++ p.pending ∧
      p.display.HasAsked (.start root) seen (asked deeds p) := by
  induction work with
  | start => exact ⟨[], rfl, Display.hasAsked_start root options lookups⟩
  | @receive batches deeds p work hidle batch ih =>
    obtain ⟨seen, hseen, hasked⟩ := ih
    have hnone := pending_of_isIdle hidle
    rw [asked_of_inquiry?_eq_none (inquiry?_of_isIdle hidle)] at hasked
    refine ⟨seen, ?_, ?_⟩
    · rw [List.flatten_append, hseen, hnone, List.append_nil, List.flatten_singleton]
      rfl
    · rw [asked_of_inquiry?_eq_none rfl]
      exact hasked
  | @step batches deeds actions p q _ work leads ih =>
    obtain ⟨seen, hseen, hasked⟩ := ih
    obtain ⟨d, phase⟩ := p
    cases goes_of_leads leads with
    | @apply e rest shown hphase hnotify | @ask e rest shown lookup hphase hnotify =>
      obtain rfl := hphase
      rw [asked_of_inquiry?_eq_none rfl] at hasked
      refine ⟨seen ++ [e], by rw [hseen, List.append_assoc]; rfl, ?_⟩
      rw [List.filterMap_nil, List.append_nil]
      exact hasked.notify hnotify
    | @answered lookup rest hphase answer =>
      -- the lookup that was to be made is one that was made
      obtain rfl := hphase
      refine ⟨seen, hseen, ?_⟩
      rw [asked_of_inquiry?_eq_none rfl, looked_append]
      exact hasked.answered lookup answer
    | applied hphase =>
      obtain rfl := hphase
      rw [List.filterMap_nil, List.append_nil]
      exact ⟨seen, hseen, hasked⟩
    | drawn hphase | failed hphase =>
      obtain rfl := hphase
      have hdrawn := looked_append_draw deeds d.frame
      refine ⟨seen, hseen, ?_⟩
      rw [asked_of_inquiry?_eq_none rfl] at hasked ⊢
      exact (hdrawn _).symm ▸ ⟨hasked.tree, hasked.enriched, hasked.nodup, hasked.mem_iff⟩

end Painter

open ProgressTree in
/-- **The first failure of a node is looked up**, if it names a service. Whatever batches a painter
is given, and however its lookups are answered: no node is looked up twice, and a service is looked
up for a node exactly if the first of the events applied so far that showed a failing service on
that node has a physical identifier that names it. When the painter has no batch in hand, these are
all events, and the lookups have been made. -/
theorem first_failure_is_looked_up {root : String} {options : DisplayOptions}
    {batches : List Batch} {deeds : List Painter.Deed} {p : Painter}
    (work : (Painter.start (.start root options true)).Works batches deeds p) :
    ∃ seen, batches.flatten = seen ++ p.pending ∧
      ((Painter.asked deeds p).map (·.node)).Nodup ∧
      (∀ lookup, lookup ∈ Painter.asked deeds p ↔
        ∃ e, (start root).firstFailure? seen lookup.node = some e ∧
          lookup.ref.IsNamedBy e.physicalId) ∧
      (p.isIdle = true → seen = batches.flatten ∧
        Painter.asked deeds p = Painter.looked deeds) := by
  obtain ⟨seen, hseen, hasked⟩ := work.hasAsked
  have hlookups : p.display.lookups = true := work.settings.2
  refine ⟨seen, hseen, hasked.nodup, fun lookup => ?_, fun hidle => ⟨?_, ?_⟩⟩
  · rw [hasked.mem_iff, hlookups, eq_self, true_and]
  · rw [hseen, Painter.pending_of_isIdle hidle, List.append_nil]
  · exact Painter.asked_of_inquiry?_eq_none (Painter.inquiry?_of_isIdle hidle) deeds

/-- The creation of a service fails; its physical identifier may not be known. -/
def apiFailed (eventId physicalId : String) : StreamEvent :=
  ⟨"demo", { StackEvent.basic eventId "Api" "AWS::ECS::Service" "CREATE_FAILED" .epoch with
    physicalId }⟩

/-- A service that fails twice, and is named by both failures, is looked up once. -/
theorem named_service_is_looked_up :
    ∃ deeds d, (Painter.start (.start "demo" ⟨false, false⟩ true)).Works
        [[apiFailed "first" "service/prod/api"], [apiFailed "second" "service/test/api"]] deeds
        ⟨d, .receiving⟩ ∧
      ∀ lookup, lookup ∈ Painter.looked deeds ↔ lookup = ⟨1, "prod", "api"⟩ := by
  obtain ⟨deeds, d, work, -⟩ := Painter.exists_works (.start "demo" ⟨false, false⟩ true)
    [[apiFailed "first" "service/prod/api"], [apiFailed "second" "service/test/api"]]
    fun _ _ => .error (.notFound "api")
  refine ⟨deeds, d, work, fun lookup => ?_⟩
  obtain ⟨seen, -, -, hmem, hidle⟩ := first_failure_is_looked_up work
  obtain ⟨rfl, hlooked⟩ := hidle rfl
  have hfailures : (ProgressTree.start "demo").failures
      [[apiFailed "first" "service/prod/api"], [apiFailed "second" "service/test/api"]].flatten =
      [(1, (apiFailed "first" "service/prod/api").event),
        (1, (apiFailed "second" "service/test/api").event)] := by decide +kernel
  have hnamed : ServiceRef.ofPhysicalId? "service/prod/api" = some ⟨"prod", "api"⟩ := by
    decide +kernel
  obtain ⟨node, ref⟩ := lookup
  rw [← hlooked, hmem, ProgressTree.firstFailure?, hfailures]
  by_cases hnode : node = 1
  · simp [hnode, ← ServiceRef.ofPhysicalId?_eq_some_iff, apiFailed, hnamed, eq_comm]
  · simp [hnode, Ne.symm hnode]

/-- **A failure that is not the first is not looked up**, although it names a service that no
failure before it has named: the node was considered when the service was not known yet. -/
theorem named_failure_is_not_looked_up :
    (1, (apiFailed "second" "service/prod/api").event) ∈ (ProgressTree.start "demo").failures
        [apiFailed "first" "", apiFailed "second" "service/prod/api"] ∧
      ServiceRef.IsNamedBy ⟨"prod", "api"⟩
        (apiFailed "second" "service/prod/api").event.physicalId ∧
      ∃ deeds d, (Painter.start (.start "demo" ⟨false, false⟩ true)).Works
        [[apiFailed "first" "", apiFailed "second" "service/prod/api"]] deeds ⟨d, .receiving⟩ ∧
        Painter.looked deeds = [] := by
  have hfailures : (ProgressTree.start "demo").failures
      [apiFailed "first" "", apiFailed "second" "service/prod/api"] =
      [(1, (apiFailed "first" "").event), (1, (apiFailed "second" "service/prod/api").event)] := by
    decide +kernel
  refine ⟨by rw [hfailures]; simp, ?_, ?_⟩
  · rw [← ServiceRef.ofPhysicalId?_eq_some_iff]
    decide +kernel
  · obtain ⟨deeds, d, work, -⟩ := Painter.exists_works (.start "demo" ⟨false, false⟩ true)
      [[apiFailed "first" "", apiFailed "second" "service/prod/api"]]
      fun _ _ => .error (.notFound "api")
    refine ⟨deeds, d, work, List.eq_nil_iff_forall_not_mem.mpr fun lookup hlookup => ?_⟩
    obtain ⟨seen, hseen, hasked⟩ := work.hasAsked
    obtain rfl : [apiFailed "first" "", apiFailed "second" "service/prod/api"] = seen := by
      simpa [Painter.pending] using hseen
    rw [Painter.asked_of_inquiry?_eq_none rfl] at hasked
    -- the first failure of a node is the first event, and that names nothing
    obtain ⟨-, e, hfirst, hnamed⟩ := (hasked.mem_iff lookup).mp hlookup
    rw [ProgressTree.firstFailure?, hfailures] at hfirst
    have hid : e.physicalId = "" := by
      by_cases hnode : lookup.node = 1
      · simp [hnode] at hfirst
        rw [← hfirst]
        rfl
      · simp [Ne.symm hnode] at hfirst
    rw [hid, ← ServiceRef.ofPhysicalId?_eq_some_iff] at hnamed
    cases hnamed

end StackDeploy
