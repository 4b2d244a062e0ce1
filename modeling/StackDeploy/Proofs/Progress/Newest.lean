import StackDeploy.Proofs.Progress.Arena

/-!
# The newest event wins

Events reach a node from two sources, its resource's and its own stack's, and in any order. The node
shows the newest of them, whatever the order was.

* `ProgressTree.routedTo` — the events that go to a node, in the order in which they are applied.
* `TreeNode.Tells` — a node shows the newest event of a list.
* `ProgressTree.tells_applyAll` — every node shows the newest event that has gone to it.
* `newest_event_wins` — when an event is ignored, and why the order of events does not matter.
-/

namespace StackDeploy

/-! ### The newest event of a list -/

/-- The event is the **newest** of a list: none before it is later, and all after it are earlier. -/
def Newest (events : List StreamEvent) (e : StreamEvent) : Prop :=
  ∃ before after, events = before ++ e :: after ∧
    (∀ other ∈ before, other.event.timestamp ≤ e.event.timestamp) ∧
    ∀ other ∈ after, other.event.timestamp < e.event.timestamp

section Newest

variable {events : List StreamEvent} {e e' : StreamEvent}

theorem Newest.mem (h : Newest events e) : e ∈ events := by
  obtain ⟨before, after, rfl, -⟩ := h
  exact List.mem_append_right _ List.mem_cons_self

theorem Newest.le (h : Newest events e) {other : StreamEvent} (hother : other ∈ events) :
    other.event.timestamp ≤ e.event.timestamp := by
  obtain ⟨before, after, rfl, hbefore, hafter⟩ := h
  rcases List.mem_append.mp hother with hother | hother
  · exact hbefore other hother
  · rcases List.mem_cons.mp hother with rfl | hother
    · exact Instant.le_refl _
    · exact Instant.le_of_lt (hafter other hother)

/-- An event that is not earlier than the newest one becomes the newest. -/
theorem newest_append_singleton (h : ∀ other ∈ events, other.event.timestamp ≤ e.event.timestamp) :
    Newest (events ++ [e]) e :=
  ⟨events, [], rfl, h, fun _ hother => nomatch hother⟩

/-- An earlier event does not. -/
theorem Newest.append_singleton (h : Newest events e)
    (hearlier : e'.event.timestamp < e.event.timestamp) : Newest (events ++ [e']) e := by
  obtain ⟨before, after, rfl, hbefore, hafter⟩ := h
  refine ⟨before, after ++ [e'], by simp, hbefore, fun other hother => ?_⟩
  rcases List.mem_append.mp hother with hother | hother
  · exact hafter other hother
  · rwa [List.mem_singleton.mp hother]

/-- Lists of the same events, of which no two have one timestamp, have the same newest event. -/
theorem Newest.unique {others : List StreamEvent} (h : Newest events e) (h' : Newest others e')
    (hperm : events.Perm others)
    (hnodup : (events.map fun p => p.event.timestamp).Nodup) : e = e' := by
  have hmem : e' ∈ events := hperm.mem_iff.mpr h'.mem
  have hle : e.event.timestamp ≤ e'.event.timestamp := h'.le (hperm.mem_iff.mp h.mem)
  have hge : e'.event.timestamp ≤ e.event.timestamp := h.le hmem
  exact List.inj_on_of_nodup_map hnodup h.mem hmem (Instant.le_antisymm hle hge)

end Newest

/-! ### What a node tells -/

namespace TreeNode

/-- A node **tells** of a list of events what the newest of them reports, and when it was; of no
events it tells nothing. -/
def Tells (n : TreeNode) (events : List StreamEvent) : Prop :=
  (events = [] ∧ n.report = ("", none, none)) ∨
    ∃ e, Newest events e ∧
      n.report = (e.event.status, e.event.reason, some e.event.timestamp)

variable {n : TreeNode} {events : List StreamEvent} {e : StreamEvent}

theorem tells_unseen (name : String) : (unseen name).Tells [] := .inl ⟨rfl, rfl⟩

theorem Tells.congr {m : TreeNode} (h : m.Tells events) (hreport : n.report = m.report) :
    n.Tells events := by
  rwa [Tells, hreport]

/-- An event is stale for a node that tells of a later one. -/
theorem Tells.isStale_iff (h : n.Tells events) :
    n.isStale e.event = true ↔ ∃ later ∈ events, e.event.timestamp < later.event.timestamp := by
  rw [isStale]
  rcases h with ⟨rfl, hreport⟩ | ⟨newest, hnewest, hreport⟩
  · have hnever : n.updatedAt = none := congrArg (·.2.2) hreport
    simp [hnever]
  · have hupdated : n.updatedAt = some newest.event.timestamp := congrArg (·.2.2) hreport
    rw [hupdated, Option.any_some, decide_eq_true_eq]
    constructor
    · intro hlt
      exact ⟨newest, hnewest.mem, hlt⟩
    · rintro ⟨later, hlater, hlt⟩
      exact Instant.lt_of_lt_of_le hlt (hnewest.le hlater)

/-- A node that ignores stale events and shows the others goes on telling. -/
theorem Tells.append_singleton (h : n.Tells events) (e : StreamEvent) :
    (if n.isStale e.event then n else n.showing e.event).Tells (events ++ [e]) := by
  split
  next hstale =>
    obtain ⟨later, hlater, hlt⟩ := h.isStale_iff.mp hstale
    rcases h with ⟨rfl, -⟩ | ⟨newest, hnewest, hreport⟩
    · cases hlater
    · exact .inr ⟨newest,
        hnewest.append_singleton (Instant.lt_of_lt_of_le hlt (hnewest.le hlater)), hreport⟩
  next hfresh =>
    rw [h.isStale_iff] at hfresh
    refine .inr ⟨e, newest_append_singleton fun other hother => ?_, rfl⟩
    exact Instant.not_lt.mp fun hlt => hfresh ⟨other, hother, hlt⟩

/-- Nodes that tell of the same events, of which no two have one timestamp, report the same. -/
theorem Tells.report_eq {m : TreeNode} {others : List StreamEvent} (h : n.Tells events)
    (h' : m.Tells others) (hperm : events.Perm others)
    (hnodup : (events.map fun p => p.event.timestamp).Nodup) : n.report = m.report := by
  rcases h with ⟨rfl, hreport⟩ | ⟨newest, hnewest, hreport⟩
  · rcases h' with ⟨-, hreport'⟩ | ⟨newest', hnewest', -⟩
    · rw [hreport, hreport']
    · exact absurd (hperm.mem_iff.mpr hnewest'.mem) List.not_mem_nil
  · rcases h' with ⟨rfl, -⟩ | ⟨newest', hnewest', hreport'⟩
    · exact absurd (hperm.mem_iff.mp hnewest.mem) List.not_mem_nil
    · rw [hreport, hreport', hnewest.unique hnewest' hperm hnodup]

end TreeNode

namespace ProgressTree

variable {t : ProgressTree} {e : StreamEvent} {events : List StreamEvent} {idx : Nat}

/-! ### Events by nodes -/

/-- The events with the nodes that they go to when they are applied one after the other. -/
def routing (t : ProgressTree) : List StreamEvent → List (Nat × StreamEvent)
  | [] => []
  | e :: rest => (t.target e, e) :: (t.apply e).2.routing rest

/-- The events that **go to a node**, in the order in which they are applied. -/
def routedTo (t : ProgressTree) (events : List StreamEvent) (idx : Nat) : List StreamEvent :=
  ((t.routing events).filter fun p => p.1 == idx).map Prod.snd

theorem routing_append_singleton (t : ProgressTree) (events : List StreamEvent)
    (e : StreamEvent) :
    t.routing (events ++ [e]) = t.routing events ++ [((t.applyAll events).target e, e)] := by
  induction events generalizing t with
  | nil => rfl
  | cons first rest ih => rw [List.cons_append, routing, ih, routing, List.cons_append]; rfl

theorem routedTo_append_singleton (t : ProgressTree) (events : List StreamEvent)
    (e : StreamEvent) (idx : Nat) :
    t.routedTo (events ++ [e]) idx =
      t.routedTo events idx ++ if (t.applyAll events).target e = idx then [e] else [] := by
  rw [routedTo, routing_append_singleton, List.filter_append, List.map_append, ← routedTo]
  by_cases htarget : (t.applyAll events).target e = idx <;> simp [htarget]

/-- Events go to nodes of the tree. -/
theorem WellFormed.routing_lt (h : t.WellFormed) {p : Nat × StreamEvent}
    (hp : p ∈ t.routing events) : p.1 < (t.applyAll events).nodes.length := by
  induction events using List.reverseRecOn with
  | nil => cases hp
  | append_singleton events e ih =>
    rw [applyAll_append_singleton, length_nodes_apply]
    rw [routing_append_singleton] at hp
    rcases List.mem_append.mp hp with hp | hp
    · exact Nat.lt_of_lt_of_le (ih hp) (length_nodes_le_routed _ e)
    · rw [List.mem_singleton.mp hp]
      exact (h.applyAll events).target_lt e

theorem WellFormed.routedTo_eq_nil (h : t.WellFormed)
    (hidx : (t.applyAll events).nodes.length ≤ idx) : t.routedTo events idx = [] := by
  rw [routedTo, List.map_eq_nil_iff, List.filter_eq_nil_iff]
  intro p hp hsame
  have hlt := h.routing_lt hp
  rw [beq_iff_eq.mp hsame] at hlt
  omega

/-- **Every node tells** of the events that have gone to it. -/
theorem tells_applyAll {root : String} {n : TreeNode}
    (hnode : ((start root).applyAll events).node? idx = some n) :
    n.Tells ((start root).routedTo events idx) := by
  induction events using List.reverseRecOn generalizing idx n with
  | nil =>
    have hroot : [TreeNode.unseen root][idx]? = some n := hnode
    obtain rfl := List.mem_singleton.mp (List.mem_of_getElem? hroot)
    exact TreeNode.tells_unseen root
  | append_singleton events e ih =>
    have hwf := (wellFormed_start root).applyAll events
    have hempty (hidx : ((start root).applyAll events).nodes.length ≤ idx) :
        (start root).routedTo events idx = [] := (wellFormed_start root).routedTo_eq_nil hidx
    rw [applyAll_append_singleton] at hnode
    rw [routedTo_append_singleton]
    generalize (start root).applyAll events = t at ih hwf hempty hnode ⊢
    -- the tree in which the node of the event exists tells what the tree before told
    have hrouted {m : TreeNode} (hm : (t.routed e).node? idx = some m) :
        m.Tells ((start root).routedTo events idx) := by
      by_cases hidx : idx < t.nodes.length
      · have hreport := t.report_routed e hidx
        rw [hm, Option.map_some] at hreport
        obtain ⟨old, hold, hsame⟩ := Option.map_eq_some_iff.mp hreport.symm
        exact (ih hold).congr hsame.symm
      · rw [hempty (Nat.not_lt.mp hidx)]
        obtain ⟨-, -, hsame⟩ | ⟨-, -, hsame⟩ | ⟨-, -, -, hadd⟩ := t.route_cases e
        · rw [hsame] at hm
          exact absurd (List.getElem?_eq_some_iff.mp hm).1 hidx
        · rw [hsame] at hm
          exact absurd (List.getElem?_eq_some_iff.mp hm).1 hidx
        · rw [hadd] at hm
          have hlt := (List.getElem?_eq_some_iff.mp hm).1
          rw [length_nodes_addResource] at hlt
          obtain rfl : idx = t.nodes.length := by omega
          rw [node?_addResource_length] at hm
          obtain rfl := Option.some.inj hm
          exact TreeNode.tells_unseen _
    by_cases htarget : t.target e = idx
    · obtain ⟨m, hm, -, hafter⟩ := hwf.node?_apply_target e
      rw [htarget] at hm hafter
      rw [if_pos htarget]
      obtain rfl := Option.some.inj (hnode.symm.trans hafter)
      exact (hrouted hm).append_singleton e
    · rw [if_neg htarget, List.append_nil]
      rw [node?_apply, if_neg fun h => htarget h.2.symm] at hnode
      exact hrouted hnode

/-- An event is ignored when its node has been told of a later one. -/
theorem ignores_iff (root : String) (events : List StreamEvent) (e : StreamEvent) :
    ((start root).applyAll events).ignores e = true ↔
      ∃ later ∈ (start root).routedTo events (((start root).applyAll events).target e),
        e.event.timestamp < later.event.timestamp := by
  have hwf := (wellFormed_start root).applyAll events
  obtain ⟨n, hnode, hignores, -⟩ := hwf.node?_apply_target e
  rw [hignores]
  -- a new node has not been told of anything
  have htells : n.Tells
      ((start root).routedTo events (((start root).applyAll events).target e)) := by
    obtain ⟨-, -, hsame⟩ | ⟨-, -, hsame⟩ | ⟨-, -, htarget, hadd⟩ :=
      ((start root).applyAll events).route_cases e
    · rw [hsame] at hnode
      exact tells_applyAll hnode
    · rw [hsame] at hnode
      exact tells_applyAll hnode
    · rw [hadd, htarget, node?_addResource_length] at hnode
      obtain rfl := Option.some.inj hnode
      rw [htarget, (wellFormed_start root).routedTo_eq_nil (Nat.le_refl _)]
      exact TreeNode.tells_unseen _
  exact htells.isStale_iff

theorem fst_apply_eq_none_iff (t : ProgressTree) (e : StreamEvent) :
    (t.apply e).1 = none ↔ t.ignores e = true := by
  rw [apply_eq]
  cases t.ignores e <;> simp

/-- An event that is ignored changes no node. -/
theorem nodes_apply_of_ignores (h : t.ignores e = true) : (t.apply e).2.nodes = t.nodes := by
  rw [apply_eq]
  dsimp only
  rw [if_pos h]
  obtain ⟨-, -, hsame⟩ | ⟨-, -, hsame⟩ | ⟨-, -, htarget, hadd⟩ := t.route_cases e
  · rw [hsame]
  · rw [hsame]
  · -- a new node shows nothing, so nothing is stale for it
    rw [ignores, hadd, htarget, node?_addResource_length, Option.any_some] at h
    cases h

/-! ### Events by resources -/

/-- The resource that a node stands for; the root stands for none. -/
def resourceAt (t : ProgressTree) (idx : Nat) : Option (String × String) :=
  (t.resources.find? fun entry => entry.2 == idx).map Prod.fst

/-- The index of the node that stands for a resource, or of the root. -/
def indexOf? (t : ProgressTree) : Option (String × String) → Option Nat
  | none => some 0
  | some key => t.resources.get? key

/-- The node that stands for a resource, or the root. -/
def nodeOf? (t : ProgressTree) (place : Option (String × String)) : Option TreeNode :=
  (t.indexOf? place).bind t.node?

/-- The events with the **resources** whose nodes they go to. -/
def placing (t : ProgressTree) :
    List StreamEvent → List (Option (String × String) × StreamEvent)
  | [] => []
  | e :: rest => ((t.routed e).resourceAt (t.target e), e) :: (t.apply e).2.placing rest

/-- The events that go to the node of a resource, or to the root. -/
def placedAt (t : ProgressTree) (events : List StreamEvent) (place : Option (String × String)) :
    List StreamEvent :=
  ((t.placing events).filter fun p => decide (p.1 = place)).map Prod.snd

theorem WellFormed.resourceAt_eq_some (h : t.WellFormed) {key : String × String} :
    t.resourceAt idx = some key ↔ t.resources.get? key = some idx := by
  rw [resourceAt, Option.map_eq_some_iff]
  constructor
  · rintro ⟨⟨key, other⟩, hfind, rfl⟩
    obtain rfl : other = idx := by simpa using List.find?_some hfind
    exact (Table.get?_eq_some_iff_mem h.nodup_keys).mpr (List.mem_of_find?_eq_some hfind)
  · intro hget
    have hmem := Table.mem_of_get?_eq_some hget
    obtain ⟨⟨other, idx'⟩, hfind⟩ := Option.isSome_iff_exists.mp
      (List.find?_isSome (p := fun entry => entry.2 == idx).mpr
        ⟨_, hmem, beq_self_eq_true idx⟩)
    obtain rfl : idx' = idx := by simpa using List.find?_some hfind
    have hother := (Table.get?_eq_some_iff_mem h.nodup_keys).mpr (List.mem_of_find?_eq_some hfind)
    exact ⟨_, hfind, h.resource_inj hother hget⟩

theorem WellFormed.resourceAt_eq_iff (h : t.WellFormed) (hidx : idx < t.nodes.length)
    (place : Option (String × String)) :
    t.resourceAt idx = place ↔ t.indexOf? place = some idx := by
  cases place with
  | some key => exact h.resourceAt_eq_some
  | none =>
    rw [indexOf?, Option.some_inj, Option.eq_none_iff_forall_ne_some]
    constructor
    · intro hnone
      by_contra hroot
      obtain ⟨key, hget⟩ := h.exists_resource (Nat.pos_of_ne_zero (Ne.symm hroot)) hidx
      exact hnone key (h.resourceAt_eq_some.mpr hget)
    · rintro rfl key hkey
      exact absurd (h.resource_bounds (h.resourceAt_eq_some.mp hkey)).1 (Nat.lt_irrefl 0)

theorem resourceAt_apply (t : ProgressTree) (e : StreamEvent) (idx : Nat) :
    (t.apply e).2.resourceAt idx = (t.routed e).resourceAt idx := by
  rw [resourceAt, apply_eq]
  dsimp only
  rw [resources_adopt]
  rfl

/-- A node goes on standing for its resource. -/
theorem resourceAt_routed (t : ProgressTree) (e : StreamEvent) (hidx : idx < t.nodes.length) :
    (t.routed e).resourceAt idx = t.resourceAt idx := by
  obtain ⟨-, -, hsame⟩ | ⟨-, -, hsame⟩ | ⟨-, hnew, -, hadd⟩ := t.route_cases e
  · rw [hsame]
  · rw [hsame]
  · have hresources : (t.addResource e.stack e.event.logicalId).resources =
        t.resources ++ [(e.resource, t.nodes.length)] := Table.set_of_get?_eq_none hnew _
    have hne : (t.nodes.length == idx) = false := by
      rw [beq_eq_false_iff_ne]
      omega
    rw [hadd, resourceAt, hresources, List.find?_append, List.find?_cons_of_neg (by simp [hne]),
      List.find?_nil, Option.or_none]
    rfl

theorem placing_append_singleton (t : ProgressTree) (events : List StreamEvent)
    (e : StreamEvent) :
    t.placing (events ++ [e]) = t.placing events ++
      [(((t.applyAll events).routed e).resourceAt ((t.applyAll events).target e), e)] := by
  induction events generalizing t with
  | nil => rfl
  | cons first rest ih => rw [List.cons_append, placing, ih, placing, List.cons_append]; rfl

/-- The resources can be told from the nodes. -/
theorem WellFormed.placing_eq_map (h : t.WellFormed) (events : List StreamEvent) :
    t.placing events =
      (t.routing events).map fun p => ((t.applyAll events).resourceAt p.1, p.2) := by
  induction events using List.reverseRecOn with
  | nil => rfl
  | append_singleton events e ih =>
    rw [placing_append_singleton, routing_append_singleton, List.map_append,
      applyAll_append_singleton, ih, List.map_singleton, resourceAt_apply]
    congr 1
    refine List.map_congr_left fun p hp => ?_
    rw [resourceAt_apply, resourceAt_routed _ e (h.routing_lt hp)]

theorem WellFormed.placedAt_eq (h : t.WellFormed) (events : List StreamEvent)
    (place : Option (String × String)) :
    t.placedAt events place =
      ((t.applyAll events).indexOf? place).elim [] (t.routedTo events) := by
  have hfilter : t.placedAt events place = ((t.routing events).filter fun p =>
      decide ((t.applyAll events).indexOf? place = some p.1)).map Prod.snd := by
    rw [placedAt, h.placing_eq_map, List.filter_map, List.map_map]
    refine congrArg _ (List.filter_congr fun p hp => ?_)
    exact decide_eq_decide.mpr ((h.applyAll events).resourceAt_eq_iff (h.routing_lt hp) place)
  rw [hfilter]
  cases (t.applyAll events).indexOf? place with
  | none => simp
  | some idx =>
    rw [Option.elim_some, routedTo]
    refine congrArg _ (List.filter_congr fun p _ => ?_)
    rw [Bool.eq_iff_iff, beq_iff_eq, decide_eq_true_eq, Option.some_inj, eq_comm]

/-- A resource has a node only if an event has gone there. -/
theorem routedTo_ne_nil {root : String} {key : String × String}
    (hget : ((start root).applyAll events).resources.get? key = some idx) :
    (start root).routedTo events idx ≠ [] := by
  induction events using List.reverseRecOn with
  | nil => cases hget
  | append_singleton events e ih =>
    rw [applyAll_append_singleton, resources_apply] at hget
    rw [routedTo_append_singleton]
    split at hget
    · rw [if_pos (Option.some.inj hget)]
      exact List.append_ne_nil_of_right_ne_nil _ (List.cons_ne_nil _ _)
    · exact List.append_ne_nil_of_left_ne_nil (ih hget) _

/-- The node of a resource tells of the events that have gone there; it is missing if there are
none. -/
theorem nodeOf?_cases (root : String) (events : List StreamEvent)
    (place : Option (String × String)) :
    (∃ n, ((start root).applyAll events).nodeOf? place = some n ∧
        n.Tells ((start root).placedAt events place) ∧
        ((start root).placedAt events place = [] → place = none)) ∨
      (((start root).applyAll events).nodeOf? place = none ∧
        (start root).placedAt events place = [] ∧ place ≠ none) := by
  have hwf := (wellFormed_start root).applyAll events
  rw [(wellFormed_start root).placedAt_eq, nodeOf?]
  cases hindex : ((start root).applyAll events).indexOf? place with
  | none =>
    refine .inr ⟨rfl, rfl, ?_⟩
    rintro rfl
    cases hindex
  | some idx =>
    have hlt : idx < ((start root).applyAll events).nodes.length := by
      cases place with
      | none =>
        obtain rfl : 0 = idx := Option.some.inj hindex
        have hlength := hwf.length_nodes
        omega
      | some key => exact (hwf.resource_bounds hindex).2
    have hnode := List.getElem?_eq_getElem hlt
    refine .inl ⟨_, hnode, tells_applyAll hnode, fun hnil => ?_⟩
    cases place with
    | none => rfl
    | some key => exact absurd hnil (routedTo_ne_nil hindex)

/-- **The order of events does not matter**, as long as each goes to the node of the same resource
and no two that go to one node have the same timestamp. -/
theorem report_nodeOf?_eq_of_perm {root : String} {events others : List StreamEvent}
    (hperm : ((start root).placing events).Perm ((start root).placing others))
    (hnodup : (((start root).placing events).map fun p => (p.1, p.2.event.timestamp)).Nodup)
    (place : Option (String × String)) :
    (((start root).applyAll events).nodeOf? place).map TreeNode.report =
      (((start root).applyAll others).nodeOf? place).map TreeNode.report := by
  have hplaced : ((start root).placedAt events place).Perm ((start root).placedAt others place) :=
    (hperm.filter _).map _
  have htimes : (((start root).placedAt events place).map fun p => p.event.timestamp).Nodup := by
    have hfiltered := hnodup.sublist
      ((List.filter_sublist (p := fun p => decide (p.1 = place))).map _)
    rw [List.Nodup, List.pairwise_map] at hfiltered
    rw [placedAt, List.Nodup, List.pairwise_map, List.pairwise_map]
    refine hfiltered.imp_of_mem fun {p q} hp hq hne hsame => hne (Prod.ext ?_ hsame)
    -- both have gone to the one place
    have hp' : p.1 = place := by simpa using List.of_mem_filter hp
    have hq' : q.1 = place := by simpa using List.of_mem_filter hq
    rw [hp', hq']
  obtain ⟨n, hn, htells, hnone⟩ | ⟨hn, hempty, hplace⟩ := nodeOf?_cases root events place
  · obtain ⟨m, hm, htells', -⟩ | ⟨-, hempty, hplace⟩ := nodeOf?_cases root others place
    · rw [hn, hm, Option.map_some, Option.map_some, htells.report_eq htells' hplaced htimes]
    · rw [hempty] at hplaced
      exact absurd (hnone hplaced.eq_nil) hplace
  · obtain ⟨m, -, -, hnone⟩ | ⟨hm, -, -⟩ := nodeOf?_cases root others place
    · rw [hempty] at hplaced
      exact absurd (hnone hplaced.nil_eq.symm) hplace
    · rw [hn, hm]

end ProgressTree

open ProgressTree

/-- **The newest event wins.** Every node tells of the newest event that has gone to it, and of
events with one timestamp of the last one. A further event is ignored when its node has been told of
a later one, and only then; no node changes in that case. So the order of events does not matter if
each of them goes to the node of the same resource and no two that go to one node have the same
timestamp. -/
theorem newest_event_wins (root : String) (events : List StreamEvent) :
    (∀ idx n, ((start root).applyAll events).node? idx = some n →
      n.Tells ((start root).routedTo events idx)) ∧
    (∀ e, let t := (start root).applyAll events
      ((t.apply e).1 = none ↔ ∃ later ∈ (start root).routedTo events (t.target e),
        e.event.timestamp < later.event.timestamp) ∧
      ((t.apply e).1 = none → (t.apply e).2.nodes = t.nodes) ∧
      ∀ idx, (t.apply e).1 = some idx → idx = t.target e) ∧
    ∀ others, ((start root).placing events).Perm ((start root).placing others) →
      (((start root).placing events).map fun p => (p.1, p.2.event.timestamp)).Nodup →
      ∀ place, (((start root).applyAll events).nodeOf? place).map TreeNode.report =
        (((start root).applyAll others).nodeOf? place).map TreeNode.report := by
  refine ⟨fun idx n hnode => tells_applyAll hnode,
    fun e => ⟨?_, fun hnone => ?_, fun idx hidx => ?_⟩,
    fun others hperm hnodup => report_nodeOf?_eq_of_perm hperm hnodup⟩
  · rw [fst_apply_eq_none_iff]
    exact ignores_iff root events e
  · exact nodes_apply_of_ignores ((fst_apply_eq_none_iff _ e).mp hnone)
  · rw [apply_eq] at hidx
    dsimp only at hidx
    split at hidx
    · cases hidx
    · exact (Option.some.inj hidx).symm

/-- The creation of a nested stack begins. -/
def addonsBegun : StreamEvent :=
  ⟨"app", { StackEvent.basic "begun" "Addons" "AWS::CloudFormation::Stack" "CREATE_IN_PROGRESS"
    .epoch with physicalId := "addons" }⟩

/-- The nested stack tells a second later that it was rolled back. -/
def addonsRolledBack : StreamEvent :=
  ⟨"addons", { addonsBegun.event with
    eventId := "back"
    logicalId := "addons"
    status := "ROLLBACK_COMPLETE"
    reason := some "no capacity"
    timestamp := { Instant.epoch with second := 1, second_lt := by decide } }⟩

/-- Its parent tells of the failure after another second. -/
def addonsFailed : StreamEvent :=
  ⟨"app", { addonsBegun.event with
    eventId := "failed"
    status := "CREATE_FAILED"
    timestamp := { Instant.epoch with second := 2, second_lt := by decide } }⟩

/-- The nested stack's own event may come after that of its parent: it is ignored then, and the node
shows the failure all the same. -/
theorem addons_shows_failure :
    let shown (events : List StreamEvent) :=
      (((start "app").applyAll events).nodeOf? (some ("app", "Addons"))).map TreeNode.report
    (((start "app").applyAll [addonsBegun, addonsFailed]).apply addonsRolledBack).1 = none ∧
      shown [addonsBegun, addonsRolledBack, addonsFailed] =
        shown [addonsBegun, addonsFailed, addonsRolledBack] ∧
      shown [addonsBegun, addonsRolledBack, addonsFailed] =
        some ("CREATE_FAILED", none, some addonsFailed.event.timestamp) := by
  intro shown
  obtain ⟨-, -, horder⟩ :=
    newest_event_wins "app" [addonsBegun, addonsRolledBack, addonsFailed]
  refine ⟨?_, horder [addonsBegun, addonsFailed, addonsRolledBack] ?_ ?_ _, ?_⟩
  · obtain ⟨-, hignored, -⟩ := newest_event_wins "app" [addonsBegun, addonsFailed]
    exact (hignored addonsRolledBack).1.mpr ⟨addonsFailed, by decide +kernel, by decide +kernel⟩
  · decide +kernel
  · decide +kernel
  · decide +kernel

end StackDeploy
