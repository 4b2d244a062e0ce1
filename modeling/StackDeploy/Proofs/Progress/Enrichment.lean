import StackDeploy.Proofs.Progress.Lookup
import StackDeploy.Proofs.Progress.Traversal

/-!
# Lines of diagnosis

A painter that looks up rollouts draws what it would draw without, and under the line of a node
whose rollout was found the summary of the rollout.

* `ProgressTree.detail?_apply`, `ProgressTree.detail?_setDetail` — what sets a line of diagnosis.
* `ProgressTree.Draws` — a text draws a tree with some lines of diagnosis.
* `Painter.Works.detail?_eq_some_iff` — the lines of diagnosis are the summaries that were found.
* `Painter.Works.draws` — each drawing is one of the tree to which all events have been applied.
* `lookups_only_add_details` — a painter with lookups and one without, side by side.
-/

namespace StackDeploy

namespace ProgressTree

variable {t : ProgressTree} {root : String} {events : Batch} {idx : Nat}

/-! ### Lines of diagnosis -/

/-- The line of diagnosis of the node at an index. -/
def detail? (t : ProgressTree) (idx : Nat) : Option String := (t.node? idx).bind (·.detail)

theorem detail?_addResource (t : ProgressTree) (stack logicalId : String) (idx : Nat) :
    (t.addResource stack logicalId).detail? idx = t.detail? idx := by
  have hnone (hidx : t.nodes.length ≤ idx) : t.detail? idx = none := by
    rw [detail?, node?, List.getElem?_eq_none hidx, Option.bind_none]
  rcases Nat.lt_trichotomy idx t.nodes.length with hlt | rfl | hgt
  · rw [detail?, node?_addResource _ _ _ hlt, Option.bind_map, detail?]
    refine congrArg _ (funext fun n => ?_)
    dsimp only [Function.comp]
    split <;> rfl
  · rw [hnone (Nat.le_refl _), detail?, node?_addResource_length]
    rfl
  · have hlength := t.length_nodes_addResource stack logicalId
    rw [hnone (Nat.le_of_lt hgt), detail?, node?, List.getElem?_eq_none (by omega),
      Option.bind_none]

/-- **An event sets no line of diagnosis**, and removes none. -/
theorem detail?_apply (t : ProgressTree) (e : StreamEvent) (idx : Nat) :
    (t.apply e).2.detail? idx = t.detail? idx := by
  have hrouted : (t.routed e).detail? idx = t.detail? idx := by
    obtain ⟨-, -, hsame⟩ | ⟨-, -, hsame⟩ | ⟨-, -, -, hadd⟩ := t.route_cases e
    · rw [hsame]
    · rw [hsame]
    · rw [hadd, detail?_addResource]
  rw [← hrouted, detail?, node?_apply, detail?]
  split
  · rw [Option.bind_map]
    rfl
  · rfl

/-- Setting a line of diagnosis sets that of one node. -/
theorem detail?_setDetail {node : Nat} (hnode : node < t.size) (text : String) (idx : Nat) :
    (t.setDetail node text).detail? idx = if idx = node then some text else t.detail? idx := by
  rw [detail?, detail?, node?, node?, setDetail, List.getElem?_modify]
  by_cases hidx : idx = node
  · rw [hidx, List.getElem?_eq_getElem hnode]
    simp
  · rw [if_neg hidx]
    cases t.nodes[idx]? <;> simp [Ne.symm hidx]

/-! ### The tree without them -/

theorem node?_plain (t : ProgressTree) (idx : Nat) :
    t.plain.node? idx = (t.node? idx).map TreeNode.plain :=
  List.getElem?_map ..

theorem shape_plain (t : ProgressTree) : t.plain.shape = t.shape := by
  rw [shape, plain, List.map_map]
  rfl

theorem eq_plain_of_detail?_eq_none (h : ∀ idx, t.detail? idx = none) : t.plain = t := by
  have hnodes : t.nodes.map TreeNode.plain = t.nodes := by
    refine (List.map_congr_left fun n hn => ?_).trans (List.map_id _)
    obtain ⟨idx, hidx⟩ := List.mem_iff_getElem?.mp hn
    have hnone := h idx
    rw [detail?, node?, hidx, Option.bind_some] at hnone
    obtain ⟨name, resourceType, status, reason, updatedAt, detail, children⟩ := n
    rw [TreeNode.plain, ← hnone]
    rfl
  rw [plain, hnodes]

theorem isTree_applyAll (root : String) (events : Batch) :
    ((start root).applyAll events).IsTree := by
  have hbranches := (branches_updateAll root (events.map .event)).isTree
  rwa [updateAll, List.foldl_map] at hbranches

/-- A node on which a service has failed is there. -/
theorem WellFormed.lt_size_of_firstFailure? (h : t.WellFormed)
    (hfirst : (t.firstFailure? events idx).isSome = true) : idx < (t.applyAll events).size := by
  induction events using List.reverseRecOn with
  | nil => cases hfirst
  | append_singleton events e ih =>
    rw [applyAll_append_singleton, size, length_nodes_apply]
    rw [firstFailure?_append_singleton, Option.isSome_or, Bool.or_eq_true] at hfirst
    rcases hfirst with hold | hnew
    · exact Nat.lt_of_lt_of_le (ih hold) (length_nodes_le_routed _ e)
    · split at hnew
      next hfailure =>
        obtain ⟨hnode, -⟩ := Option.filter_eq_some_iff.mp hfailure
        rw [apply_eq] at hnode
        dsimp only at hnode
        split at hnode
        · cases hnode
        · obtain rfl := Option.some.inj hnode
          exact (h.applyAll events).target_lt e
      · cases hnew

/-! ### Drawings with lines of diagnosis -/

/-- A text **draws** a tree with some lines of diagnosis: it is made of the lines of the nodes in
depth-first order, and the line of diagnosis of a node, if it has one, follows that of the node. -/
def Draws (t : ProgressTree) (color : Bool) (details : Nat → Option String) (text : String) :
    Prop :=
  ∃ lines, text = unlines lines ∧
    t.Preorder (fun depth idx n => nodeLine color depth n ::
      (details idx).toList.map fun detail => indent (depth + 1) ++ detail) 0 [0] lines

/-- A traversal that does not look at lines of diagnosis is one of the tree without them. -/
theorem Preorder.plain {α : Type} {emit emit' : Nat → Nat → TreeNode → List α} {depth : Nat}
    {forest : List Nat} {out : List α} (h : t.Preorder emit depth forest out)
    (hemit : ∀ depth idx n, t.node? idx = some n → emit depth idx n = emit' depth idx n.plain) :
    t.plain.Preorder emit' depth forest out := by
  induction h with
  | nil => exact .nil
  | cons node _ _ below beside =>
    rw [hemit _ _ _ node]
    exact .cons (by rw [node?_plain, node, Option.map_some]) below beside

/-- **The drawing of a tree** draws the tree without lines of diagnosis, with those that it has. -/
theorem IsTree.draws (h : t.IsTree) (color : Bool) :
    t.plain.Draws color t.detail? (unlines (t.lines color)) := by
  refine ⟨_, rfl, ((h.drawnAsItBranches.preorder_iff_lines color _).mpr rfl).plain ?_⟩
  intro depth idx n node
  rw [detail?, node, Option.bind_some]
  rfl

end ProgressTree

/-! ### What a painter has found -/

namespace Painter

open ProgressTree

/-- The summaries of the rollouts that were **found**, with the nodes that they are for. -/
def found (deeds : List Deed) : List (Nat × String) :=
  deeds.filterMap fun
    | .look lookup (.ok rollout) => some (lookup.node, rollout.summary)
    | .look _ (.error _) | .draw _ _ => none

@[simp] theorem found_append (first second : List Deed) :
    found (first ++ second) = found first ++ found second :=
  List.filterMap_append

theorem exists_mem_looked_of_mem_found {deeds : List Deed} {idx : Nat} {detail : String}
    (h : (idx, detail) ∈ found deeds) : ∃ lookup ∈ looked deeds, lookup.node = idx := by
  obtain ⟨deed, hdeed, heq⟩ := List.mem_filterMap.mp h
  cases deed with
  | draw => cases heq
  | look lookup answer =>
    cases answer with
    | error => cases heq
    | ok rollout =>
      obtain ⟨rfl, -⟩ := Prod.mk.inj (Option.some.inj heq)
      exact ⟨lookup, List.mem_filterMap.mpr ⟨_, hdeed, rfl⟩, rfl⟩

variable {root : String} {options : DisplayOptions} {lookups : Bool} {batches : List Batch}
  {deeds : List Deed} {p : Painter}

/-- A node that was asked about is there. -/
theorem Works.node_lt_size
    (work : (Painter.start (.start root options lookups)).Works batches deeds p)
    {lookup : Display.Lookup} (hlookup : lookup ∈ asked deeds p) :
    lookup.node < p.display.tree.size := by
  obtain ⟨seen, -, hasked⟩ := work.hasAsked
  obtain ⟨-, e, hfirst, -⟩ := (hasked.mem_iff lookup).mp hlookup
  have hlt := (wellFormed_start root).lt_size_of_firstFailure? (Option.isSome_of_eq_some hfirst)
  rwa [← hasked.tree, size_congr (shape_plain _)] at hlt

/-- **The lines of diagnosis are the summaries that were found.** -/
theorem Works.detail?_eq_some_iff
    (work : (Painter.start (.start root options lookups)).Works batches deeds p) (idx : Nat)
    (detail : String) : p.display.tree.detail? idx = some detail ↔ (idx, detail) ∈ found deeds := by
  induction work generalizing idx detail with
  | start =>
    have hnone : (ProgressTree.start root).detail? idx = none := by cases idx <;> rfl
    simp [Painter.start, Display.start, hnone, found]
  | receive work hidle batch ih => exact ih idx detail
  | @step batches deeds actions p q _ work leads ih =>
    obtain ⟨d, phase⟩ := p
    cases goes_of_leads leads with
    | apply hphase hnotify | ask hphase hnotify =>
      rw [List.filterMap_nil, List.append_nil, (Display.notify_spec hnotify).1, detail?_apply]
      exact ih idx detail
    | @answered lookup rest hphase answer =>
      obtain rfl := hphase
      rw [found_append]
      cases answer with
      | error cause => exact (ih idx detail).trans (by simp [found, deed?, inquiry?])
      | ok rollout =>
        -- nothing was found for the node before, since no node is asked about twice
        have hmem : lookup ∈ asked deeds ⟨d, .asking lookup rest⟩ := by simp [asked, inquiry?]
        have hnew : ∀ text, (lookup.node, text) ∉ found deeds := by
          intro text htext
          obtain ⟨old, hold, hnode⟩ := exists_mem_looked_of_mem_found htext
          obtain ⟨seen, -, hasked⟩ := work.hasAsked
          have hnodup : ((looked deeds).map (·.node) ++ [lookup.node]).Nodup := by
            simpa [asked, inquiry?] using hasked.nodup
          refine List.disjoint_of_nodup_append hnodup (hnode ▸ List.mem_map_of_mem hold)
            (List.mem_singleton_self _)
        have hfound : found ([.call (.resolveRollout lookup.ref) (.ok rollout)].filterMap
            (deed? ⟨d, .asking lookup rest⟩)) = [(lookup.node, rollout.summary)] := rfl
        have htree : (d.answered lookup (.ok rollout : Except ApiError Rollout)).tree =
            d.tree.setDetail lookup.node rollout.summary := rfl
        dsimp only
        rw [htree, detail?_setDetail (work.node_lt_size hmem), List.mem_append, hfound,
          List.mem_singleton, Prod.mk.injEq]
        by_cases hidx : idx = lookup.node
        · simp [hidx, hnew, eq_comm]
        · simp [hidx, ih idx detail]
    | applied hphase | failed hphase =>
      obtain rfl := hphase
      rw [found_append]
      exact (ih idx detail).trans (by simp [found, deed?])
    | drawn hphase =>
      obtain rfl := hphase
      rw [found_append]
      exact (ih idx detail).trans (by simp [found, deed?])

/-- A painter that looks up no rollouts finds none. -/
theorem Works.found_eq_nil
    (work : (Painter.start (.start root options false)).Works batches deeds p) :
    found deeds = [] := by
  refine List.eq_nil_iff_forall_not_mem.mpr fun (idx, detail) hfound => ?_
  obtain ⟨lookup, hlookup, -⟩ := exists_mem_looked_of_mem_found hfound
  obtain ⟨seen, -, hasked⟩ := work.hasAsked
  have hlookups := ((hasked.mem_iff lookup).mp (List.mem_append_left _ hlookup)).1
  rw [work.settings.2] at hlookups
  cases hlookups

/-- Where no rollout was found there are no lines of diagnosis. -/
theorem eq_none_of_found_eq_nil {details : Nat → Option String}
    (h : ∀ idx detail, details idx = some detail ↔ (idx, detail) ∈ found deeds)
    (hnil : found deeds = []) : details = fun _ => none := by
  funext idx
  refine Option.eq_none_iff_forall_ne_some.mpr fun detail hdetail => ?_
  rw [h, hnil] at hdetail
  cases hdetail

/-- **Each drawing** is one of the tree to which all events so far have been applied, with the
summaries that were found so far, each for a node on which a service has failed. -/
theorem Works.draws
    (work : (Painter.start (.start root options lookups)).Works batches deeds p)
    (hlive : options.live = false) {before after : List Deed} {text : String} {result : Written}
    (hdeeds : deeds = before ++ .draw text result :: after) :
    ∃ given, given = batches.take ((drawings before).length + 1) ∧ ∃ details,
      ((ProgressTree.start root).applyAll given.flatten).Draws options.color details text ∧
      (∀ idx detail, details idx = some detail ↔ (idx, detail) ∈ found before) ∧
      ∀ idx detail, (idx, detail) ∈ found before →
        ((ProgressTree.start root).firstFailure? given.flatten idx).isSome = true := by
  obtain ⟨given, d, hgiven, drawing, rfl⟩ := work.obeys_drawn before _ after hdeeds
  have hlength : (drawings before).length + 1 = given.length := drawing.length_drawings rfl
  obtain ⟨seen, hseen, hasked⟩ := drawing.hasAsked
  obtain rfl : given.flatten = seen := hseen.trans (List.append_nil seen)
  have hoptions : d.options = options := drawing.settings.1
  have hframe : d.frame = unlines (d.tree.lines options.color) := by
    rw [Display.frame, Display.erasure, Display.lines, hoptions, hlive]
    exact String.empty_append
  have htree : d.tree.IsTree := (isTree_applyAll root given.flatten).congr (by
    rw [← hasked.tree, shape_plain])
  refine ⟨given, ?_, d.tree.detail?, ?_, drawing.detail?_eq_some_iff, ?_⟩
  · rw [hlength]
    exact List.prefix_iff_eq_take.mp hgiven
  · rw [hframe, ← hasked.tree]
    exact htree.draws options.color
  · intro idx detail hfound
    obtain ⟨lookup, hlookup, rfl⟩ := exists_mem_looked_of_mem_found hfound
    obtain ⟨-, e, hfirst, -⟩ := (hasked.mem_iff lookup).mp (List.mem_append_left _ hlookup)
    exact Option.isSome_of_eq_some hfirst

end Painter

/-! ### With lookups and without -/

open ProgressTree Painter in
/-- **Lookups only add lines of diagnosis.** For all batches:

* With lookups or without, and whatever a resolver answers, if every drawing can be written then all
  batches can be drawn, and no painter is over before.
* A painter with lookups and one without, when they are done with the batches, have the same tree
  apart from the lines of diagnosis, of which the one without has none. Each has made one drawing
  for every batch.
* Unless they erase, the drawings made after as many batches are of one tree: that of the painter
  without lookups has the lines of the nodes only, and in the other one the line of each node for
  which a rollout was found is followed by the summary of that. On such a node a service has failed.
-/
theorem lookups_only_add_details (root : String) (options : DisplayOptions)
    (batches : List Batch) :
    (∀ lookups resolver,
      (∃ deeds d, (Painter.start (.start root options lookups)).Works batches deeds
          ⟨d, .receiving⟩ ∧ Obeys (Deed.Allowed resolver) deeds) ∧
        ∀ deeds p, (Painter.start (.start root options lookups)).Works batches deeds p →
          Obeys (Deed.Allowed resolver) deeds → p.result? = none) ∧
      ∀ deeds p plainDeeds q,
        (Painter.start (.start root options true)).Works batches deeds p → p.isIdle = true →
        (Painter.start (.start root options false)).Works batches plainDeeds q →
          q.isIdle = true →
        q.display.tree = p.display.tree.plain ∧
          (drawings deeds).length = batches.length ∧
          (drawings plainDeeds).length = batches.length ∧
          (options.live = false →
            (∀ before text result after, plainDeeds = before ++ .draw text result :: after →
              ((start root).applyAll (batches.take ((drawings before).length + 1)).flatten).Draws
                options.color (fun _ => none) text) ∧
            ∀ before text result after, deeds = before ++ .draw text result :: after →
              ∃ given, given = batches.take ((drawings before).length + 1) ∧ ∃ details,
                ((start root).applyAll given.flatten).Draws options.color details text ∧
                (∀ idx detail, details idx = some detail ↔ (idx, detail) ∈ found before) ∧
                ∀ idx detail, (idx, detail) ∈ found before →
                  ((start root).firstFailure? given.flatten idx).isSome = true) := by
  refine ⟨fun lookups resolver => ⟨exists_works _ batches resolver, ?_⟩, ?_⟩
  · intro deeds p work hallowed
    refine work.result?_eq_none rfl fun text result hdraw => ?_
    obtain ⟨before, after, hdeeds⟩ := List.append_of_mem hdraw
    exact hallowed before _ after hdeeds
  · intro deeds p plainDeeds q work hidle plainWork hplainIdle
    have hcount := work.length_drawings rfl
    have hplainCount := plainWork.length_drawings rfl
    rw [hidle] at hcount
    rw [hplainIdle] at hplainCount
    refine ⟨?_, hcount, hplainCount, fun hlive => ⟨?_, ?_⟩⟩
    · obtain ⟨seen, hseen, hasked⟩ := work.hasAsked
      obtain ⟨plainSeen, hplainSeen, hplainAsked⟩ := plainWork.hasAsked
      rw [pending_of_isIdle hidle, List.append_nil] at hseen
      rw [pending_of_isIdle hplainIdle, List.append_nil] at hplainSeen
      have hnone : q.display.tree.plain = q.display.tree := by
        have hdetails :=
          eq_none_of_found_eq_nil plainWork.detail?_eq_some_iff plainWork.found_eq_nil
        exact eq_plain_of_detail?_eq_none fun idx => congrFun hdetails idx
      rw [← hnone, hplainAsked.tree, hasked.tree, ← hseen, ← hplainSeen]
    · intro before text result after hdeeds
      obtain ⟨_, rfl, details, hdraws, hdetails, -⟩ := plainWork.draws hlive hdeeds
      have hnil := plainWork.found_eq_nil
      rw [hdeeds, found_append, List.append_eq_nil_iff] at hnil
      exact eq_none_of_found_eq_nil hdetails hnil.1 ▸ hdraws
    · intro before text result after hdeeds
      exact work.draws hlive hdeeds

/-- The display of a service that has failed. -/
def apiShown (lookups : Bool) : Display :=
  (Display.start "demo" ⟨false, false⟩ lookups).shown (apiFailed "first" "service/prod/api")

/-- What a lookup finds out about it. -/
def apiRollout : Rollout := ⟨"FAILED", 0, 1, 0, none⟩

/-- The first failure calls for a lookup. -/
theorem notify_apiFailed : (Display.start "demo" ⟨false, false⟩ true).notify
    (apiFailed "first" "service/prod/api") =
      ({ apiShown true with enriched := [1] }, some ⟨1, "prod", "api"⟩) := by
  have hfailure : (Display.start "demo" ⟨false, false⟩ true).tree.failure?
      (apiFailed "first" "service/prod/api") = some 1 := by decide +kernel
  have hnamed : ServiceRef.ofPhysicalId? (apiFailed "first" "service/prod/api").event.physicalId =
      some ⟨"prod", "api"⟩ := by decide +kernel
  rw [Display.notify_of_failure?_eq_some hfailure, Display.consider, hnamed]
  rfl

open Painter in
/-- A service that has failed, drawn with its rollout and without. -/
theorem api_is_explained :
    ∃ deeds d plainDeeds d',
      (Painter.start (.start "demo" ⟨false, false⟩ true)).Works
        [[apiFailed "first" "service/prod/api"]] deeds ⟨d, .receiving⟩ ∧
      (Painter.start (.start "demo" ⟨false, false⟩ false)).Works
        [[apiFailed "first" "service/prod/api"]] plainDeeds ⟨d', .receiving⟩ ∧
      drawings deeds =
        ["demo\n  Api CREATE_FAILED\n    rollout FAILED (0/1 running)\n"] ∧
      drawings plainDeeds = ["demo\n  Api CREATE_FAILED\n"] ∧
      d'.tree = d.tree.plain := by
  have hnotify : (Display.start "demo" ⟨false, false⟩ false).notify
      (apiFailed "first" "service/prod/api") = (apiShown false, none) :=
    Display.notify_eq_shown rfl _
  have given (lookups : Bool) : (Painter.start (.start "demo" ⟨false, false⟩ lookups)).Works
      [[apiFailed "first" "service/prod/api"]] [] ⟨.start "demo" ⟨false, false⟩ lookups,
        .applying [apiFailed "first" "service/prod/api"]⟩ := Works.start.receive rfl _
  have work := ((given true).look notify_apiFailed (.ok apiRollout)).draw
  have plainWork := ((given false).see hnotify).draw
  have hsame := ((lookups_only_add_details _ _ _).2 _ _ _ _ work rfl plainWork rfl).1
  have hframe : (Display.answered { apiShown true with enriched := [1] } ⟨1, "prod", "api"⟩
      (.ok apiRollout : Except ApiError Rollout)).frame =
      "demo\n  Api CREATE_FAILED\n    rollout FAILED (0/1 running)\n" := by decide +kernel
  have hplainFrame : (apiShown false).frame = "demo\n  Api CREATE_FAILED\n" := by decide +kernel
  exact ⟨_, _, _, _, work, plainWork, congrArg (· :: []) hframe, congrArg (· :: []) hplainFrame,
    hsame⟩

end StackDeploy
