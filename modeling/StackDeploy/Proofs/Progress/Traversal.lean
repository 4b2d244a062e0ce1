import StackDeploy.Progress.Lines
import StackDeploy.Proofs.Progress.Branching

/-!
# The recursive order of the drawing

The tree is drawn with a stack of the nodes that are still to be visited, and a bound on the number
of visits. What comes out is the recursive printing of the tree: each node, then what is below it,
and then the nodes beside it.

* `ProgressTree.Preorder` — the recursive traversal of some nodes, with what it gives for each.
* `ProgressTree.IsTree.exists_preorder` — of a tree it comes to an end.
* `ProgressTree.Preorder.walkFrom` — the traversal with a stack gives the same.
* `ProgressTree.IsTree.perm_range` — and visits every node exactly once.
* `drawn_as_it_branches` — so the tree is drawn as it branches, after every sequence of updates.
-/

namespace StackDeploy

namespace ProgressTree

variable {α β : Type} {t : ProgressTree} {emit : Nat → Nat → TreeNode → List α}
  {depth idx : Nat} {forest : List Nat}

/-- **The recursive traversal** of nodes that stand beside each other at some depth: what is emitted
for the first one with its depth and index, then the traversal of its children one level deeper,
then that of the others. -/
inductive Preorder (t : ProgressTree) (emit : Nat → Nat → TreeNode → List α) :
    Nat → List Nat → List α → Prop where
  | nil {depth : Nat} : Preorder t emit depth [] []
  | cons {depth idx : Nat} {later : List Nat} {n : TreeNode} {below beside : List α}
      (node : t.node? idx = some n)
      (children : Preorder t emit (depth + 1) n.children below)
      (others : Preorder t emit depth later beside) :
      Preorder t emit depth (idx :: later) (emit depth idx n ++ below ++ beside)

/-- What is emitted to record a **visit**: the depth and the index of the node. -/
def visit (depth idx : Nat) (_ : TreeNode) : List (Nat × Nat) := [(depth, idx)]

/-- What is emitted to list the **nodes** with their depths. -/
def entry (depth _ : Nat) (n : TreeNode) : List (Nat × TreeNode) := [(depth, n)]

/-- A traversal gives one result. -/
theorem Preorder.unique {out out' : List α} (h : t.Preorder emit depth forest out)
    (h' : t.Preorder emit depth forest out') : out = out' := by
  induction h generalizing out' with
  | nil =>
    cases h'
    rfl
  | cons node _ _ below beside =>
    cases h' with
    | cons node' children' others' =>
      obtain rfl := Option.some.inj (node.symm.trans node')
      rw [below children', beside others']

/-- Whatever is emitted for the nodes, it comes in the order of the visits. -/
theorem Preorder.flatMap {out : List α} (h : t.Preorder emit depth forest out) (f : α → List β) :
    t.Preorder (fun depth idx n => (emit depth idx n).flatMap f) depth forest (out.flatMap f) := by
  induction h with
  | nil => exact .nil
  | cons node _ _ below beside =>
    rw [List.flatMap_append, List.flatMap_append]
    exact .cons node below beside

/-- The traversal of trees that stand beside each other comes to an end if that of each does. -/
theorem exists_preorder_of_forall
    (h : ∀ idx ∈ forest, ∃ n below, t.node? idx = some n ∧
      t.Preorder emit (depth + 1) n.children below) : ∃ out, t.Preorder emit depth forest out := by
  induction forest with
  | nil => exact ⟨[], .nil⟩
  | cons idx later ih =>
    obtain ⟨n, below, node, children⟩ := h idx List.mem_cons_self
    obtain ⟨beside, others⟩ := ih fun other hother => h other (List.mem_cons_of_mem _ hother)
    exact ⟨_, .cons node children others⟩

/-- **The recursive traversal of a tree comes to an end**, because every child stands behind its
parent in the arena. -/
theorem IsTree.exists_preorder (h : t.IsTree) (emit : Nat → Nat → TreeNode → List α) (depth : Nat)
    (hforest : ∀ idx ∈ forest, idx < t.size) : ∃ out, t.Preorder emit depth forest out := by
  have below (gap : Nat) : ∀ idx < t.size, t.size - idx ≤ gap → ∀ depth, ∃ n below,
      t.node? idx = some n ∧ t.Preorder emit (depth + 1) n.children below := by
    induction gap with
    | zero =>
      intro idx hidx hgap
      omega
    | succ gap ih =>
      intro idx hidx hgap depth
      have hnode : t.node? idx = some t.nodes[idx] := List.getElem?_eq_getElem hidx
      have hchildren : t.childIndices idx = t.nodes[idx].children := by
        rw [childIndices, hnode]
        rfl
      have hbelow : ∃ out, t.Preorder emit (depth + 1) t.nodes[idx].children out :=
        exists_preorder_of_forall fun child hchild => by
          have hbounds := h.bounds idx child (hchildren ▸ hchild)
          exact ih child hbounds.2 (by omega) (depth + 1)
      obtain ⟨out, hout⟩ := hbelow
      exact ⟨_, out, hnode, hout⟩
  exact exists_preorder_of_forall fun idx hidx =>
    below t.size idx (hforest idx hidx) (Nat.sub_le _ _) depth

/-- **The traversal with a stack** visits the nodes on top of its stack as the recursive one does,
and is then left with the rest of the stack. -/
theorem Preorder.walkFrom {out : List (Nat × TreeNode)} (h : t.Preorder entry depth forest out)
    (fuel : Nat) (stack : List (Nat × Nat)) :
    t.walkFrom (out.length + fuel) (forest.map (fun idx => (idx, depth)) ++ stack) =
      out ++ t.walkFrom fuel stack := by
  induction h generalizing fuel stack with
  | nil => rw [List.length_nil, Nat.zero_add, List.map_nil, List.nil_append, List.nil_append]
  | @cons depth idx later n below beside node _ _ hbelow hbeside =>
    have hfuel : (entry depth idx n ++ below ++ beside).length + fuel =
        (below.length + (beside.length + fuel)) + 1 := by
      simp only [entry, List.length_append, List.length_singleton]
      omega
    rw [hfuel, List.map_cons, List.cons_append, ProgressTree.walkFrom, node]
    simp only
    rw [hbelow, hbeside, entry, List.append_assoc, List.append_assoc, List.singleton_append]

/-! ### Every node once -/

/-- The nodes that are visited are those at the top, and the children of those that are visited. -/
theorem Preorder.perm_flatMap {visits : List (Nat × Nat)}
    (h : t.Preorder visit depth forest visits) :
    (visits.map Prod.snd).Perm (forest ++ (visits.map Prod.snd).flatMap t.childIndices) := by
  induction h with
  | nil => exact .nil
  | @cons depth idx later n below beside node _ _ hbelow hbeside =>
    have hchildren : t.childIndices idx = n.children := by
      rw [childIndices, node]
      rfl
    rw [visit, List.map_append, List.map_append, List.map_singleton, List.singleton_append,
      List.flatMap_append, List.flatMap_cons, hchildren, List.cons_append, List.cons_append]
    refine List.Perm.cons idx ?_
    refine (hbelow.append hbeside).trans ?_
    -- the nodes beside change places with what is below
    rw [← List.append_assoc, ← List.append_assoc]
    exact List.Perm.append_right _ List.perm_append_comm

/-- A child is counted among the children of some nodes as often as its parent among the nodes. -/
theorem count_flatMap_childIndices (h : t.IsTree) {child parent : Nat}
    (hparent : child ∈ t.childIndices parent) (visited : List Nat) :
    (visited.flatMap t.childIndices).count child = visited.count parent := by
  have hone (idx : Nat) : (t.childIndices idx).count child = if idx = parent then 1 else 0 := by
    have hnodup : (t.childIndices idx).Nodup := (h.sorted idx).imp Nat.ne_of_lt
    have hbounds := h.bounds parent child hparent
    split
    next hidx => rw [List.count_eq_one_of_mem hnodup (hidx ▸ hparent)]
    next hidx =>
      refine List.count_eq_zero_of_not_mem fun hmem => hidx ?_
      exact (h.parent child (Nat.zero_lt_of_lt hbounds.1) hbounds.2).unique hmem hparent
  induction visited with
  | nil => rfl
  | cons idx visited ih =>
    rw [List.flatMap_cons, List.count_append, ih, hone, List.count_cons, Nat.add_comm]
    congr 1
    simp only [beq_iff_eq]

/-- **A traversal from the root visits every node of a tree exactly once.** -/
theorem IsTree.perm_range (h : t.IsTree) {visits : List (Nat × Nat)}
    (hvisits : t.Preorder visit depth [0] visits) :
    (visits.map Prod.snd).Perm (List.range t.size) := by
  have hcount (idx : Nat) : (visits.map Prod.snd).count idx =
      [0].count idx + ((visits.map Prod.snd).flatMap t.childIndices).count idx := by
    rw [← List.count_append]
    exact hvisits.perm_flatMap.count_eq idx
  have hnone (idx : Nat) (hidx : ∀ parent, idx ∉ t.childIndices parent) :
      ((visits.map Prod.snd).flatMap t.childIndices).count idx = 0 := by
    refine List.count_eq_zero_of_not_mem fun hmem => ?_
    obtain ⟨parent, -, hchild⟩ := List.mem_flatMap.mp hmem
    exact hidx parent hchild
  have honce (idx : Nat) : idx < t.size → (visits.map Prod.snd).count idx = 1 := by
    induction idx using Nat.strongRecOn with
    | ind idx ih =>
      intro hidx
      rcases Nat.eq_zero_or_pos idx with rfl | hpos
      · rw [hcount, hnone 0 fun parent hmem => Nat.not_lt_zero _ (h.bounds parent 0 hmem).1]
        rfl
      · obtain ⟨parent, hparent, -⟩ := h.parent idx hpos hidx
        have hlt := (h.bounds parent idx hparent).1
        rw [hcount, count_flatMap_childIndices h hparent, ih parent hlt (Nat.lt_trans hlt hidx),
          List.count_singleton, if_neg (by simpa using Nat.ne_of_lt hpos)]
  refine List.perm_iff_count.mpr fun idx => ?_
  by_cases hidx : idx < t.size
  · rw [honce idx hidx, List.count_eq_one_of_mem List.nodup_range (List.mem_range.mpr hidx)]
  · have hzero : idx ≠ 0 := fun hzero => hidx (hzero ▸ h.nonempty)
    rw [hcount, hnone idx fun parent hmem => hidx (h.bounds parent idx hmem).2,
      List.count_singleton, if_neg (by simpa using Ne.symm hzero),
      List.count_eq_zero_of_not_mem fun hmem => hidx (List.mem_range.mp hmem)]

/-! ### The drawing -/

/-- The lines of a node: its own, and below it, indented once more, its line of diagnosis. -/
theorem nodeLines_eq (color : Bool) (depth : Nat) (n : TreeNode) : nodeLines color depth n =
    nodeLine color depth n :: n.detail.toList.map fun detail => indent (depth + 1) ++ detail := by
  rw [nodeLines]
  cases n.detail <;> rfl

/-- **A tree is drawn as it branches**: the recursive traversal from the root visits every node
exactly once, the traversal with a stack comes to its end with the same nodes in the same order, and
the lines are what the recursive traversal prints: for each node its own line, and its line of
diagnosis if it has one. -/
structure DrawnAsItBranches (t : ProgressTree) : Prop where
  each_once : ∃ visits, t.Preorder visit 0 [0] visits ∧
    (visits.map Prod.snd).Perm (List.range t.size)
  preorder_iff_walk : ∀ nodes, t.Preorder entry 0 [0] nodes ↔ nodes = t.walk
  walk_ends : ∀ extra, t.walkFrom (t.size + extra) [(0, 0)] = t.walk
  preorder_iff_lines : ∀ color lines,
    t.Preorder (fun depth _ n => nodeLine color depth n ::
      n.detail.toList.map fun detail => indent (depth + 1) ++ detail) 0 [0] lines ↔
        lines = t.lines color

/-- **A tree has as many nodes as are visited.** -/
theorem IsTree.length_of_preorder (h : t.IsTree) {nodes : List (Nat × TreeNode)}
    (hnodes : t.Preorder entry 0 [0] nodes) : nodes.length = t.size := by
  have hroot : ∀ idx ∈ [0], idx < t.size := fun idx hidx =>
    List.mem_singleton.mp hidx ▸ h.nonempty
  obtain ⟨visits, hvisits⟩ := h.exists_preorder (fun depth idx n => [(depth, idx, n)]) 0 hroot
  have hrecorded := hvisits.flatMap fun (depth, idx, _) => [(depth, idx)]
  have hlisted := hvisits.flatMap fun (depth, _, n) => [(depth, n)]
  have hlength := (h.perm_range hrecorded).length_eq
  obtain rfl := hlisted.unique hnodes
  rw [List.length_map, List.length_range, List.length_flatMap] at hlength
  rw [List.length_flatMap, ← hlength]
  rfl

theorem IsTree.drawnAsItBranches (h : t.IsTree) : t.DrawnAsItBranches := by
  have hroot : ∀ idx ∈ [0], idx < t.size := fun idx hidx =>
    List.mem_singleton.mp hidx ▸ h.nonempty
  obtain ⟨visits, hvisits⟩ := h.exists_preorder visit 0 hroot
  obtain ⟨nodes, hnodes⟩ := h.exists_preorder entry 0 hroot
  have hwalks (extra : Nat) : t.walkFrom (t.size + extra) [(0, 0)] = nodes := by
    have hends := hnodes.walkFrom extra []
    rw [h.length_of_preorder hnodes] at hends
    refine hends.trans ?_
    cases extra <;> rw [ProgressTree.walkFrom, List.append_nil]
  have hwalk : t.walk = nodes := hwalks 0
  refine ⟨⟨visits, hvisits, h.perm_range hvisits⟩, fun other => ?_, fun extra => ?_,
    fun color lines => ?_⟩
  · exact ⟨fun hother => hwalk ▸ hother.unique hnodes, fun hother => hother ▸ hwalk ▸ hnodes⟩
  · rw [hwalks, hwalk]
  · have hlines : t.Preorder (fun depth _ n => nodeLine color depth n ::
        n.detail.toList.map fun detail => indent (depth + 1) ++ detail) 0 [0] (t.lines color) := by
      have hprinted := hnodes.flatMap fun node => nodeLines color node.1 node.2
      simp only [entry, List.flatMap_singleton] at hprinted
      rw [ProgressTree.lines, hwalk]
      simpa only [nodeLines_eq] using hprinted
    exact ⟨fun hother => hother.unique hlines, fun hother => hother ▸ hlines⟩

end ProgressTree

open ProgressTree

/-- **The tree is drawn as it branches.** Whatever events are applied to the tree of a root stack,
and whatever lines of diagnosis are set, its nodes form a tree, which only grows; and what is drawn
is the recursive printing of it. -/
theorem drawn_as_it_branches (root : String) (updates : List Update) :
    ((start root).updateAll updates).Branches root ∧
      (∀ more, (((start root).updateAll updates).updateAll more).Extends
        ((start root).updateAll updates)) ∧
      ((start root).updateAll updates).DrawnAsItBranches := by
  have hbranches := branches_updateAll root updates
  have hwf := (wellFormed_start root).updateAll updates
  exact ⟨hbranches, hwf.extends_updateAll, hbranches.isTree.drawnAsItBranches⟩

end StackDeploy
