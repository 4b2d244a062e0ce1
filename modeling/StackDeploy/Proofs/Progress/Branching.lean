import StackDeploy.Proofs.Progress.Arena

/-!
# How the progress tree branches

Which node an event makes a child of which is up to the event: any physical identifier may place any
stack, and an unknown stack stands under the root. The nodes form a tree all the same, since a new
node comes last in the arena and last among the children of a node that is already there.

* `ProgressTree.IsTree` — every node but the root has one parent, which comes before it.
* `ProgressTree.Branches` — and it is the node of the resource whose name it carries.
* `ProgressTree.Extends` — what is there stays where it is.
* `ProgressTree.branches_updateAll`, `ProgressTree.extends_updateAll` — so it is after every
  sequence of updates.
-/

namespace StackDeploy

/-- The part of a node that fixes its place in the drawing: its name, and its children. -/
def TreeNode.shape (n : TreeNode) : String × List Nat := (n.name, n.children)

namespace ProgressTree

/-- The shapes of the nodes, in the order of the arena. -/
def shape (t : ProgressTree) : List (String × List Nat) := t.nodes.map TreeNode.shape

/-- The name of the node at an index. -/
def name? (t : ProgressTree) (idx : Nat) : Option String := (t.node? idx).map (·.name)

/-- The indices of the children of the node at an index. -/
def childIndices (t : ProgressTree) (idx : Nat) : List Nat :=
  ((t.node? idx).map (·.children)).getD []

/-- What is done to a tree that is on display: an event is applied, or the line of diagnosis of a
node is set. -/
inductive Update where
  | event (e : StreamEvent)
  | detail (idx : Nat) (text : String)

/-- The tree after an update. -/
def update (t : ProgressTree) : Update → ProgressTree
  | .event e => (t.apply e).2
  | .detail idx text => t.setDetail idx text

/-- The tree after updates one after the other. -/
def updateAll (t : ProgressTree) (updates : List Update) : ProgressTree :=
  updates.foldl update t

/-- **The nodes form a tree**: the children of a node come after it, in the order of the arena and
so each at most once, and every node but the root is a child of exactly one node. -/
structure IsTree (t : ProgressTree) : Prop where
  nonempty : 0 < t.size
  bounds : ∀ idx, ∀ child ∈ t.childIndices idx, idx < child ∧ child < t.size
  sorted : ∀ idx, (t.childIndices idx).Pairwise (· < ·)
  parent : ∀ idx, 0 < idx → idx < t.size → ∃! parent, idx ∈ t.childIndices parent

/-- **A tree branches from a root stack**: every node but the root is that of one resource, whose
logical identifier is its name, and the resources of every known stack have a node to stand under,
those of the root stack the root. -/
structure Branches (t : ProgressTree) (root : String) : Prop where
  isTree : t.IsTree
  resource_inj : ∀ key other idx, t.resources.get? key = some idx →
    t.resources.get? other = some idx → key = other
  resource_range : ∀ idx, (∃ key, t.resources.get? key = some idx) ↔ 0 < idx ∧ idx < t.size
  name_resource : ∀ stack logicalId idx, t.resources.get? (stack, logicalId) = some idx →
    t.name? idx = some logicalId
  name_root : t.name? 0 = some root
  owner_lt : ∀ stack idx, t.owners.get? stack = some idx → idx < t.size
  owner_root : t.owners.get? root = some 0

/-- **A tree extends another one**: its nodes have kept their places and names, the children of each
have kept their order and are followed by new nodes only, and no resource or stack has another node
than before. -/
structure Extends (t' t : ProgressTree) : Prop where
  size_le : t.size ≤ t'.size
  name_eq : ∀ idx < t.size, t'.name? idx = t.name? idx
  children : ∀ idx, ∃ added, t'.childIndices idx = t.childIndices idx ++ added ∧
    ∀ child ∈ added, t.size ≤ child
  resources : ∀ key idx, t.resources.get? key = some idx → t'.resources.get? key = some idx
  owners : ∀ stack idx, t.owners.get? stack = some idx → t'.owners.get? stack = some idx

variable {t t' : ProgressTree} {idx child : Nat}

/-! ### What the shape of a tree determines -/

theorem lt_size_of_mem_childIndices (h : child ∈ t.childIndices idx) : idx < t.size := by
  rw [childIndices] at h
  cases hnode : t.node? idx with
  | none =>
    rw [hnode] at h
    cases h
  | some n => exact (List.getElem?_eq_some_iff.mp hnode).1

theorem size_eq_length_shape (t : ProgressTree) : t.size = t.shape.length :=
  List.length_map _ |>.symm

theorem name?_eq_shape (t : ProgressTree) (idx : Nat) :
    t.name? idx = t.shape[idx]?.map Prod.fst := by
  rw [name?, node?, shape, List.getElem?_map, Option.map_map]
  rfl

theorem childIndices_eq_shape (t : ProgressTree) (idx : Nat) :
    t.childIndices idx = (t.shape[idx]?.map Prod.snd).getD [] := by
  rw [childIndices, node?, shape, List.getElem?_map, Option.map_map]
  rfl

section SameShape

variable (h : t'.shape = t.shape)
include h

theorem size_congr : t'.size = t.size := by
  rw [size_eq_length_shape, h, size_eq_length_shape]

theorem name?_congr (idx : Nat) : t'.name? idx = t.name? idx := by
  rw [name?_eq_shape, h, name?_eq_shape]

theorem childIndices_congr (idx : Nat) : t'.childIndices idx = t.childIndices idx := by
  rw [childIndices_eq_shape, h, childIndices_eq_shape]

theorem IsTree.congr (ht : t.IsTree) : t'.IsTree where
  nonempty := size_congr h ▸ ht.nonempty
  bounds := by
    simp only [childIndices_congr h, size_congr h]
    exact ht.bounds
  sorted := by
    simp only [childIndices_congr h]
    exact ht.sorted
  parent := by
    simp only [childIndices_congr h, size_congr h]
    exact ht.parent

end SameShape

/-- Changing what a node shows does not change the shape of the tree. -/
theorem shape_modify (t : ProgressTree) (idx : Nat) {f : TreeNode → TreeNode}
    (hf : ∀ n, (f n).shape = n.shape) :
    shape { t with nodes := t.nodes.modify idx f } = t.shape := by
  refine List.ext_getElem? fun i => ?_
  rw [shape, shape, List.getElem?_map, List.getElem?_map, List.getElem?_modify]
  cases t.nodes[i]? with
  | none => rfl
  | some n =>
    rw [Option.map_eq_map, Option.map_some, Option.map_some, Option.map_some]
    split
    · rw [hf]
    · rfl

theorem shape_apply (t : ProgressTree) (e : StreamEvent) :
    (t.apply e).2.shape = (t.routed e).shape := by
  rw [apply_eq]
  dsimp only
  split
  · rfl
  · exact (t.routed e).shape_modify _ fun _ => rfl

theorem shape_setDetail (t : ProgressTree) (idx : Nat) (text : String) :
    (t.setDetail idx text).shape = t.shape :=
  t.shape_modify idx fun _ => rfl

/-! ### A new node -/

section AddResource

variable {stack logicalId : String}

theorem size_addResource (t : ProgressTree) (stack logicalId : String) :
    (t.addResource stack logicalId).size = t.size + 1 :=
  length_nodes_addResource t stack logicalId

theorem name?_addResource (t : ProgressTree) (stack logicalId : String) (hidx : idx < t.size) :
    (t.addResource stack logicalId).name? idx = t.name? idx := by
  rw [name?, node?_addResource _ _ _ hidx, Option.map_map, name?]
  refine congrArg (Option.map · _) (funext fun n => ?_)
  dsimp only [Function.comp]
  split <;> rfl

theorem name?_addResource_size (t : ProgressTree) (stack logicalId : String) :
    (t.addResource stack logicalId).name? t.size = some logicalId := by
  rw [name?, size, node?_addResource_length]
  rfl

/-- The new node comes last among the children of its stack's node. -/
theorem childIndices_addResource (howner : t.owner stack < t.size) (idx : Nat) :
    (t.addResource stack logicalId).childIndices idx =
      t.childIndices idx ++ if idx = t.owner stack then [t.size] else [] := by
  rcases Nat.lt_trichotomy idx t.size with hlt | rfl | hgt
  · rw [childIndices, node?_addResource _ _ _ hlt, childIndices, node?,
      List.getElem?_eq_getElem hlt]
    by_cases hidx : idx = t.owner stack
    · simp [hidx, size]
    · simp [hidx, Ne.symm hidx]
  · rw [childIndices, if_neg (Nat.ne_of_gt howner), size, node?_addResource_length, childIndices,
      node?, List.getElem?_eq_none (Nat.le_refl _)]
    rfl
  · have hnew : (t.addResource stack logicalId).size ≤ idx := by
      rw [size_addResource]
      exact hgt
    rw [if_neg (Nat.ne_of_gt (Nat.lt_trans howner hgt)), childIndices, node?,
      List.getElem?_eq_none hnew, childIndices, node?, List.getElem?_eq_none (Nat.le_of_lt hgt)]
    rfl

theorem mem_childIndices_addResource (howner : t.owner stack < t.size) :
    child ∈ (t.addResource stack logicalId).childIndices idx ↔
      child ∈ t.childIndices idx ∨ child = t.size ∧ idx = t.owner stack := by
  rw [childIndices_addResource howner, List.mem_append]
  by_cases hidx : idx = t.owner stack
  · simp [hidx]
  · simp [hidx]

/-- **A new node is a leaf under a node that comes before it**, so the nodes still form a tree. -/
theorem IsTree.addResource (h : t.IsTree) (howner : t.owner stack < t.size) :
    (t.addResource stack logicalId).IsTree where
  nonempty := by
    rw [size_addResource]
    exact Nat.succ_pos _
  bounds := by
    intro idx child hchild
    rw [size_addResource]
    rcases (mem_childIndices_addResource howner).mp hchild with hold | ⟨rfl, rfl⟩
    · have hbounds := h.bounds idx child hold
      exact ⟨hbounds.1, Nat.lt_succ_of_lt hbounds.2⟩
    · exact ⟨howner, Nat.lt_succ_self _⟩
  sorted := by
    intro idx
    rw [childIndices_addResource howner, List.pairwise_append]
    refine ⟨h.sorted idx, ?_, fun child hchild new hnew => ?_⟩
    · split <;> simp
    · have hlast : new = t.size := by
        split at hnew
        · exact List.mem_singleton.mp hnew
        · cases hnew
      exact hlast ▸ (h.bounds idx child hchild).2
  parent := by
    intro idx hpos hlt
    rw [size_addResource] at hlt
    simp only [mem_childIndices_addResource howner]
    rcases Nat.lt_succ_iff_lt_or_eq.mp hlt with hold | rfl
    · obtain ⟨parent, hparent, hunique⟩ := h.parent idx hpos hold
      refine ⟨parent, .inl hparent, fun other hother => ?_⟩
      rcases hother with hother | ⟨hnew, -⟩
      · exact hunique other hother
      · exact absurd hnew (Nat.ne_of_lt hold)
    · refine ⟨t.owner stack, .inr ⟨rfl, rfl⟩, fun other hother => ?_⟩
      rcases hother with hold | ⟨-, howns⟩
      · exact absurd (h.bounds other _ hold).2 (Nat.lt_irrefl _)
      · exact howns

end AddResource

/-! ### One update -/

/-- What an update does to the tables and the shape: nothing, or it has added the node of a
resource that was not known. -/
theorem update_cases (t : ProgressTree) (u : Update) :
    ((t.update u).shape = t.shape ∧ (t.update u).resources = t.resources) ∨
      ∃ stack logicalId, t.resources.get? (stack, logicalId) = none ∧
        (t.update u).shape = (t.addResource stack logicalId).shape ∧
        (t.update u).resources = (t.addResource stack logicalId).resources := by
  cases u with
  | detail idx text => exact .inl ⟨t.shape_setDetail idx text, rfl⟩
  | event e =>
    have hshape : (t.update (.event e)).shape = (t.routed e).shape := t.shape_apply e
    have hresources : (t.update (.event e)).resources = (t.routed e).resources := by
      rw [update, apply_eq]
      exact resources_adopt _ _ _
    rw [hshape, hresources]
    obtain ⟨-, -, hsame⟩ | ⟨-, -, hsame⟩ | ⟨-, hnew, -, hadd⟩ := t.route_cases e
    · exact .inl ⟨by rw [hsame], by rw [hsame]⟩
    · exact .inl ⟨by rw [hsame], by rw [hsame]⟩
    · exact .inr ⟨e.stack, e.event.logicalId, hnew, by rw [hadd], by rw [hadd]⟩

theorem owners_update_of_some {stack : String} (hget : t.owners.get? stack = some idx)
    (u : Update) : (t.update u).owners.get? stack = some idx := by
  cases u with
  | detail => exact hget
  | event e => exact owners_apply_of_some hget e

theorem WellFormed.update (h : t.WellFormed) (u : Update) : (t.update u).WellFormed := by
  cases u with
  | event e => exact h.apply e
  | detail idx text =>
    have hlength : (t.setDetail idx text).nodes.length = t.nodes.length := List.length_modify ..
    exact ⟨h.nodup_keys, h.indices_eq, hlength ▸ h.length_nodes, hlength ▸ h.owner_lt⟩

theorem IsTree.update (h : t.IsTree) (hwf : t.WellFormed) (u : Update) : (t.update u).IsTree := by
  obtain ⟨hshape, -⟩ | ⟨stack, logicalId, -, hshape, -⟩ := t.update_cases u
  · exact h.congr hshape
  · exact (h.addResource (hwf.owner_lt_length stack)).congr hshape

theorem Extends.refl (t : ProgressTree) : t.Extends t where
  size_le := Nat.le_refl _
  name_eq := fun _ _ => rfl
  children := fun _ => ⟨[], (List.append_nil _).symm, fun _ h => nomatch h⟩
  resources := fun _ _ h => h
  owners := fun _ _ h => h

theorem Extends.trans {t'' : ProgressTree} (h : t'.Extends t) (h' : t''.Extends t') :
    t''.Extends t where
  size_le := Nat.le_trans h.size_le h'.size_le
  name_eq := fun idx hidx =>
    (h'.name_eq idx (Nat.lt_of_lt_of_le hidx h.size_le)).trans (h.name_eq idx hidx)
  children := by
    intro idx
    obtain ⟨added, hadded, hnew⟩ := h.children idx
    obtain ⟨more, hmore, hnewer⟩ := h'.children idx
    refine ⟨added ++ more, by rw [hmore, hadded, List.append_assoc], fun child hchild => ?_⟩
    rcases List.mem_append.mp hchild with hchild | hchild
    · exact hnew child hchild
    · exact Nat.le_trans h.size_le (hnewer child hchild)
  resources := fun key idx hget => h'.resources key idx (h.resources key idx hget)
  owners := fun stack idx hget => h'.owners stack idx (h.owners stack idx hget)

/-- **An update extends the tree.** -/
theorem WellFormed.extends_update (hwf : t.WellFormed) (u : Update) : (t.update u).Extends t := by
  obtain ⟨hshape, hresources⟩ | ⟨stack, logicalId, hnew, hshape, hresources⟩ := t.update_cases u
  · exact {
      size_le := Nat.le_of_eq (size_congr hshape).symm
      name_eq := fun idx _ => name?_congr hshape idx
      children := fun idx =>
        ⟨[], by rw [childIndices_congr hshape, List.append_nil], List.forall_mem_nil _⟩
      resources := fun key idx hget => hresources ▸ hget
      owners := fun stack idx hget => owners_update_of_some hget u }
  · have howner := hwf.owner_lt_length stack
    exact {
      size_le := by
        rw [size_congr hshape, size_addResource]
        exact Nat.le_succ _
      name_eq := fun idx hidx => by rw [name?_congr hshape, name?_addResource _ _ _ hidx]
      children := fun idx => by
        refine ⟨_, by rw [childIndices_congr hshape, childIndices_addResource howner], ?_⟩
        split <;> simp
      resources := fun key idx hget => by
        rw [hresources, ProgressTree.addResource, Table.get?_set, if_neg, hget]
        rintro rfl
        cases hget.symm.trans hnew
      owners := fun stack idx hget => owners_update_of_some hget u }

/-- Every resource's node carries its logical identifier. -/
def Named (t : ProgressTree) : Prop :=
  ∀ stack logicalId idx, t.resources.get? (stack, logicalId) = some idx →
    t.name? idx = some logicalId

theorem Named.update (h : t.Named) (hwf : t.WellFormed) (u : Update) : (t.update u).Named := by
  intro stack logicalId idx hget
  have hold (hget : t.resources.get? (stack, logicalId) = some idx) :
      (t.update u).name? idx = some logicalId :=
    ((hwf.extends_update u).name_eq idx (hwf.resource_bounds hget).2).trans
      (h stack logicalId idx hget)
  obtain ⟨-, hresources⟩ | ⟨s, l, hnew, hshape, hresources⟩ := t.update_cases u
  · exact hold (hresources ▸ hget)
  · rw [hresources, ProgressTree.addResource, Table.get?_set] at hget
    split at hget
    next hkey =>
      obtain ⟨rfl, rfl⟩ := Prod.mk.inj hkey
      obtain rfl := Option.some.inj hget
      rw [name?_congr hshape]
      exact t.name?_addResource_size stack logicalId
    · exact hold hget

/-! ### Sequences of updates -/

theorem isTree_start (root : String) : (start root).IsTree where
  nonempty := Nat.one_pos
  bounds := by
    intro idx child hchild
    obtain rfl : idx = 0 := Nat.lt_one_iff.mp (lt_size_of_mem_childIndices hchild)
    cases hchild
  sorted := by
    intro idx
    rw [childIndices]
    cases idx <;> exact List.Pairwise.nil
  parent := fun idx hpos hlt => absurd hpos (Nat.not_lt.mpr (Nat.lt_succ_iff.mp hlt))

theorem updateAll_append_singleton (t : ProgressTree) (updates : List Update) (u : Update) :
    t.updateAll (updates ++ [u]) = (t.updateAll updates).update u :=
  List.foldl_concat ..

theorem WellFormed.updateAll (h : t.WellFormed) (updates : List Update) :
    (t.updateAll updates).WellFormed := by
  induction updates using List.reverseRecOn with
  | nil => exact h
  | append_singleton updates u ih =>
    rw [updateAll_append_singleton]
    exact ih.update u

/-- **What is there stays where it is**, whatever is applied later. -/
theorem WellFormed.extends_updateAll (h : t.WellFormed) (updates : List Update) :
    (t.updateAll updates).Extends t := by
  induction updates using List.reverseRecOn with
  | nil => exact .refl t
  | append_singleton updates u ih =>
    rw [updateAll_append_singleton]
    exact ih.trans ((h.updateAll updates).extends_update u)

/-- **The tree of a root stack branches from it**, whatever is applied to it. -/
theorem branches_updateAll (root : String) (updates : List Update) :
    ((start root).updateAll updates).Branches root := by
  have hwf := (wellFormed_start root).updateAll updates
  have hextends := (wellFormed_start root).extends_updateAll updates
  have hgrown : ((start root).updateAll updates).IsTree ∧
      ((start root).updateAll updates).Named := by
    induction updates using List.reverseRecOn with
    | nil => exact ⟨isTree_start root, fun _ _ _ hget => nomatch hget⟩
    | append_singleton updates u ih =>
      have hwf := (wellFormed_start root).updateAll updates
      obtain ⟨htree, hnamed⟩ := ih hwf ((wellFormed_start root).extends_updateAll updates)
      rw [updateAll_append_singleton]
      exact ⟨htree.update hwf u, hnamed.update hwf u⟩
  have howner : (start root).owners.get? root = some 0 := Table.get?_set_self [] root 0
  exact {
    isTree := hgrown.1
    resource_inj := fun _ _ _ hget hother => hwf.resource_inj hget hother
    resource_range := fun idx =>
      ⟨fun ⟨_, hget⟩ => hwf.resource_bounds hget, fun ⟨hpos, hlt⟩ => hwf.exists_resource hpos hlt⟩
    name_resource := hgrown.2
    name_root := hextends.name_eq 0 Nat.one_pos
    owner_lt := hwf.owner_lt
    owner_root := hextends.owners root 0 howner }

end ProgressTree

end StackDeploy
