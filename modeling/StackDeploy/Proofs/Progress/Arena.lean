import StackDeploy.Progress.Tree
import StackDeploy.Proofs.Stream.Tick

/-!
# The arena of a progress tree

A tree has one node for its root stack and one for every resource, in the order in which they were
first seen. Nodes are only ever added, and what a node shows is changed only by an event that goes
to it.

* `ProgressTree.WellFormed` — the resources are numbered from 1 on, and every owner is a node.
* `ProgressTree.route_cases` — the ways in which an event finds its node.
* `ProgressTree.resources_apply`, `ProgressTree.owners_apply` — what an event does to the tables.
* `ProgressTree.report_apply_of_ne`, `ProgressTree.node?_apply_target` — and to the nodes.
-/

namespace StackDeploy

/-- What a node **reports** of the resource that it stands for. -/
def TreeNode.report (n : TreeNode) : String × Option String × Option Instant :=
  (n.status, n.reason, n.updatedAt)

/-- The event **places** a stack: it is about a nested stack with this physical identifier, and not
about the stack that has delivered it. -/
def StreamEvent.Places (e : StreamEvent) (stack : String) : Prop :=
  e.event.kind = .nestedStack ∧ e.event.physicalId = stack ∧ stack ≠ "" ∧
    ProgressTree.isAboutStack e = false

instance (e : StreamEvent) (stack : String) : Decidable (e.Places stack) :=
  inferInstanceAs (Decidable (_ ∧ _ ∧ _ ∧ _))

namespace ProgressTree

variable {t : ProgressTree} {e : StreamEvent} {stack : String} {key : String × String} {idx : Nat}

/-! ### Well-formed trees -/

/-- A tree is **well formed** when its resources have the nodes from 1 on, in the order of the
table, and every owner is a node. -/
structure WellFormed (t : ProgressTree) : Prop where
  nodup_keys : (t.resources.map Prod.fst).Nodup
  indices_eq : t.resources.map Prod.snd = List.range' 1 t.resources.length
  length_nodes : t.nodes.length = t.resources.length + 1
  owner_lt : ∀ stack idx, t.owners.get? stack = some idx → idx < t.nodes.length

theorem wellFormed_start (root : String) : (start root).WellFormed where
  nodup_keys := .nil
  indices_eq := rfl
  length_nodes := rfl
  owner_lt := by
    intro stack idx h
    have hmem := Table.mem_of_get?_eq_some h
    obtain ⟨-, rfl⟩ := Prod.mk.inj (List.mem_singleton.mp hmem)
    exact Nat.one_pos

/-- A resource has a node, which is not the root. -/
theorem WellFormed.resource_bounds (h : t.WellFormed) (hget : t.resources.get? key = some idx) :
    0 < idx ∧ idx < t.nodes.length := by
  have hmem : idx ∈ t.resources.map Prod.snd :=
    List.mem_map.mpr ⟨_, Table.mem_of_get?_eq_some hget, rfl⟩
  rw [h.indices_eq, List.mem_range'_1] at hmem
  have hlength := h.length_nodes
  omega

/-- No two resources share a node. -/
theorem WellFormed.resource_inj (h : t.WellFormed) {other : String × String}
    (hget : t.resources.get? key = some idx) (hother : t.resources.get? other = some idx) :
    key = other := by
  have hnodup : (t.resources.map Prod.snd).Nodup := h.indices_eq ▸ List.nodup_range'
  have heq := List.inj_on_of_nodup_map hnodup (Table.mem_of_get?_eq_some hget)
    (Table.mem_of_get?_eq_some hother) rfl
  exact (Prod.mk.inj heq).1

/-- Every node but the root is that of a resource. -/
theorem WellFormed.exists_resource (h : t.WellFormed) (hpos : 0 < idx)
    (hlt : idx < t.nodes.length) : ∃ key, t.resources.get? key = some idx := by
  have hmem : idx ∈ t.resources.map Prod.snd := by
    rw [h.indices_eq, List.mem_range'_1]
    have hlength := h.length_nodes
    omega
  obtain ⟨⟨key, _⟩, hentry, rfl⟩ := List.mem_map.mp hmem
  exact ⟨key, (Table.get?_eq_some_iff_mem h.nodup_keys).mpr hentry⟩

/-- The node under which the resources of a stack stand is there. -/
theorem WellFormed.owner_lt_length (h : t.WellFormed) (stack : String) :
    t.owner stack < t.nodes.length := by
  rw [owner]
  cases hget : t.owners.get? stack with
  | none =>
    have hlength := h.length_nodes
    rw [Option.getD_none]
    omega
  | some idx => exact h.owner_lt stack idx hget

/-! ### The node of an event -/

/-- The node that an event goes to. -/
def target (t : ProgressTree) (e : StreamEvent) : Nat := (t.route e).1

/-- The tree in which that node exists. -/
def routed (t : ProgressTree) (e : StreamEvent) : ProgressTree := (t.route e).2

/-- An event goes to the node of its stack, to that of its resource, or to a new one. -/
theorem route_cases (t : ProgressTree) (e : StreamEvent) :
    (isAboutStack e = true ∧ t.target e = t.owner e.stack ∧ t.routed e = t) ∨
      (isAboutStack e = false ∧ t.resources.get? e.resource = some (t.target e) ∧
        t.routed e = t) ∨
      (isAboutStack e = false ∧ t.resources.get? e.resource = none ∧
        t.target e = t.nodes.length ∧
        t.routed e = t.addResource e.stack e.event.logicalId) := by
  rw [target, routed, route]
  cases hown : isAboutStack e with
  | true => exact .inl ⟨rfl, rfl, rfl⟩
  | false =>
    have hkey : (e.stack, e.event.logicalId) = e.resource := rfl
    rw [hkey]
    cases hget : t.resources.get? e.resource with
    | some idx => exact .inr (.inl ⟨rfl, rfl, rfl⟩)
    | none => exact .inr (.inr ⟨rfl, rfl, rfl, rfl⟩)

@[simp] theorem length_nodes_addResource (t : ProgressTree) (stack logicalId : String) :
    (t.addResource stack logicalId).nodes.length = t.nodes.length + 1 := by
  rw [addResource, List.length_append, List.length_modify, List.length_singleton]

theorem WellFormed.addResource (h : t.WellFormed) {logicalId : String}
    (hnew : t.resources.get? (stack, logicalId) = none) :
    (t.addResource stack logicalId).WellFormed := by
  have hresources : (t.addResource stack logicalId).resources =
      t.resources ++ [((stack, logicalId), t.nodes.length)] :=
    Table.set_of_get?_eq_none hnew _
  refine ⟨?_, ?_, ?_, fun other idx hget => ?_⟩
  · rw [hresources, List.map_append, List.map_singleton, List.nodup_append]
    refine ⟨h.nodup_keys, List.nodup_singleton _, fun key hkey other hother hsame => ?_⟩
    obtain rfl := List.mem_singleton.mp hother
    rw [hsame] at hkey
    exact Table.get?_eq_none_iff.mp hnew hkey
  · rw [hresources, List.map_append, h.indices_eq, List.length_append, List.length_singleton,
      List.range'_concat, List.map_singleton, h.length_nodes, Nat.one_mul, Nat.add_comm 1]
  · rw [length_nodes_addResource, hresources, List.length_append, List.length_singleton,
      h.length_nodes]
  · rw [length_nodes_addResource]
    exact Nat.lt_succ_of_lt (h.owner_lt other idx hget)

theorem WellFormed.routed (h : t.WellFormed) (e : StreamEvent) : (t.routed e).WellFormed := by
  obtain ⟨-, -, hsame⟩ | ⟨-, -, hsame⟩ | ⟨-, hnew, -, hadd⟩ := t.route_cases e
  · rwa [hsame]
  · rwa [hsame]
  · rw [hadd]
    exact h.addResource hnew

/-- The node that an event goes to is there. -/
theorem WellFormed.target_lt (h : t.WellFormed) (e : StreamEvent) :
    t.target e < (t.routed e).nodes.length := by
  obtain ⟨-, htarget, hsame⟩ | ⟨-, hget, hsame⟩ | ⟨-, -, htarget, hadd⟩ := t.route_cases e
  · rw [htarget, hsame]
    exact h.owner_lt_length e.stack
  · rw [hsame]
    exact (h.resource_bounds hget).2
  · rw [htarget, hadd, length_nodes_addResource]
    exact Nat.lt_succ_self _

theorem length_nodes_le_routed (t : ProgressTree) (e : StreamEvent) :
    t.nodes.length ≤ (t.routed e).nodes.length := by
  obtain ⟨-, -, hsame⟩ | ⟨-, -, hsame⟩ | ⟨-, -, -, hadd⟩ := t.route_cases e
  · rw [hsame]
  · rw [hsame]
  · rw [hadd, length_nodes_addResource]
    exact Nat.le_succ _

/-! ### The tables after an event -/

/-- The event is older than what its node shows. -/
def ignores (t : ProgressTree) (e : StreamEvent) : Bool :=
  ((t.routed e).node? (t.target e)).any fun n => n.isStale e.event

@[simp] theorem nodes_adopt (t : ProgressTree) (e : StreamEvent) (idx : Nat) :
    (t.adopt e idx).nodes = t.nodes := by
  rw [adopt]
  split <;> rfl

@[simp] theorem resources_adopt (t : ProgressTree) (e : StreamEvent) (idx : Nat) :
    (t.adopt e idx).resources = t.resources := by
  rw [adopt]
  split <;> rfl

/-- A stack that has an owner keeps it; another one is adopted when the event places it. -/
theorem owners_adopt (t : ProgressTree) (e : StreamEvent) (idx : Nat) (stack : String) :
    (t.adopt e idx).owners.get? stack =
      (t.owners.get? stack).or (if e.Places stack then some idx else none) := by
  have hplaces : e.Places e.event.physicalId ↔
      (!isAboutStack e && e.event.kind = .nestedStack && e.event.physicalId != "") = true := by
    simp only [StreamEvent.Places, Bool.and_eq_true, Bool.not_eq_true', decide_eq_true_eq,
      bne_iff_ne]
    tauto
  have hother : e.event.physicalId ≠ stack → ¬ e.Places stack := fun hne h => hne h.2.1
  rw [adopt]
  split
  next hadopts =>
    rw [Bool.and_eq_true, Bool.not_eq_true'] at hadopts
    obtain ⟨hcond, hnew⟩ := hadopts
    have hnone : t.owners.get? e.event.physicalId = none := by
      rwa [Table.contains, Option.isSome_eq_false_iff, Option.isNone_iff_eq_none] at hnew
    rw [Table.get?_set]
    split
    next hstack => rw [hstack, hnone, if_pos (hplaces.mpr hcond), Option.none_or]
    next hstack => rw [if_neg (hother (Ne.symm hstack)), Option.or_none]
  next hkeeps =>
    by_cases hstack : e.Places stack
    · obtain rfl := hstack.2.1
      -- the event places a stack that has an owner already
      rw [Bool.and_eq_true, not_and] at hkeeps
      have hsome := hkeeps (hplaces.mp hstack)
      rw [Bool.not_eq_true', Bool.not_eq_false, Table.contains] at hsome
      obtain ⟨owner, howner⟩ := Option.isSome_iff_exists.mp hsome
      rw [howner, Option.some_or]
    · rw [if_neg hstack, Option.or_none]

theorem apply_eq (t : ProgressTree) (e : StreamEvent) :
    t.apply e =
      (if t.ignores e then none else some (t.target e),
        { (t.routed e).adopt e (t.target e) with
          nodes := if t.ignores e then (t.routed e).nodes
            else (t.routed e).nodes.modify (t.target e) fun n => n.showing e.event }) := by
  have hstale : ((((t.route e).2).adopt e (t.route e).1).node? (t.route e).1).any
      (fun n => n.isStale e.event) = t.ignores e := by
    rw [ignores, node?, nodes_adopt]
    rfl
  rw [apply]
  dsimp only
  rw [hstale]
  cases t.ignores e with
  | true =>
    have hnodes := nodes_adopt (t.routed e) e (t.target e)
    simp only [if_true, ← hnodes]
    rfl
  | false =>
    have hnodes := nodes_adopt (t.routed e) e (t.target e)
    simp only [Bool.false_eq_true, if_false, ← hnodes]
    rfl

/-- After an event that is not about its stack, its resource has the node that it went to. -/
theorem resources_apply (t : ProgressTree) (e : StreamEvent) (key : String × String) :
    (t.apply e).2.resources.get? key =
      if isAboutStack e = false ∧ key = e.resource then some (t.target e)
      else t.resources.get? key := by
  have hrouted : (t.apply e).2.resources = (t.routed e).resources := by
    rw [apply_eq]
    exact resources_adopt _ _ _
  rw [hrouted]
  obtain ⟨hown, -, hsame⟩ | ⟨-, hget, hsame⟩ | ⟨hown, -, htarget, hadd⟩ := t.route_cases e
  · rw [hsame, if_neg (by simp [hown])]
  · rw [hsame]
    split
    next hkey => rw [hkey.2, hget]
    · rfl
  · rw [hadd, htarget, addResource, Table.get?_set]
    simp only [hown, true_and]
    rfl

/-- A stack that has an owner keeps it; another one gets the node of the event that places it. -/
theorem owners_apply (t : ProgressTree) (e : StreamEvent) (stack : String) :
    (t.apply e).2.owners.get? stack =
      (t.owners.get? stack).or (if e.Places stack then some (t.target e) else none) := by
  have howners : (t.routed e).owners = t.owners := by
    obtain ⟨-, -, hsame⟩ | ⟨-, -, hsame⟩ | ⟨-, -, -, hadd⟩ := t.route_cases e
    · rw [hsame]
    · rw [hsame]
    · rw [hadd, addResource]
  rw [apply_eq, ← howners]
  exact owners_adopt _ _ _ _

/-- A resource keeps its node. -/
theorem resources_apply_of_some (hget : t.resources.get? key = some idx) (e : StreamEvent) :
    (t.apply e).2.resources.get? key = some idx := by
  rw [resources_apply]
  split
  next hkey =>
    obtain ⟨hown, rfl⟩ := hkey
    obtain ⟨hother, -⟩ | ⟨-, hknown, -⟩ | ⟨-, hnew, -⟩ := t.route_cases e
    · exact absurd (hown.symm.trans hother) nofun
    · rw [← hknown, hget]
    · exact absurd (hget.symm.trans hnew) nofun
  · exact hget

theorem owners_apply_of_some (hget : t.owners.get? stack = some idx) (e : StreamEvent) :
    (t.apply e).2.owners.get? stack = some idx := by
  rw [owners_apply, hget, Option.some_or]

theorem length_nodes_apply (t : ProgressTree) (e : StreamEvent) :
    (t.apply e).2.nodes.length = (t.routed e).nodes.length := by
  rw [apply_eq]
  dsimp only
  split
  · rfl
  · rw [List.length_modify]

theorem WellFormed.apply (h : t.WellFormed) (e : StreamEvent) : (t.apply e).2.WellFormed := by
  have hrouted := h.routed e
  have hresources : (t.apply e).2.resources = (t.routed e).resources := by
    rw [apply_eq]
    exact resources_adopt _ _ _
  refine ⟨?_, ?_, ?_, fun stack idx hget => ?_⟩
  · rw [hresources]
    exact hrouted.nodup_keys
  · rw [hresources]
    exact hrouted.indices_eq
  · rw [length_nodes_apply, hresources]
    exact hrouted.length_nodes
  · rw [length_nodes_apply]
    rw [owners_apply] at hget
    rcases Option.or_eq_some_iff.mp hget with hold | ⟨-, hnew⟩
    · exact Nat.lt_of_lt_of_le (h.owner_lt stack idx hold) (t.length_nodes_le_routed e)
    · split at hnew
      · obtain rfl := Option.some.inj hnew
        exact h.target_lt e
      · cases hnew

/-! ### The nodes after an event -/

theorem node?_addResource (t : ProgressTree) (stack logicalId : String)
    (hidx : idx < t.nodes.length) :
    (t.addResource stack logicalId).node? idx =
      (t.node? idx).map fun n => if t.owner stack = idx then
        { n with children := n.children ++ [t.nodes.length] } else n := by
  rw [addResource, node?, node?, List.getElem?_append_left (by rwa [List.length_modify]),
    List.getElem?_modify]
  cases t.nodes[idx]? <;> rfl

theorem node?_addResource_length (t : ProgressTree) (stack logicalId : String) :
    (t.addResource stack logicalId).node? t.nodes.length = some (.unseen logicalId) := by
  rw [addResource, node?, List.getElem?_append_right (by rw [List.length_modify]),
    List.length_modify, Nat.sub_self]
  rfl

/-- A node reports the same when another one is added. -/
theorem report_routed (t : ProgressTree) (e : StreamEvent) (hidx : idx < t.nodes.length) :
    ((t.routed e).node? idx).map TreeNode.report = (t.node? idx).map TreeNode.report := by
  obtain ⟨-, -, hsame⟩ | ⟨-, -, hsame⟩ | ⟨-, -, -, hadd⟩ := t.route_cases e
  · rw [hsame]
  · rw [hsame]
  · rw [hadd, node?_addResource _ _ _ hidx, Option.map_map]
    refine congrArg (Option.map · _) (funext fun n => ?_)
    dsimp only [Function.comp]
    split <;> rfl

theorem node?_apply (t : ProgressTree) (e : StreamEvent) (idx : Nat) :
    (t.apply e).2.node? idx =
      if t.ignores e = false ∧ idx = t.target e then
        ((t.routed e).node? idx).map fun n => n.showing e.event
      else (t.routed e).node? idx := by
  rw [apply_eq, node?]
  cases t.ignores e with
  | true => rfl
  | false =>
    simp only [Bool.false_eq_true, if_false, true_and]
    rw [List.getElem?_modify]
    by_cases hidx : idx = t.target e
    · rw [if_pos hidx, hidx, node?]
      cases (t.routed e).nodes[t.target e]? <;> simp
    · rw [if_neg hidx, node?]
      cases (t.routed e).nodes[idx]? <;> simp [Ne.symm hidx]

/-- An event changes the report of no node but the one it goes to. -/
theorem report_apply_of_ne (t : ProgressTree) (e : StreamEvent) (hidx : idx < t.nodes.length)
    (hne : idx ≠ t.target e) :
    ((t.apply e).2.node? idx).map TreeNode.report = (t.node? idx).map TreeNode.report := by
  rw [node?_apply, if_neg (fun h => hne h.2), report_routed t e hidx]

/-- The node that an event goes to shows it, unless it shows a newer one. -/
theorem WellFormed.node?_apply_target (h : t.WellFormed) (e : StreamEvent) :
    ∃ n, (t.routed e).node? (t.target e) = some n ∧ t.ignores e = n.isStale e.event ∧
      (t.apply e).2.node? (t.target e) =
        some (if n.isStale e.event then n else n.showing e.event) := by
  obtain ⟨n, hnode⟩ : ∃ n, (t.routed e).node? (t.target e) = some n :=
    ⟨_, List.getElem?_eq_getElem (h.target_lt e)⟩
  have hignores : t.ignores e = n.isStale e.event := by
    rw [ignores, hnode, Option.any_some]
  refine ⟨n, hnode, hignores, ?_⟩
  rw [node?_apply, hnode, hignores]
  cases n.isStale e.event <;> simp

/-! ### Children -/

/-- The node at the first index has the second one among its children. -/
def HasChild (t : ProgressTree) (idx child : Nat) : Prop :=
  ∃ n, t.node? idx = some n ∧ child ∈ n.children

theorem HasChild.addResource {child : Nat} (h : t.HasChild idx child) (stack logicalId : String) :
    (t.addResource stack logicalId).HasChild idx child := by
  obtain ⟨n, hnode, hchild⟩ := h
  have hidx : idx < t.nodes.length := (List.getElem?_eq_some_iff.mp hnode).1
  refine ⟨_, by rw [node?_addResource _ _ _ hidx, hnode, Option.map_some], ?_⟩
  split
  · exact List.mem_append_left _ hchild
  · exact hchild

/-- Showing an event does not change the children of a node. -/
theorem hasChild_apply_of_routed {child : Nat} (h : (t.routed e).HasChild idx child) :
    (t.apply e).2.HasChild idx child := by
  obtain ⟨n, hnode, hchild⟩ := h
  rw [HasChild, node?_apply, hnode]
  split
  · exact ⟨_, rfl, hchild⟩
  · exact ⟨_, rfl, hchild⟩

/-- A child stays a child. -/
theorem HasChild.apply {child : Nat} (h : t.HasChild idx child) (e : StreamEvent) :
    (t.apply e).2.HasChild idx child := by
  refine hasChild_apply_of_routed ?_
  obtain ⟨-, -, hsame⟩ | ⟨-, -, hsame⟩ | ⟨-, -, -, hadd⟩ := t.route_cases e
  · rwa [hsame]
  · rwa [hsame]
  · rw [hadd]
    exact h.addResource _ _

/-- The node of a resource that was not known is a child of the node of its stack. -/
theorem WellFormed.hasChild_of_new (h : t.WellFormed) (hown : isAboutStack e = false)
    (hnew : t.resources.get? e.resource = none) :
    (t.apply e).2.HasChild (t.owner e.stack) (t.target e) := by
  obtain ⟨hother, -⟩ | ⟨-, hget, -⟩ | ⟨-, -, htarget, hadd⟩ := t.route_cases e
  · exact absurd (hown.symm.trans hother) nofun
  · exact absurd (hget.symm.trans hnew) nofun
  · refine hasChild_apply_of_routed ?_
    have hlt := h.owner_lt_length e.stack
    rw [hadd, htarget, HasChild, node?_addResource _ _ _ hlt, node?, List.getElem?_eq_getElem hlt]
    exact ⟨_, rfl, by simp⟩

/-! ### Sequences of events -/

theorem applyAll_append (t : ProgressTree) (first second : List StreamEvent) :
    t.applyAll (first ++ second) = (t.applyAll first).applyAll second :=
  List.foldl_append

theorem applyAll_append_singleton (t : ProgressTree) (events : List StreamEvent)
    (e : StreamEvent) : t.applyAll (events ++ [e]) = ((t.applyAll events).apply e).2 :=
  t.applyAll_append events [e]

theorem WellFormed.applyAll (h : t.WellFormed) (events : List StreamEvent) :
    (t.applyAll events).WellFormed := by
  induction events using List.reverseRecOn with
  | nil => exact h
  | append_singleton events e ih =>
    rw [applyAll_append_singleton]
    exact ih.apply e

theorem resources_applyAll_of_some (hget : t.resources.get? key = some idx)
    (events : List StreamEvent) : (t.applyAll events).resources.get? key = some idx := by
  induction events using List.reverseRecOn with
  | nil => exact hget
  | append_singleton events e ih =>
    rw [applyAll_append_singleton]
    exact resources_apply_of_some ih e

/-- Every event that is not about its stack leaves a node for its resource. -/
theorem isSome_resources_applyAll {events : List StreamEvent} (he : e ∈ events)
    (hown : isAboutStack e = false) : ((t.applyAll events).resources.get? e.resource).isSome := by
  obtain ⟨before, after, rfl⟩ := List.append_of_mem he
  rw [applyAll_append]
  have hget : ((t.applyAll before).apply e).2.resources.get? e.resource =
      some ((t.applyAll before).target e) := by
    rw [resources_apply, if_pos ⟨hown, rfl⟩]
  exact Option.isSome_of_eq_some (resources_applyAll_of_some hget after)

/-- **The owner of a stack** is the node of the resource that the first event placing the stack is
about; that of the root stack is the root. -/
theorem owners_applyAll (root : String) (events : List StreamEvent) (stack : String) :
    ((start root).applyAll events).owners.get? stack =
      if stack = root then some 0
      else (events.find? fun e => decide (e.Places stack)).bind fun e =>
        ((start root).applyAll events).resources.get? e.resource := by
  induction events using List.reverseRecOn with
  | nil =>
    have hstart : (start root).owners = [(root, 0)] := rfl
    rw [applyAll, List.foldl_nil, hstart, Table.get?, Table.get?_nil, List.find?_nil,
      Option.bind_none]
    exact if_congr eq_comm rfl rfl
  | append_singleton events e ih =>
    rw [applyAll_append_singleton, owners_apply, ih]
    split
    · rw [Option.some_or]
    · rw [List.find?_append]
      cases hfind : events.find? fun e => decide (e.Places stack) with
      | some first =>
        have hmem := List.mem_of_find?_eq_some hfind
        have hplaces : first.Places stack := by simpa using List.find?_some hfind
        obtain ⟨idx, hget⟩ := Option.isSome_iff_exists.mp
          (isSome_resources_applyAll (t := start root) hmem hplaces.2.2.2)
        rw [Option.some_or, Option.bind_some, Option.bind_some, hget, Option.some_or]
        exact (resources_apply_of_some hget e).symm
      | none =>
        rw [Option.none_or, Option.bind_none, Option.none_or]
        by_cases hplaces : e.Places stack
        · rw [if_pos hplaces, List.find?_cons_of_pos (by simpa using hplaces), Option.bind_some,
            resources_apply, if_pos ⟨hplaces.2.2.2, rfl⟩]
        · rw [if_neg hplaces, List.find?_cons_of_neg (by simpa using hplaces), List.find?_nil,
            Option.bind_none]

end ProgressTree

end StackDeploy
