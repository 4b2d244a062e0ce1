import StackDeploy.Proofs.Progress.Newest

/-!
# Where the status of a stack comes from

The node that owns a stack shows the status of the stack, and the events of the other resources have
nodes of their own. An event is taken to be about its stack by its identifiers alone, so this is so
as long as no resource is named like the stack it is in.

* `ProgressTree.KeepsToItsNode` — an event changes the node of its resource and not that of its
  stack.
* `resources_keep_to_their_nodes` — what a stack shows has been told by an event about a stack.
* `namesake_poses_as_stack` — a resource whose identifier is the name of its stack changes the
  status of the stack.
-/

namespace StackDeploy

namespace ProgressTree

variable {root : String} {events : List StreamEvent} {e : StreamEvent} {t : ProgressTree}

/-- The event **keeps to its node**: the node that it goes to is that of its resource, which shows
it unless it is ignored; its stack keeps its owner, which is another node and reports the same. -/
structure KeepsToItsNode (t : ProgressTree) (e : StreamEvent) : Prop where
  resource_eq : (t.apply e).2.resources.get? e.resource = some (t.target e)
  shows : (t.apply e).1 = none ∨ (t.apply e).1 = some (t.target e) ∧
    ((t.apply e).2.node? (t.target e)).map TreeNode.report =
      some (e.event.status, e.event.reason, some e.event.timestamp)
  owner_ne : t.owner e.stack ≠ t.target e
  owner_eq : (t.apply e).2.owner e.stack = t.owner e.stack
  report_eq : ((t.apply e).2.node? (t.owner e.stack)).map TreeNode.report =
    (t.node? (t.owner e.stack)).map TreeNode.report

/-- The resource of a stack is not a resource in that stack. -/
theorem owner_ne_of_resource {stack logicalId : String} {idx : Nat}
    (hget : ((start root).applyAll events).resources.get? (stack, logicalId) = some idx) :
    ((start root).applyAll events).owner stack ≠ idx := by
  have hwf := (wellFormed_start root).applyAll events
  have hpos := (hwf.resource_bounds hget).1
  rw [owner]
  intro hsame
  have howner := owners_applyAll root events stack
  split at howner
  · rw [howner, Option.getD_some] at hsame
    omega
  · cases hfirst : events.find? fun e => decide (e.Places stack) with
    | none =>
      rw [howner, hfirst, Option.bind_none, Option.getD_none] at hsame
      omega
    | some q =>
      -- the event that places the stack comes from another one
      have hq : q.Places stack := by simpa using List.find?_some hfirst
      obtain ⟨-, hphysical, -, habout⟩ := hq
      obtain ⟨other, hother⟩ := Option.isSome_iff_exists.mp
        (isSome_resources_applyAll (t := start root) (List.mem_of_find?_eq_some hfirst) habout)
      rw [howner, hfirst, Option.bind_some, hother, Option.getD_some] at hsame
      rw [hsame] at hother
      obtain ⟨hstack, -⟩ := Prod.mk.inj (hwf.resource_inj hother hget)
      have hstack : q.stack = stack := hstack
      simp [isAboutStack, hphysical, hstack] at habout

/-- An event that is not about its stack keeps to its node. -/
theorem keepsToItsNode (root : String) (events : List StreamEvent)
    (hother : isAboutStack e = false) : ((start root).applyAll events).KeepsToItsNode e := by
  have hwf := (wellFormed_start root).applyAll events
  have hresource : (((start root).applyAll events).apply e).2.resources.get? e.resource =
      some (((start root).applyAll events).target e) := by
    rw [resources_apply, if_pos ⟨hother, rfl⟩]
  have howners : (((start root).applyAll events).apply e).2.owner e.stack =
      ((start root).applyAll events).owner e.stack := by
    have hnot : ¬ e.Places e.stack := by
      rintro ⟨-, hphysical, -⟩
      simp [isAboutStack, hphysical] at hother
    rw [owner, owner, owners_apply, if_neg hnot, Option.or_none]
  have hne : ((start root).applyAll events).owner e.stack ≠
      ((start root).applyAll events).target e := by
    rw [← howners, ← applyAll_append_singleton]
    rw [← applyAll_append_singleton] at hresource
    exact owner_ne_of_resource hresource
  refine
    { resource_eq := hresource
      shows := ?_
      owner_ne := hne
      owner_eq := howners
      report_eq := report_apply_of_ne _ e (hwf.owner_lt_length e.stack) hne }
  obtain ⟨n, -, hignores, hafter⟩ := hwf.node?_apply_target e
  rw [hafter, ← hignores, apply_eq]
  cases ((start root).applyAll events).ignores e with
  | true => exact .inl rfl
  | false => exact .inr ⟨rfl, rfl⟩

/-- An event that goes to a node is applied at some time, and goes there then. -/
theorem exists_target_of_mem_routedTo {idx : Nat} (he : e ∈ t.routedTo events idx) :
    ∃ before after, events = before ++ e :: after ∧ (t.applyAll before).target e = idx := by
  induction events using List.reverseRecOn with
  | nil => cases he
  | append_singleton events last ih =>
    rw [routedTo_append_singleton] at he
    rcases List.mem_append.mp he with he | he
    · obtain ⟨before, after, rfl, htarget⟩ := ih he
      exact ⟨before, after ++ [last], by simp, htarget⟩
    · split at he
      next htarget =>
        obtain rfl := List.mem_singleton.mp he
        exact ⟨events, [], rfl, htarget⟩
      · cases he

/-- What the owner of a stack has been told of is about a stack, or about the resource that the
stack is placed by. -/
theorem about_of_mem_routedTo {stack : String} {idx : Nat}
    (howner : ((start root).applyAll events).owners.get? stack = some idx)
    (he : e ∈ (start root).routedTo events idx) :
    isAboutStack e = true ∨ ∃ q ∈ events, q.Places stack ∧ q.resource = e.resource := by
  have hwf := (wellFormed_start root).applyAll events
  cases habout : isAboutStack e with
  | true => exact .inl rfl
  | false =>
    obtain ⟨before, after, rfl, rfl⟩ := exists_target_of_mem_routedTo he
    have hnow := (keepsToItsNode root before habout).resource_eq
    have hget := resources_applyAll_of_some hnow after
    rw [← applyAll_append_singleton, ← applyAll_append, ← List.append_cons] at hget
    have hpos := (hwf.resource_bounds hget).1
    rw [owners_applyAll] at howner
    split at howner
    · -- the root stands for no resource
      rw [← Option.some.inj howner] at hpos
      exact absurd hpos (Nat.lt_irrefl 0)
    · obtain ⟨q, hq, hresource⟩ := Option.bind_eq_some_iff.mp howner
      have hplaces : q.Places stack := by simpa using List.find?_some hq
      exact .inr ⟨q, List.mem_of_find?_eq_some hq, hplaces, hwf.resource_inj hresource hget⟩

end ProgressTree

open ProgressTree

/-- **Resources keep to their nodes**, as long as none has an identifier that is the key of its
stack: an event of a resource changes the node of that resource and leaves the owner of its stack
alone. What a stack shows has been told by an event about a stack itself, or by one about the
resource that it was created for. -/
theorem resources_keep_to_their_nodes {root : String} {events : List StreamEvent}
    (happart : ∀ p ∈ events, p.event.kind ≠ .nestedStack →
      p.event.logicalId ≠ p.stack ∧ p.event.physicalId ≠ p.stack) :
    (∀ before e after, events = before ++ e :: after → e.event.kind ≠ .nestedStack →
      ((start root).applyAll before).KeepsToItsNode e) ∧
    ∀ stack idx n, ((start root).applyAll events).owners.get? stack = some idx →
      ((start root).applyAll events).node? idx = some n →
      n.report = ("", none, none) ∨
        ∃ e ∈ events, n.report = (e.event.status, e.event.reason, some e.event.timestamp) ∧
          (e.event.kind = .nestedStack ∧ isAboutStack e = true ∨
            ∃ q ∈ events, q.Places stack ∧ q.resource = e.resource) := by
  have hother : ∀ p ∈ events, p.event.kind ≠ .nestedStack → isAboutStack p = false := by
    intro p hp hkind
    obtain ⟨hlogical, hphysical⟩ := happart p hp hkind
    rw [isAboutStack, beq_eq_false_iff_ne.mpr hlogical, beq_eq_false_iff_ne.mpr hphysical]
    rfl
  constructor
  · intro before e after hevents hkind
    exact keepsToItsNode root before (hother e (by simp [hevents]) hkind)
  · intro stack idx n howner hnode
    refine (tells_applyAll hnode).imp (·.2) ?_
    rintro ⟨e, hnewest, hreport⟩
    have hrouted := hnewest.mem
    obtain ⟨before, after, hevents, -⟩ := exists_target_of_mem_routedTo hrouted
    have he : e ∈ events := by simp [hevents]
    have habout := about_of_mem_routedTo howner hrouted
    refine ⟨e, he, hreport, habout.imp_left fun habout => ⟨?_, habout⟩⟩
    by_contra hkind
    exact absurd (habout.symm.trans (hother e he hkind)) nofun

/-- A cluster whose identifier is the name of the stack that it is in. -/
def namesake : StreamEvent :=
  ⟨"app", { StackEvent.basic "e1" "Cluster" "AWS::ECS::Cluster" "CREATE_COMPLETE" .epoch with
    physicalId := "app" }⟩

/-- The same cluster with an identifier of its own. -/
def cluster : StreamEvent :=
  ⟨"app", { namesake.event with physicalId := "app-cluster" }⟩

/-- The cluster with an identifier of its own has a node of its own, and nothing is known of the
stack yet. -/
theorem cluster_keeps_to_its_node :
    (start "app").KeepsToItsNode cluster ∧
      (((start "app").applyAll [cluster]).node? 0).map TreeNode.report = some ("", none, none) := by
  have happart : ∀ p ∈ [cluster], p.event.kind ≠ .nestedStack →
      p.event.logicalId ≠ p.stack ∧ p.event.physicalId ≠ p.stack := by decide
  have hkeeps : (start "app").KeepsToItsNode cluster :=
    (resources_keep_to_their_nodes happart).1 [] cluster [] rfl (by decide)
  exact ⟨hkeeps, hkeeps.report_eq⟩

/-- **A namesake poses as its stack**: an event of the cluster whose identifier is the name of its
stack is shown by the root, and the cluster has no node. -/
theorem namesake_poses_as_stack :
    namesake.event.kind ≠ .nestedStack ∧
      ((start "app").apply namesake).1 = some 0 ∧
      (((start "app").apply namesake).2.node? 0).map TreeNode.report =
        some ("CREATE_COMPLETE", none, some .epoch) ∧
      ((start "app").apply namesake).2.resources.get? namesake.resource = none ∧
      ¬ (start "app").KeepsToItsNode namesake :=
  ⟨by decide, by decide, by decide, by decide, fun h => absurd h.resource_eq (by decide)⟩

end StackDeploy
