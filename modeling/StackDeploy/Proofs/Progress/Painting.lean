import StackDeploy.Progress.Painter
import StackDeploy.Proofs.Progress.Arena
import StackDeploy.Proofs.Task

/-!
# Paintings

What is to be seen when batches are applied to a display and drawn one after the other, as a
function of the batches and of the answers to the lookups of rollouts.

* `Painter.Goes` — what a painter does with a batch, step by step.
* `Painting.paint?` — the painting of one batch, `Painting.paintAll?` — that of a list of batches.
* `Painting.paintAll?_hearing` — answers that come later do not change what has been painted.
* `Painting.plain_of_paintAll?` — apart from its lines of diagnosis, the tree is the one to which
  all events have been applied.
* `Painting.getLast?_drawings` — the last drawing is one of that tree.
-/

namespace StackDeploy

/-! ### Trees without diagnosis -/

/-- The node without its line of diagnosis. -/
def TreeNode.plain (n : TreeNode) : TreeNode := { n with detail := none }

theorem map_modify {α : Type} {f g : α → α} (hcomm : ∀ a, g (f a) = f (g a)) (l : List α)
    (i : Nat) : (l.modify i f).map g = (l.map g).modify i f := by
  refine List.ext_getElem? fun j => ?_
  rw [List.getElem?_map, List.getElem?_modify, List.getElem?_modify, List.getElem?_map]
  cases l[j]? with
  | none => rfl
  | some a =>
    by_cases hij : i = j
    · simp [hij, hcomm]
    · simp [hij]

namespace ProgressTree

/-- The tree without its lines of diagnosis. -/
def plain (t : ProgressTree) : ProgressTree := { t with nodes := t.nodes.map TreeNode.plain }

/-- A line of diagnosis does not show. -/
@[simp] theorem plain_setDetail (t : ProgressTree) (idx : Nat) (detail : String) :
    (t.setDetail idx detail).plain = t.plain := by
  have hnodes : (t.nodes.modify idx fun n => { n with detail := some detail }).map TreeNode.plain =
      t.nodes.map TreeNode.plain := by
    -- `map_modify` does not apply: the line is set on one side only
    refine List.ext_getElem? fun j => ?_
    rw [List.getElem?_map, List.getElem?_modify, List.getElem?_map]
    cases t.nodes[j]? with
    | none => rfl
    | some n =>
      by_cases hij : idx = j
      · simp [hij, TreeNode.plain]
      · simp [hij]
  simp only [plain, setDetail, hnodes]

theorem plain_addResource (t : ProgressTree) (stack logicalId : String) :
    (t.addResource stack logicalId).plain = t.plain.addResource stack logicalId := by
  have hnodes := map_modify
    (f := fun n => { n with children := n.children ++ [t.nodes.length] }) (g := TreeNode.plain)
    (fun _ => rfl) t.nodes (t.owner stack)
  simp only [plain, addResource, owner, List.map_append, List.length_map] at hnodes ⊢
  rw [hnodes]
  rfl

theorem plain_route (t : ProgressTree) (e : StreamEvent) :
    t.plain.route e = ((t.route e).1, (t.route e).2.plain) := by
  rw [route, route]
  split
  · rfl
  · have hresources : t.plain.resources = t.resources := rfl
    rw [hresources]
    cases t.resources.get? (e.stack, e.event.logicalId) with
    | some idx => rfl
    | none =>
      rw [← plain_addResource]
      simp [plain]

theorem plain_adopt (t : ProgressTree) (e : StreamEvent) (idx : Nat) :
    t.plain.adopt e idx = (t.adopt e idx).plain := by
  rw [adopt, adopt]
  have howners : t.plain.owners = t.owners := rfl
  rw [howners]
  split <;> rfl

/-- Whether an event is stale does not depend on lines of diagnosis, and it is shown in the same
way. -/
theorem plain_apply (t : ProgressTree) (e : StreamEvent) :
    t.plain.apply e = ((t.apply e).1, (t.apply e).2.plain) := by
  rw [apply, apply, plain_route]
  dsimp only
  rw [plain_adopt]
  generalize (t.route e).2.adopt e (t.route e).1 = u
  generalize (t.route e).1 = idx
  -- only the timestamp of the node decides
  have hstale : ((u.plain.node? idx).any fun n => n.isStale e.event) =
      (u.node? idx).any fun n => n.isStale e.event := by
    rw [node?, node?, plain, List.getElem?_map]
    cases u.nodes[idx]? <;> rfl
  rw [hstale]
  split
  · rfl
  · have hnodes := map_modify (f := fun n => n.showing e.event) (g := TreeNode.plain)
      (fun _ => rfl) u.nodes idx
    simp only [plain, hnodes]

end ProgressTree

/-! ### Displays -/

namespace Display

variable {d d' : Display} {e : StreamEvent} {lookup? : Option Lookup}

/-- An event is applied to the tree; apart from that it may be noted that a node was considered. -/
theorem exists_eq_of_notify (h : d.notify e = (d', lookup?)) :
    ∃ enriched, d' = { d with tree := (d.tree.apply e).2, enriched } := by
  rw [notify] at h
  split at h
  next htree =>
    obtain ⟨rfl, -⟩ := Prod.mk.inj h
    exact ⟨d.enriched, by rw [htree]⟩
  next htree =>
    rw [htree]
    split at h
    · rw [consider] at h
      split at h
      · obtain ⟨rfl, -⟩ := Prod.mk.inj h
        exact ⟨d.enriched, rfl⟩
      · obtain ⟨rfl, -⟩ := Prod.mk.inj h
        exact ⟨_, rfl⟩
    · obtain ⟨rfl, -⟩ := Prod.mk.inj h
      exact ⟨d.enriched, rfl⟩

theorem notify_spec (h : d.notify e = (d', lookup?)) :
    d'.tree = (d.tree.apply e).2 ∧ d'.options = d.options := by
  obtain ⟨enriched, rfl⟩ := exists_eq_of_notify h
  exact ⟨rfl, rfl⟩

theorem plain_answered {ε : Type} (d : Display) (lookup : Lookup) (answer : Except ε Rollout) :
    (d.answered lookup answer).tree.plain = d.tree.plain := by
  cases answer with
  | ok rollout => exact d.tree.plain_setDetail _ _
  | error e => rfl

@[simp] theorem options_answered {ε : Type} (d : Display) (lookup : Lookup)
    (answer : Except ε Rollout) : (d.answered lookup answer).options = d.options := by
  cases answer <;> rfl

end Display

/-! ### Painters -/

namespace Painter

/-- A painter that has a batch **goes on** in one of these ways. -/
inductive Goes (p : Painter) : List Action → Painter → Prop
  | apply {e : StreamEvent} {rest : Batch} {display : Display}
      (hphase : p.phase = .applying (e :: rest)) (hnotify : p.display.notify e = (display, none)) :
      Goes p [] ⟨display, .applying rest⟩
  | ask {e : StreamEvent} {rest : Batch} {display : Display} {lookup : Display.Lookup}
      (hphase : p.phase = .applying (e :: rest))
      (hnotify : p.display.notify e = (display, some lookup)) :
      Goes p [] ⟨display, .asking lookup rest⟩
  | answered {lookup : Display.Lookup} {rest : Batch} (hphase : p.phase = .asking lookup rest)
      (reply : Except ApiError Rollout) :
      Goes p [.call (.resolveRollout lookup.ref) reply]
        ⟨p.display.answered lookup reply, .applying rest⟩
  | applied (hphase : p.phase = .applying []) : Goes p [] ⟨p.display, .drawing⟩
  | drawn (hphase : p.phase = .drawing) :
      Goes p [.write p.display.frame (.ok ())] ⟨p.display.redrawn, .receiving⟩
  | failed (hphase : p.phase = .drawing) (message : String) :
      Goes p [.write p.display.frame (.error message)] ⟨p.display, .over (.error message)⟩

/-- There are no other ways; a painter without a batch waits for one. -/
theorem goes_of_leads {clock : Clock} {p q : Painter} {actions : List Action}
    (leads : (p.batchStep clock).Leads clock actions q) : p.Goes actions q := by
  rw [batchStep, step] at leads
  cases hphase : p.phase with
  | receiving | «over» =>
    simp only [hphase] at leads
    cases leads
  | applying rest =>
    cases rest with
    | nil =>
      simp only [hphase] at leads
      cases leads
      exact .applied hphase
    | cons e rest =>
      simp only [hphase] at leads
      rcases hnotify : p.display.notify e with ⟨display, _ | lookup⟩
      · simp only [hnotify] at leads
        cases leads
        exact .apply hphase hnotify
      · simp only [hnotify] at leads
        cases leads
        exact .ask hphase hnotify
  | asking lookup rest =>
    simp only [hphase] at leads
    cases leads with
    | call _ _ reply => exact .answered hphase reply
  | drawing =>
    simp only [hphase] at leads
    cases leads with
    | write _ _ written =>
      cases written with
      | ok => exact .drawn hphase
      | error message => exact .failed hphase message

theorem phase_of_step_eq_receive {p : Painter} (h : p.step = .receive) : p.phase = .receiving := by
  rw [step] at h
  cases hphase : p.phase with
  | receiving => rfl
  | applying rest =>
    simp only [hphase] at h
    cases rest with
    | nil => cases h
    | cons e rest =>
      dsimp only at h
      split at h <;> cases h
  | asking | drawing | «over» =>
    simp only [hphase] at h
    cases h

end Painter

/-! ### Paintings -/

/-- A **painting** in the making: the display, the answers to lookups that have not been used up,
and the drawings made so far. -/
structure Painting where
  display : Display
  answers : List (Except ApiError Rollout)
  drawings : List String

namespace Painting

/-- Applies an event. A lookup uses up an answer; there is no painting when none is left. -/
def see? (w : Painting) (e : StreamEvent) : Option Painting :=
  match w.display.notify e, w.answers with
  | (display, none), _ => some { w with display }
  | (display, some lookup), answer :: answers =>
    some { w with display := display.answered lookup answer, answers }
  | (_, some _), [] => none

/-- Applies events one after the other. -/
def seeAll? (w : Painting) (events : Batch) : Option Painting :=
  events.foldlM see? w

/-- Adds a drawing of the tree. -/
def draw (w : Painting) : Painting :=
  { w with display := w.display.redrawn, drawings := w.drawings ++ [w.display.frame] }

/-- **Paints** a batch: all its events are applied, and then the tree is drawn. -/
def paint? (w : Painting) (batch : Batch) : Option Painting :=
  (w.seeAll? batch).map draw

/-- **Paints** batches one after the other. -/
def paintAll? (w : Painting) (batches : List Batch) : Option Painting :=
  batches.foldlM paint? w

/-- The painting with further answers to come. -/
def hearing (w : Painting) (more : List (Except ApiError Rollout)) : Painting :=
  { w with answers := w.answers ++ more }

@[simp] theorem hearing_nil (w : Painting) : w.hearing [] = w := by
  rw [hearing, List.append_nil]

variable {w v u : Painting} {e : StreamEvent} {lookup : Display.Lookup} {display : Display}

theorem see?_of_plain (h : w.display.notify e = (display, none)) :
    w.see? e = some { w with display } := by
  rw [see?, h]

theorem see?_of_lookup {answer : Except ApiError Rollout} {answers : List (Except ApiError Rollout)}
    (h : w.display.notify e = (display, some lookup)) (hanswers : w.answers = answer :: answers) :
    w.see? e = some { w with display := display.answered lookup answer, answers } := by
  rw [see?, h, hanswers]

/-- There are two ways to see an event. -/
theorem see?_cases (h : w.see? e = some v) :
    (∃ display, w.display.notify e = (display, none) ∧ v = { w with display }) ∨
      ∃ display lookup answer answers, w.display.notify e = (display, some lookup) ∧
        w.answers = answer :: answers ∧
        v = { w with display := display.answered lookup answer, answers } := by
  rw [see?] at h
  rcases hnotify : w.display.notify e with ⟨display, _ | lookup⟩
  · rw [hnotify] at h
    obtain rfl := Option.some.inj h
    exact .inl ⟨display, rfl, rfl⟩
  · rw [hnotify] at h
    cases hanswers : w.answers with
    | nil =>
      rw [hanswers] at h
      cases h
    | cons answer answers =>
      rw [hanswers] at h
      obtain rfl := Option.some.inj h
      exact .inr ⟨display, lookup, answer, answers, rfl, rfl, rfl⟩

theorem seeAll?_cons (w : Painting) (e : StreamEvent) (rest : Batch) :
    w.seeAll? (e :: rest) = (w.see? e).bind (·.seeAll? rest) := rfl

theorem seeAll?_concat {events : Batch} (h : w.seeAll? events = some v) (hsee : v.see? e = some u) :
    w.seeAll? (events ++ [e]) = some u := by
  rw [seeAll?] at h ⊢
  rw [List.foldlM_append, h]
  simp [hsee]

theorem paintAll?_cons (w : Painting) (batch : Batch) (rest : List Batch) :
    w.paintAll? (batch :: rest) = (w.paint? batch).bind (·.paintAll? rest) := rfl

theorem paintAll?_concat {batches : List Batch} {batch : Batch} (h : w.paintAll? batches = some v)
    (hsee : v.seeAll? batch = some u) : w.paintAll? (batches ++ [batch]) = some u.draw := by
  rw [paintAll?] at h ⊢
  rw [List.foldlM_append, h]
  simp [paint?, hsee]

/-! ### Later answers -/

theorem see?_hearing (h : w.see? e = some v) (more : List (Except ApiError Rollout)) :
    (w.hearing more).see? e = some (v.hearing more) := by
  rcases see?_cases h with ⟨display, hnotify, rfl⟩ |
    ⟨display, lookup, answer, answers, hnotify, hanswers, rfl⟩
  · exact see?_of_plain (w := w.hearing more) hnotify
  · exact see?_of_lookup (w := w.hearing more) hnotify (by rw [hearing, hanswers]; rfl)

theorem seeAll?_hearing {events : Batch} (h : w.seeAll? events = some v)
    (more : List (Except ApiError Rollout)) :
    (w.hearing more).seeAll? events = some (v.hearing more) := by
  induction events generalizing w with
  | nil =>
    obtain rfl := Option.some.inj h
    rfl
  | cons e rest ih =>
    rw [seeAll?_cons] at h ⊢
    obtain ⟨u, hsee, hrest⟩ := Option.bind_eq_some_iff.mp h
    rw [see?_hearing hsee, Option.bind_some]
    exact ih hrest

/-- Answers that come later do not change what has been painted. -/
theorem paintAll?_hearing {batches : List Batch} (h : w.paintAll? batches = some v)
    (more : List (Except ApiError Rollout)) :
    (w.hearing more).paintAll? batches = some (v.hearing more) := by
  induction batches generalizing w with
  | nil =>
    obtain rfl := Option.some.inj h
    rfl
  | cons batch rest ih =>
    rw [paintAll?_cons] at h ⊢
    obtain ⟨u, hpaint, hrest⟩ := Option.bind_eq_some_iff.mp h
    obtain ⟨s, hsee, rfl⟩ := Option.map_eq_some_iff.mp hpaint
    have hpaint' : (w.hearing more).paint? batch = some (s.draw.hearing more) := by
      rw [paint?, seeAll?_hearing hsee more]
      rfl
    rw [hpaint', Option.bind_some]
    exact ih hrest

/-! ### The tree and its drawing -/

/-- How the display of a painting has come from that of another one: these events were applied to
its tree. -/
structure Follows (w : Painting) (events : Batch) (v : Painting) : Prop where
  tree : v.display.tree.plain = w.display.tree.plain.applyAll events
  options : v.display.options = w.display.options

theorem Follows.trans {first second : Batch} (h : w.Follows first v) (h' : v.Follows second u) :
    w.Follows (first ++ second) u where
  tree := by rw [ProgressTree.applyAll_append, ← h.tree, h'.tree]
  options := h'.options.trans h.options

theorem follows_of_see? (h : w.see? e = some v) : w.Follows [e] v := by
  have hplain : (w.display.tree.apply e).2.plain = w.display.tree.plain.applyAll [e] :=
    (congrArg Prod.snd (w.display.tree.plain_apply e)).symm
  rcases see?_cases h with ⟨display, hnotify, rfl⟩ |
    ⟨display, lookup, answer, answers, hnotify, hanswers, rfl⟩
  · obtain ⟨htree, hoptions⟩ := Display.notify_spec hnotify
    exact ⟨by rw [htree, hplain], hoptions⟩
  · obtain ⟨htree, hoptions⟩ := Display.notify_spec hnotify
    exact ⟨by rw [Display.plain_answered, htree, hplain],
      by rw [Display.options_answered, hoptions]⟩

theorem follows_of_seeAll? {events : Batch} (h : w.seeAll? events = some v) :
    w.Follows events v := by
  induction events generalizing w with
  | nil =>
    obtain rfl := Option.some.inj h
    exact ⟨rfl, rfl⟩
  | cons e rest ih =>
    rw [seeAll?_cons] at h
    obtain ⟨u, hsee, hrest⟩ := Option.bind_eq_some_iff.mp h
    exact (follows_of_see? hsee).trans (ih hrest)

theorem follows_of_paintAll? {batches : List Batch} (h : w.paintAll? batches = some v) :
    w.Follows batches.flatten v := by
  induction batches generalizing w with
  | nil =>
    obtain rfl := Option.some.inj h
    exact ⟨rfl, rfl⟩
  | cons batch rest ih =>
    rw [paintAll?_cons] at h
    obtain ⟨u, hpaint, hrest⟩ := Option.bind_eq_some_iff.mp h
    obtain ⟨s, hsee, rfl⟩ := Option.map_eq_some_iff.mp hpaint
    have hseen := follows_of_seeAll? hsee
    have hdrawn : w.Follows batch s.draw := ⟨hseen.tree, hseen.options⟩
    exact hdrawn.trans (ih hrest)

/-- **The last drawing** is one of the tree as it is after all batches, and follows the erasure of
the drawing before it. -/
theorem getLast?_drawings {batches : List Batch} (h : w.paintAll? batches = some v)
    (hne : batches ≠ []) :
    ∃ before : Display, v.drawings.getLast? =
        some (before.erasure ++ ProgressTree.unlines v.display.lines) ∧
      before.options = w.display.options := by
  -- the last batch is drawn last, and drawing it leaves the tree as it is
  obtain ⟨batches, batch, rfl⟩ := (List.eq_nil_or_concat batches).resolve_left hne
  rw [List.concat_eq_append, paintAll?, List.foldlM_append] at h
  obtain ⟨u, hfirst, hlast⟩ := Option.bind_eq_some_iff.mp h
  have hpaint : u.paint? batch = some v := by simpa using hlast
  obtain ⟨s, hsee, rfl⟩ := Option.map_eq_some_iff.mp hpaint
  have hoptions := (follows_of_seeAll? hsee).options.trans (follows_of_paintAll? hfirst).options
  exact ⟨s.display, by rw [draw, List.getLast?_concat]; rfl, hoptions⟩

end Painting

end StackDeploy
