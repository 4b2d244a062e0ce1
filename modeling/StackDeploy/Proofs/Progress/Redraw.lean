import StackDeploy.Proofs.Deployment.Publication
import StackDeploy.Proofs.Progress.Painting
import StackDeploy.Proofs.Progress.Screen
import StackDeploy.Proofs.Text.Decimal

/-!
# Redraws on a terminal

In live mode every drawing of the tree is erased by the next one. The painter counts the lines of a
drawing, and the terminal moves up by rows; the two are the same as long as every line takes one
row, which it does when nothing that is drawn holds a control character.

* `ProgressTree.readsAs_lines` — the lines of a printable tree read as they do without colours.
* `Painter.Runs` — the runs of a painter that is given batches.
* `Display.OnScreen` — what a display has written, and what is to be seen of it.
* `redraw_erases_drawing` — each drawing starts by erasing the one before it, and the terminal shows
  the tree and nothing else.
* `second_line_is_left_over` — a reason of two lines takes two rows, and one of them is not erased.
-/

namespace StackDeploy

/-! ### Printable trees -/

/-- What is drawn of an event is **printable**. -/
structure StackEvent.Printable (e : StackEvent) : Prop where
  logicalId : StackDeploy.Printable e.logicalId
  status : StackDeploy.Printable e.status
  reason : ∀ reason, e.reason = some reason → StackDeploy.Printable reason

/-- What is drawn of a rollout is **printable**. -/
structure Rollout.Printable (r : Rollout) : Prop where
  state : StackDeploy.Printable r.state
  reason : ∀ reason, r.reason = some reason → StackDeploy.Printable reason

theorem printable_natText (n : Nat) : Printable (Text.natText n) := by
  refine printable_iff.mpr fun c hc => ?_
  rw [Text.natText, String.toList_ofList] at hc
  have hdigit := Text.isDigit_of_mem_natDigits hc
  rw [Text.isDigit, Bool.and_eq_true, decide_eq_true_eq, decide_eq_true_eq] at hdigit
  have hlow : 48 ≤ c.toNat := hdigit.1
  have hhigh : c.toNat ≤ 57 := hdigit.2
  rw [isPrintable, Bool.and_eq_true, Bool.not_eq_true', Bool.and_eq_false_iff,
    decide_eq_true_eq, decide_eq_false_iff_not, decide_eq_false_iff_not]
  omega

theorem Rollout.Printable.summary {r : Rollout} (h : r.Printable) :
    StackDeploy.Printable r.summary := by
  have hrunning : StackDeploy.Printable ("rollout " ++ r.state ++ " (" ++
      Text.natText r.runningCount.toNat) :=
    ((Printable.append (by decide) h.state).append (by decide)).append (printable_natText _)
  have hdesired : StackDeploy.Printable ("rollout " ++ r.state ++ " (" ++
      Text.natText r.runningCount.toNat ++ "/" ++ Text.natText r.desiredCount.toNat ++
      " running") :=
    ((hrunning.append (by decide)).append (printable_natText _)).append (by decide)
  have htasks : StackDeploy.Printable (if 0 < r.failedTasks then
      ", " ++ Text.natText r.failedTasks.toNat ++ " failed tasks" else "") := by
    split
    · exact (Printable.append (by decide) (printable_natText _)).append (by decide)
    · decide
  refine ((hdesired.append htasks).append (by decide)).append ?_
  cases hreason : r.reason with
  | none => exact (by decide)
  | some reason => exact Printable.append (by decide) (h.reason reason hreason)

/-- What is drawn of a node is **printable**. -/
structure TreeNode.Printable (n : TreeNode) : Prop where
  name : StackDeploy.Printable n.name
  status : StackDeploy.Printable n.status
  reason : ∀ reason, n.reason = some reason → StackDeploy.Printable reason
  detail : ∀ detail, n.detail = some detail → StackDeploy.Printable detail

theorem TreeNode.printable_unseen {name : String} (h : StackDeploy.Printable name) :
    (unseen name).Printable where
  name := h
  status := show StackDeploy.Printable "" by decide
  reason := fun _ hreason => nomatch hreason
  detail := fun _ hdetail => nomatch hdetail

theorem TreeNode.Printable.showing {n : TreeNode} {e : StackEvent} (h : n.Printable)
    (he : e.Printable) : (n.showing e).Printable where
  name := h.name
  status := he.status
  reason := he.reason
  detail := h.detail

namespace ProgressTree

/-- A tree is **printable** when it has a root and what is drawn of its nodes is. -/
structure Printable (t : ProgressTree) : Prop where
  nonempty : t.nodes ≠ []
  nodes : ∀ n ∈ t.nodes, n.Printable

variable {t : ProgressTree}

theorem printable_start {root : String} (h : StackDeploy.Printable root) :
    (start root).Printable where
  nonempty := List.cons_ne_nil _ _
  nodes := by
    intro n hn
    rw [List.mem_singleton.mp hn]
    exact TreeNode.printable_unseen h

/-- Changing one node leaves a tree printable if the changed node is. -/
theorem Printable.modify (h : t.Printable) {f : TreeNode → TreeNode} (idx : Nat)
    (hf : ∀ n : TreeNode, n.Printable → (f n).Printable) :
    Printable { t with nodes := t.nodes.modify idx f } where
  nonempty := by
    rw [Ne, List.modify_eq_nil_iff]
    exact h.nonempty
  nodes := by
    intro n hn
    obtain ⟨i, hi, rfl⟩ := List.mem_iff_getElem.mp hn
    rw [List.getElem_modify]
    split
    · exact hf _ (h.nodes _ (List.getElem_mem _))
    · exact h.nodes _ (List.getElem_mem _)

theorem Printable.setDetail (h : t.Printable) {detail : String}
    (hdetail : StackDeploy.Printable detail) (idx : Nat) : (t.setDetail idx detail).Printable :=
  h.modify idx fun _ hn => { hn with
    detail := fun _ hother => Option.some.inj hother ▸ hdetail }

/-- An event that is printable leaves the tree printable. -/
theorem Printable.apply (h : t.Printable) {e : StreamEvent} (he : e.event.Printable) :
    (t.apply e).2.Printable := by
  have hrouted : (t.routed e).Printable := by
    obtain ⟨-, -, hsame⟩ | ⟨-, -, hsame⟩ | ⟨-, -, -, hadd⟩ := t.route_cases e
    · rwa [hsame]
    · rwa [hsame]
    · have hparent := h.modify (t.owner e.stack)
        (f := fun n => { n with children := n.children ++ [t.nodes.length] })
        fun n hn => { hn with }
      rw [hadd, addResource]
      refine ⟨List.append_ne_nil_of_left_ne_nil hparent.nonempty _, fun n hn => ?_⟩
      rcases List.mem_append.mp hn with hn | hn
      · exact hparent.nodes n hn
      · rw [List.mem_singleton.mp hn]
        exact TreeNode.printable_unseen he.logicalId
  have hshown := hrouted.modify (t.target e) (f := fun n => n.showing e.event)
    fun n hn => hn.showing he
  rw [apply_eq]
  dsimp only
  split
  · exact ⟨hrouted.nonempty, hrouted.nodes⟩
  · exact ⟨hshown.nonempty, hshown.nodes⟩

/-! ### Their lines -/

theorem printable_indent (depth : Nat) : StackDeploy.Printable (indent depth) := by
  refine printable_iff.mpr fun c hc => ?_
  rw [indent, String.toList_ofList] at hc
  rw [List.eq_of_mem_replicate hc]
  decide

/-- The line of a printable node reads as it does without colours. -/
theorem readsAs_nodeLine {n : TreeNode} (h : n.Printable) (color : Bool) (depth : Nat) :
    ReadsAs (nodeLine color depth n) (nodeLine false depth n) := by
  have hname : ReadsAs (indent depth ++ n.name) (indent depth ++ n.name) :=
    (readsAs_of_printable (printable_indent depth)).append (readsAs_of_printable h.name)
  have hspace : ReadsAs " " " " := readsAs_of_printable (by decide)
  have hstatus : ReadsAs (if n.status = "" then "" else " " ++ paintStatus color n.status)
      (if n.status = "" then "" else " " ++ paintStatus false n.status) := by
    split
    · exact readsAs_of_printable (by decide)
    · exact hspace.append (readsAs_paintStatus color h.status)
  refine (hname.append hstatus).append (readsAs_of_printable ?_)
  cases hreason : n.reason with
  | none => exact (by decide)
  | some reason =>
    exact (Printable.append (by decide) (h.reason reason hreason)).append (by decide)

theorem readsAs_nodeLines {n : TreeNode} (h : n.Printable) (color : Bool) (depth : Nat) :
    List.Forall₂ ReadsAs (nodeLines color depth n) (nodeLines false depth n) := by
  refine .cons (readsAs_nodeLine h color depth) ?_
  cases hdetail : n.detail with
  | none => exact .nil
  | some detail =>
    refine .cons (readsAs_of_printable ?_) .nil
    exact (printable_indent _).append (h.detail detail hdetail)

/-- Only nodes of the tree are visited. -/
theorem mem_nodes_of_mem_walkFrom {fuel : Nat} {stack : List (Nat × Nat)} {visit : Nat × TreeNode}
    (h : visit ∈ t.walkFrom fuel stack) : visit.2 ∈ t.nodes := by
  fun_induction walkFrom t fuel stack with
  | case1 => cases h
  | case2 => cases h
  | case3 _ _ _ _ _ ih => exact ih h
  | case4 fuel idx depth stack node hnode ih =>
    rcases List.mem_cons.mp h with rfl | h
    · exact List.mem_of_getElem? hnode
    · exact ih h

/-- **The lines of a printable tree** read as they do without colours. -/
theorem readsAs_lines (h : t.Printable) (color : Bool) :
    List.Forall₂ ReadsAs (t.lines color) (t.lines false) := by
  have hvisits : ∀ visit ∈ t.walk, visit.2.Printable := fun visit hvisit =>
    h.nodes _ (mem_nodes_of_mem_walkFrom hvisit)
  rw [lines, lines]
  generalize t.walk = visits at hvisits ⊢
  induction visits with
  | nil => exact .nil
  | cons visit rest ih =>
    obtain ⟨hvisit, hrest⟩ := List.forall_mem_cons.mp hvisits
    exact List.rel_append (readsAs_nodeLines hvisit color visit.1) (ih hrest)

/-- A tree with a root has a line. -/
theorem lines_ne_nil (h : t.nodes ≠ []) (color : Bool) : t.lines color ≠ [] := by
  cases hnodes : t.nodes with
  | nil => exact absurd hnodes h
  | cons root rest =>
    have hroot : t.node? 0 = some root := by rw [node?, hnodes, List.getElem?_cons_zero]
    rw [lines, walk, size, hnodes, List.length_cons, walkFrom, hroot]
    simp [nodeLines]

end ProgressTree

/-! ### Displays -/

/-- A text **erases** the one that was written before it, if there is one: it begins by moving up as
many rows as that one has newlines, or as many as one control sequence can. -/
def Erases (before : List String) (text : String) : Prop :=
  ∀ previous, before.getLast? = some previous →
    ∃ rest, text = Ansi.eraseLines (min (newlines previous) Display.maxErase) ++ rest

/-- None of the texts has more lines than one control sequence erases. -/
def Erasable (texts : List String) : Prop := ∀ text ∈ texts, newlines text ≤ Display.maxErase

namespace Display

variable {d d' : Display} {texts lines : List String}

@[simp] theorem drawn_answered {ε : Type} (d : Display) (lookup : Lookup)
    (answer : Except ε Rollout) : (d.answered lookup answer).drawn = d.drawn := by
  cases answer <;> rfl

/-- Of what a display has written, these lines are **on the screen**: it has counted them, and the
terminal shows them below what was there before, unless an earlier text could not be erased. -/
structure OnScreen (d : Display) (texts lines : List String) : Prop where
  drawn_eq : d.drawn = lines.length
  newlines_eq : texts.getLast?.elim 0 newlines = lines.length
  nonempty : texts ≠ [] → lines ≠ []
  drawn : Erasable texts.dropLast → ∀ s : Screen, s.Fresh →
    s.Drawn (texts.foldl Screen.write s) lines

theorem onScreen_start (root : String) (options : DisplayOptions) (lookups : Bool) :
    (Display.start root options lookups).OnScreen [] [] where
  drawn_eq := rfl
  newlines_eq := rfl
  nonempty := fun hne => absurd rfl hne
  drawn := fun _ _ hs => Screen.drawn_nil hs

/-- Whatever becomes of the tree, the screen shows what it did. -/
theorem OnScreen.congr (h : d.OnScreen texts lines) (hdrawn : d'.drawn = d.drawn) :
    d'.OnScreen texts lines :=
  { h with drawn_eq := hdrawn.trans h.drawn_eq }

/-- The text by which a live display erases lines that are on the screen. -/
theorem OnScreen.erasure_eq (h : d.OnScreen texts lines) (hlive : d.options.live = true) :
    d.erasure = if lines = [] then "" else Ansi.eraseLines (min lines.length maxErase) := by
  rw [erasure, hlive, Bool.true_and, h.drawn_eq]
  cases lines with
  | nil => rfl
  | cons line rest => simp

/-- The erasure of lines that are not too many gives back the screen before them. -/
theorem OnScreen.write_erasure (h : d.OnScreen texts lines) (hlive : d.options.live = true)
    (hsize : Erasable texts) {s : Screen} (hs : s.Fresh) :
    (texts.foldl Screen.write s).write d.erasure = s := by
  have hdrawn := h.drawn (fun text htext => hsize text (List.dropLast_subset _ htext)) s hs
  have hmax : lines.length ≤ maxErase := by
    rw [← h.newlines_eq]
    cases hlast : texts.getLast? with
    | none => exact Nat.zero_le _
    | some text => exact hsize text (List.mem_of_getLast? hlast)
  rw [h.erasure_eq hlive, Nat.min_eq_left hmax]
  split
  next hnil =>
    rw [hnil] at hdrawn
    exact hdrawn.eq_of_nil hs
  next hne => exact hdrawn.write_eraseLines hs hne

/-- **A redraw** of a live display erases what is on the screen; then the screen shows the tree. -/
theorem OnScreen.redraw (h : d.OnScreen texts lines) (hlive : d.options.live = true)
    (htree : d.tree.Printable) :
    Erases texts d.frame ∧ d.redrawn.OnScreen (texts ++ [d.frame]) (d.tree.lines false) := by
  have herasure := h.erasure_eq hlive
  have hlines := ProgressTree.readsAs_lines htree d.options.color
  have hnewlines : newlines d.erasure = 0 := by
    rw [herasure]
    split
    · rfl
    · exact newlines_eraseLines _
  refine ⟨fun previous hprevious => ?_,
    { drawn_eq := hlines.length_eq
      newlines_eq := ?_
      nonempty := fun _ => ProgressTree.lines_ne_nil htree.nonempty false
      drawn := fun hsize s hs => ?_ }⟩
  · have hne : lines ≠ [] := h.nonempty (by rintro rfl; cases hprevious)
    have hcount := h.newlines_eq
    rw [hprevious, Option.elim_some] at hcount
    rw [frame, herasure, if_neg hne, hcount]
    exact ⟨_, rfl⟩
  · rw [List.getLast?_concat, Option.elim_some, frame, newlines_append, hnewlines, Nat.zero_add]
    exact newlines_unlines hlines
  · -- the erasure gives back the screen on which the first drawing was made
    rw [List.dropLast_concat] at hsize
    rw [List.foldl_append, List.foldl_cons, List.foldl_nil, frame, Screen.write_append,
      h.write_erasure hlive hsize hs]
    exact drawn_unlines hs hlines

end Display

/-! ### Runs of painters -/

namespace Painter

/-- The **runs** of a painter: the batches that it has been given, what it has done so far, and
where it stands. It is given the next batch when it is done with the ones before. -/
inductive Runs (start : Painter) : List Batch → List Action → Painter → Prop
  | start : Runs start [] [] start
  | receive {batches : List Batch} {trace : List Action} {p : Painter}
      (run : Runs start batches trace p) (hphase : p.phase = .receiving) (batch : Batch) :
      Runs start (batches ++ [batch]) trace (p.receive batch)
  | step {batches : List Batch} {trace actions : List Action} {p q : Painter} {clock : Clock}
      (run : Runs start batches trace p) (leads : (p.batchStep clock).Leads clock actions q) :
      Runs start batches (trace ++ actions) q

/-- The events of its batch that a painter still has to apply. -/
def pending (p : Painter) : Batch :=
  match p.phase with
  | .applying rest | .asking _ rest => rest
  | .receiving | .drawing | .over _ => []

/-- How many batches a painter has been given and has not drawn. -/
def inHand (p : Painter) : Nat :=
  match p.phase with
  | .receiving => 0
  | .applying _ | .asking _ _ | .drawing | .over _ => 1

/-- A live painter **keeps up** the screen: its texts erase one another, and when it is done with a
batch the screen shows its tree. It has drawn once for every batch. -/
structure KeepsUp (p : Painter) (batches : List Batch) (texts : List String) : Prop where
  live : p.display.options.live = true
  tree : p.display.tree.Printable
  pending : ∀ e ∈ p.pending, e.event.Printable
  erases : Obeys Erases texts
  onScreen : ∃ lines, p.display.OnScreen texts lines ∧
    (p.phase = .receiving → texts ≠ [] → lines = p.display.tree.lines false)
  length_eq : texts.length + p.inHand = batches.length

variable {p q : Painter} {batches : List Batch} {texts : List String} {actions : List Action}

theorem keepsUp_start {root : String} {options : DisplayOptions} (lookups : Bool)
    (hlive : options.live = true) (hroot : Printable root) :
    (Painter.start (.start root options lookups)).KeepsUp [] [] where
  live := hlive
  tree := ProgressTree.printable_start hroot
  pending := fun _ he => nomatch he
  erases := obeys_nil _
  onScreen := ⟨[], Display.onScreen_start root options lookups, fun _ hne => absurd rfl hne⟩
  length_eq := rfl

/-- The screen stays as it is while a batch is applied. -/
theorem KeepsUp.apply (h : p.KeepsUp batches texts) (hhand : q.inHand = p.inHand)
    (hphase : q.phase ≠ .receiving) (hoptions : q.display.options = p.display.options)
    (hdrawn : q.display.drawn = p.display.drawn) (htree : q.display.tree.Printable)
    (hpending : ∀ e ∈ q.pending, e.event.Printable) : q.KeepsUp batches texts where
  live := hoptions ▸ h.live
  tree := htree
  pending := hpending
  erases := h.erases
  onScreen := by
    obtain ⟨lines, hscreen, -⟩ := h.onScreen
    exact ⟨lines, hscreen.congr hdrawn, fun hreceiving => absurd hreceiving hphase⟩
  length_eq := hhand ▸ h.length_eq

theorem KeepsUp.receive (h : p.KeepsUp batches texts) (hphase : p.phase = .receiving)
    {batch : Batch} (hbatch : ∀ e ∈ batch, e.event.Printable) :
    (p.receive batch).KeepsUp (batches ++ [batch]) texts where
  live := h.live
  tree := h.tree
  pending := hbatch
  erases := h.erases
  onScreen := by
    obtain ⟨lines, hscreen, -⟩ := h.onScreen
    exact ⟨lines, hscreen.congr rfl, nofun⟩
  length_eq := by
    have hlength := h.length_eq
    rw [inHand, hphase] at hlength
    rw [List.length_append, List.length_singleton, ← hlength]
    rfl

/-- **One step** of a painter keeps up the screen, as long as its drawings can be written. -/
theorem KeepsUp.goes (h : p.KeepsUp batches texts) (goes : p.Goes actions q)
    (hwritten : ∀ a ∈ actions, a.isFailedWrite = false)
    (hrollouts : ∀ r, .ok r ∈ rollouts actions → r.Printable) :
    q.KeepsUp batches (texts ++ writes actions) := by
  obtain ⟨d, phase⟩ := p
  cases goes with
  | @apply e rest display hphase hnotify | @ask e rest display lookup hphase hnotify =>
    obtain rfl : phase = .applying (e :: rest) := hphase
    obtain ⟨enriched, rfl⟩ := Display.exists_eq_of_notify hnotify
    obtain ⟨he, hrest⟩ := List.forall_mem_cons.mp h.pending
    rw [writes, List.filterMap_nil, List.append_nil]
    exact h.apply rfl nofun rfl rfl (h.tree.apply he) hrest
  | @answered lookup rest hphase reply =>
    obtain rfl : phase = .asking lookup rest := hphase
    have htree : (d.answered lookup reply).tree.Printable := by
      cases reply with
      | error cause => exact h.tree
      | ok rollout =>
        exact h.tree.setDetail (hrollouts rollout (List.mem_singleton_self _)).summary _
    show KeepsUp _ batches (texts ++ [])
    rw [List.append_nil]
    exact h.apply rfl nofun (Display.options_answered d lookup reply)
      (Display.drawn_answered d lookup reply) htree h.pending
  | applied hphase =>
    obtain rfl : phase = .applying [] := hphase
    rw [writes, List.filterMap_nil, List.append_nil]
    exact h.apply rfl nofun rfl rfl h.tree h.pending
  | drawn hphase =>
    obtain rfl : phase = .drawing := hphase
    obtain ⟨lines, hscreen, -⟩ := h.onScreen
    obtain ⟨herases, hredrawn⟩ := hscreen.redraw h.live h.tree
    show KeepsUp _ batches (texts ++ [d.frame])
    exact
      { live := h.live
        tree := h.tree
        pending := fun _ he => nomatch he
        erases := obeys_append_singleton.mpr ⟨h.erases, herases⟩
        onScreen := ⟨_, hredrawn, fun _ _ => rfl⟩
        length_eq := by
          rw [List.length_append, List.length_singleton]
          exact h.length_eq }
  | failed hphase message => cases hwritten _ (List.mem_singleton_self _)

/-- **A whole run** keeps up the screen. -/
theorem keepsUp_of_runs {root : String} {options : DisplayOptions} {lookups : Bool}
    {trace : List Action} (run : (Painter.start (.start root options lookups)).Runs batches trace p)
    (hlive : options.live = true) (hwritten : ∀ a ∈ trace, a.isFailedWrite = false)
    (hroot : Printable root) (hevents : ∀ e ∈ batches.flatten, e.event.Printable)
    (hrollouts : ∀ r, .ok r ∈ rollouts trace → r.Printable) :
    p.KeepsUp batches (writes trace) := by
  induction run with
  | start => exact keepsUp_start lookups hlive hroot
  | receive run hphase batch ih =>
    rw [List.flatten_append, List.flatten_singleton] at hevents
    have hbefore := ih hwritten (fun e he => hevents e (List.mem_append_left _ he)) hrollouts
    exact hbefore.receive hphase fun e he => hevents e (List.mem_append_right _ he)
  | step run leads ih =>
    rw [rollouts_append] at hrollouts
    rw [writes_append]
    have hbefore := ih (fun a ha => hwritten a (List.mem_append_left _ ha)) hevents
      fun r hr => hrollouts r (List.mem_append_left _ hr)
    exact hbefore.goes (goes_of_leads leads)
      (fun a ha => hwritten a (List.mem_append_right _ ha))
      fun r hr => hrollouts r (List.mem_append_right _ hr)

end Painter

/-- **A redraw erases the drawing before it.** Whatever batches a live painter is given, if all its
texts can be written and nothing that is drawn holds a control character: each text begins by moving
up by as many rows as the one before has newlines, as far as one control sequence can, and there is
one text for every batch. If that was always far enough, then whenever the painter is done with a
batch a terminal shows the lines of its tree, below what was there before the first text, and
nothing else. -/
theorem redraw_erases_drawing {root : String} {options : DisplayOptions} {lookups : Bool}
    {batches : List Batch} {trace : List Action} {p : Painter}
    (run : (Painter.start (.start root options lookups)).Runs batches trace p)
    (hlive : options.live = true) (hwritten : ∀ a ∈ trace, a.isFailedWrite = false)
    (hroot : Printable root) (hevents : ∀ e ∈ batches.flatten, e.event.Printable)
    (hrollouts : ∀ r, .ok r ∈ rollouts trace → r.Printable) :
    (∀ before previous next after, writes trace = before ++ previous :: next :: after →
      ∃ rest, next = Ansi.eraseLines (min (newlines previous) Display.maxErase) ++ rest) ∧
    (p.phase = .receiving → (writes trace).length = batches.length ∧
      (batches ≠ [] → Erasable (writes trace).dropLast → ∀ s : Screen, s.Fresh →
        s.Drawn ((writes trace).foldl Screen.write s) (p.display.tree.lines false))) := by
  have hkeeps := Painter.keepsUp_of_runs run hlive hwritten hroot hevents hrollouts
  refine ⟨fun before previous next after hwrites => ?_, fun hphase => ?_⟩
  · refine hkeeps.erases (before ++ [previous]) next after ?_ previous List.getLast?_concat
    rw [hwrites, List.append_assoc, List.singleton_append]
  · have hlength := hkeeps.length_eq
    rw [Painter.inHand, hphase, Nat.add_zero] at hlength
    obtain ⟨lines, hscreen, hcurrent⟩ := hkeeps.onScreen
    refine ⟨hlength, fun hbatches hsize s hs => ?_⟩
    have hdrawn : writes trace ≠ [] := by
      rw [← List.length_pos_iff, hlength]
      exact List.length_pos_iff.mpr hbatches
    rw [← hcurrent hphase hdrawn]
    exact hscreen.drawn hsize s hs

/-! ### Two drawings -/

/-- The display as it is when its tree has taken in an event. -/
def Display.shown (d : Display) (e : StreamEvent) : Display := { d with tree := (d.tree.apply e).2 }

/-- Without lookups an event changes nothing but the tree. -/
theorem Display.notify_eq_shown {d : Display} (h : d.lookups = false) (e : StreamEvent) :
    d.notify e = (d.shown e, none) := by
  rw [notify]
  split
  next htree => rw [shown, htree]
  next htree =>
    split
    · simp [consider, h, shown, htree]
    · rw [shown, htree]

/-- A painter that looks up no rollouts draws a batch of one event. -/
theorem Painter.Runs.draw {start : Painter} {batches : List Batch} {trace : List Action}
    {d : Display} (run : start.Runs batches trace ⟨d, .receiving⟩) (h : d.lookups = false)
    (e : StreamEvent) :
    start.Runs (batches ++ [[e]]) (trace ++ [.write (d.shown e).frame (.ok ())])
      ⟨(d.shown e).redrawn, .receiving⟩ := by
  have hnotify := Display.notify_eq_shown h e
  have go {p q : Painter} {trace actions : List Action}
      (run : start.Runs (batches ++ [[e]]) trace p)
      (leads : (p.batchStep ⟨0, 0, .epoch⟩).Leads ⟨0, 0, .epoch⟩ actions q) :
      start.Runs (batches ++ [[e]]) (trace ++ actions) q := run.step leads
  have given : start.Runs (batches ++ [[e]]) trace ⟨d, .applying [e]⟩ := run.receive rfl [e]
  have applied : start.Runs (batches ++ [[e]]) (trace ++ []) ⟨d.shown e, .applying []⟩ := by
    refine go given ?_
    rw [batchStep, Painter.step]
    simp only [hnotify]
    exact .goOn _
  have ready : start.Runs (batches ++ [[e]]) (trace ++ [] ++ []) ⟨d.shown e, .drawing⟩ :=
    go applied (.goOn _)
  rw [List.append_nil, List.append_nil] at ready
  exact go ready (.write _ _ (.ok ()))

/-- The creation of a queue begins, for some reason. -/
def queueBegun (reason : String) : StreamEvent :=
  ⟨"demo", { StackEvent.basic "begun" "Queue" "AWS::SQS::Queue" "CREATE_IN_PROGRESS" .epoch with
    reason := some reason }⟩

/-- The queue is there. -/
def queueThere : StreamEvent :=
  ⟨"demo", .basic "there" "Queue" "AWS::SQS::Queue" "CREATE_COMPLETE" .epoch⟩

/-- The display of the stack before anything is known of it. -/
def queueUnseen : Display := .start "demo" ⟨true, true⟩ false

/-- The texts that are written for the two events. -/
def queueTexts (reason : String) : List String :=
  [(queueUnseen.shown (queueBegun reason)).frame,
    ((queueUnseen.shown (queueBegun reason)).redrawn.shown queueThere).frame]

/-- The painter that has written them. -/
def queuePainter (reason : String) : Painter :=
  ⟨((queueUnseen.shown (queueBegun reason)).redrawn.shown queueThere).redrawn, .receiving⟩

theorem queuePainter_runs (reason : String) :
    (Painter.start queueUnseen).Runs [[queueBegun reason], [queueThere]]
      ((queueTexts reason).map fun text => .write text (.ok ())) (queuePainter reason) := by
  have waiting : (Painter.start queueUnseen).Runs [] [] ⟨queueUnseen, .receiving⟩ := .start
  exact (waiting.draw rfl (queueBegun reason)).draw rfl queueThere

/-- A queue that is created for a short reason is drawn twice, and the terminal shows the second
drawing. -/
theorem queue_is_drawn :
    (queueTexts "first").map newlines = [2, 2] ∧
      (∃ rest, (queueTexts "first")[1]? = some (Ansi.eraseLines 2 ++ rest)) ∧
      Screen.blank.Drawn ((queueTexts "first").foldl Screen.write .blank)
        ["demo", "  Queue CREATE_COMPLETE"] := by
  have hwrites : writes ((queueTexts "first").map fun text => .write text (.ok ())) =
      queueTexts "first" := rfl
  have hnewlines : (queueTexts "first").map newlines = [2, 2] := by decide +kernel
  have hevents : ∀ e ∈ [[queueBegun "first"], [queueThere]].flatten, e.event.Printable := by
    have hbegun : (queueBegun "first").event.Printable := by
      refine ⟨by decide, by decide, fun reason hreason => ?_⟩
      obtain rfl := Option.some.inj hreason
      decide
    have hthere : queueThere.event.Printable :=
      ⟨by decide, by decide, fun _ hreason => nomatch hreason⟩
    exact List.forall_mem_cons.mpr ⟨hbegun, List.forall_mem_singleton.mpr hthere⟩
  have hfirst : newlines (queueUnseen.shown (queueBegun "first")).frame = 2 := by decide +kernel
  have hsize : Erasable (queueTexts "first").dropLast := by
    intro text htext
    rw [List.mem_singleton.mp htext, hfirst]
    decide
  have hwritten : ∀ a ∈ (queueTexts "first").map fun text => Action.write text (.ok ()),
      a.isFailedWrite = false := by
    intro a ha
    obtain ⟨text, -, rfl⟩ := List.mem_map.mp ha
    rfl
  obtain ⟨herases, hdrawn⟩ := redraw_erases_drawing (queuePainter_runs "first") rfl hwritten
    (by decide) hevents (fun _ hr => nomatch hr)
  rw [hwrites] at herases hdrawn
  obtain ⟨rest, hrest⟩ := herases [] _ _ [] rfl
  have hlines : (queuePainter "first").display.tree.lines false =
      ["demo", "  Queue CREATE_COMPLETE"] := by decide +kernel
  have hmin : min 2 Display.maxErase = 2 := rfl
  rw [hfirst, hmin] at hrest
  refine ⟨hnewlines, ⟨rest, congrArg some hrest⟩, ?_⟩
  rw [← hlines]
  exact (hdrawn rfl).2 (List.cons_ne_nil _ _) hsize .blank Screen.fresh_blank

/-- **The second line of a reason is left over.** The first text has three newlines, but the next
one moves up by two rows only: the first row of the first drawing stays above the second one. -/
theorem second_line_is_left_over :
    (Painter.start queueUnseen).Runs [[queueBegun "first\nsecond"], [queueThere]]
        ((queueTexts "first\nsecond").map fun text => .write text (.ok ()))
        (queuePainter "first\nsecond") ∧
      (queueTexts "first\nsecond").map newlines = [3, 2] ∧
      (∀ rest, (queueTexts "first\nsecond")[1]? ≠ some (Ansi.eraseLines 3 ++ rest)) ∧
      (queuePainter "first\nsecond").display.tree.lines false =
        ["demo", "  Queue CREATE_COMPLETE"] ∧
      ¬ Screen.blank.Drawn ((queueTexts "first\nsecond").foldl Screen.write .blank)
        ["demo", "  Queue CREATE_COMPLETE"] := by
  refine ⟨queuePainter_runs _, by decide +kernel, fun rest htext => ?_, by decide +kernel,
    fun h => ?_⟩
  · have hthird := congrArg (Option.map fun text => text.toList[2]?) htext
    have hthree : (Ansi.eraseLines 3).toList = ['\x1b', '[', '3', 'A', '\x1b', '[', 'J'] := by
      decide +kernel
    have htwo : (queueTexts "first\nsecond")[1]?.map (fun text => text.toList[2]?) =
        some (some '2') := by decide +kernel
    rw [htwo, Option.map_some, String.toList_append, hthree] at hthird
    cases hthird
  · have hrow : ((queueTexts "first\nsecond").foldl Screen.write .blank).row = 3 := by
      decide +kernel
    have htwo := h.row_eq
    rw [hrow] at htwo
    cases htwo

end StackDeploy
