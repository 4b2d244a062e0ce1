import StackDeploy.Proofs.Deployment.Review

/-!
# Waiting for the first computed reply

A review looks at one change set again and again. It ends at the first reply that is an error, that
shows the change set computed, or that comes too late while the change set is still computing; and
it concludes from that reply alone.

* `Review.Runs` — what a review comes to, with the replies that it has judged.
* `Review.Stands` — what each phase has of them; `Review.Stands.step` is the step lemma.
* `Review.settled_by_first_computed` — the first reply that settles the matter is the last one.
-/

namespace StackDeploy

/-- The controller while its change set is waited for. -/
def Controller.awaiting (c : Controller) : Controller := { c with state := .waitingForCreation }

namespace Review

/-! ### Looks -/

/-- A **look** at the change set: the reply, and what the stopwatch showed when it was judged. -/
structure Look where
  reply : Except ApiError ChangeSet
  time : Nat

/-- The call that a look has made. -/
def Look.action (stack : String) (ref : ChangeSetRef) (look : Look) : Action :=
  .call (.describeChangeSet stack ref.id) look.reply

/-- A look **leaves** the matter **open**: the change set was still computing, and time was left. -/
def Look.LeavesOpen (began timeout : Nat) (look : Look) : Prop :=
  ∃ changeSet, look.reply = .ok changeSet ∧ Controller.IsPending changeSet ∧
    look.time - began < timeout

/-- The look that a step judges. -/
def look? (clock : Clock) (r : Review) : Option Look :=
  match r.phase with
  | .judging _ _ reply => some ⟨reply, clock.stopwatch⟩
  | _ => none

/-- The **runs** of a review that began when the stopwatch showed `began`: the number of steps since
then, the actions so far, the looks that were judged, and the review that they have led to. -/
inductive Runs (c : Controller) (began : Nat) : Nat → List Action → List Look → Review → Prop
  | begin (clock : Clock) {actions : List Action} {r : Review} (hbegan : clock.stopwatch = began)
      (leads : ((start c).step clock).Leads clock actions r) : Runs c began 0 actions [] r
  | step (clock : Clock) {steps : Nat} {trace actions : List Action} {looks : List Look}
      {r r' : Review} (run : Runs c began steps trace looks r)
      (leads : (r.step clock).Leads clock actions r') :
      Runs c began (steps + 1) (trace ++ actions) (looks ++ (r.look? clock).toList) r'

/-! ### Where a review stands -/

/-- **Where** a review stands after some looks. Up to the last one they have left the matter open;
each took one step to ask, one to judge and one to wake up after the pause. -/
inductive Stands (c : Controller) (ref : ChangeSetRef) (began : Nat) :
    Nat → List Action → List Look → Review → Prop
  | asking {looks : List Look} (hopen : ∀ look ∈ looks, look.LeavesOpen began c.settings.timeout) :
      Stands c ref began (3 * looks.length) (looks.map (Look.action c.stack ref)) looks
        ⟨c.awaiting, .asking ref began⟩
  | judging {looks : List Look} (hopen : ∀ look ∈ looks, look.LeavesOpen began c.settings.timeout)
      (reply : Except ApiError ChangeSet) :
      Stands c ref began (3 * looks.length + 1)
        (looks.map (Look.action c.stack ref) ++ [.call (.describeChangeSet c.stack ref.id) reply])
        looks ⟨c.awaiting, .judging ref began reply⟩
  | pausing {earlier : List Look} {last : Look} (deadline : Nat)
      (hopen : ∀ look ∈ earlier ++ [last], look.LeavesOpen began c.settings.timeout) :
      Stands c ref began (3 * earlier.length + 2)
        ((earlier ++ [last]).map (Look.action c.stack ref)) (earlier ++ [last])
        ⟨c.awaiting, .pausing ref began deadline⟩
  | over {earlier : List Look} {last : Look} {result : Except ChangeSetError ReviewOutcome}
      {c' : Controller} (hopen : ∀ look ∈ earlier, look.LeavesOpen began c.settings.timeout)
      (concludes : c.awaiting.Concludes ref (last.time - began) last.reply result c') :
      Stands c ref began (3 * earlier.length + 2)
        ((earlier ++ [last]).map (Look.action c.stack ref)) (earlier ++ [last]) ⟨c', .over result⟩

section Stands

variable {c : Controller} {ref : ChangeSetRef} {began steps : Nat} {trace actions : List Action}
  {looks : List Look} {r r' : Review} {clock : Clock}

theorem Stands.begin (hsubmitted : c.changeSet = some ref) (hbegan : clock.stopwatch = began)
    (leads : ((start c).step clock).Leads clock actions r) :
    Stands c ref began 0 actions [] r := by
  cases Review.steps_of_leads leads with
  | begin _ hother =>
    obtain rfl := Option.some.inj (hsubmitted.symm.trans hother)
    subst hbegan
    exact .asking (List.forall_mem_nil _)
  | ask hphase | pause hphase | settle hphase | wake hphase => cases hphase

/-- **Step lemma.** Every step of a review brings it to where it is to stand. -/
theorem Stands.step (h : Stands c ref began steps trace looks r)
    (leads : (r.step clock).Leads clock actions r') :
    Stands c ref began (steps + 1) (trace ++ actions) (looks ++ (r.look? clock).toList) r' := by
  have hsteps := Review.steps_of_leads leads
  cases h with
  | asking hopen =>
    cases hsteps with
    | begin hphase | pause hphase | settle hphase | wake hphase => cases hphase
    | ask hphase reply =>
      cases hphase
      rw [look?, Option.toList_none, List.append_nil]
      exact .judging hopen reply
  | @judging looks hopen reply =>
    -- the reply is judged now
    have hasked (look : Look) (hlook : look.reply = reply) :
        looks.map (Look.action c.stack ref) ++ [.call (.describeChangeSet c.stack ref.id) reply] =
          (looks ++ [look]).map (Look.action c.stack ref) := by
      rw [List.map_append, ← hlook]
      rfl
    cases hsteps with
    | begin hphase | ask hphase | wake hphase => cases hphase
    | pause hphase hjudge =>
      cases hphase
      obtain ⟨changeSet, rfl, hpending, htime⟩ := Controller.judge_eq_again_iff.mp hjudge
      have hlast : Look.LeavesOpen began c.settings.timeout ⟨.ok changeSet, clock.stopwatch⟩ :=
        ⟨changeSet, rfl, hpending, htime⟩
      rw [List.append_nil, hasked ⟨.ok changeSet, clock.stopwatch⟩ rfl]
      exact .pausing _ (List.forall_mem_append.mpr ⟨hopen, List.forall_mem_singleton.mpr hlast⟩)
    | settle hphase hjudge =>
      cases hphase
      rw [List.append_nil, hasked ⟨reply, clock.stopwatch⟩ rfl]
      exact .over hopen (Controller.concludes_of_judge_eq_over hjudge)
  | @pausing earlier last deadline hopen =>
    have hlength : 3 * earlier.length + 2 + 1 = 3 * (earlier ++ [last]).length := by
      rw [List.length_append, List.length_singleton]
      omega
    cases hsteps with
    | begin hphase | ask hphase | pause hphase | settle hphase => cases hphase
    | wake hphase =>
      cases hphase
      rw [List.append_nil, look?, Option.toList_none, List.append_nil, hlength]
      exact .asking hopen
  | «over» =>
    cases hsteps with
    | begin hphase | ask hphase | pause hphase | settle hphase | wake hphase => cases hphase

/-- **Run lemma.** -/
theorem Runs.stands (hsubmitted : c.changeSet = some ref)
    (run : Runs c began steps trace looks r) : Stands c ref began steps trace looks r := by
  induction run with
  | begin _ hbegan leads => exact .begin hsubmitted hbegan leads
  | step _ _ leads ih => exact ih.step leads

/-- A review does not go on without looking. -/
theorem Stands.steps_le (h : Stands c ref began steps trace looks r) :
    steps ≤ 3 * looks.length + 1 := by
  cases h with
  | asking | judging => omega
  | pausing | «over» =>
    rw [List.length_append, List.length_singleton]
    omega

/-- The looks were taken one after the other, and only the last reply may not be judged yet. -/
theorem Stands.asked (h : Stands c ref began steps trace looks r) :
    looks.map (Look.action c.stack ref) <+: trace ∧ trace.length ≤ looks.length + 1 := by
  cases h with
  | asking | pausing | «over» => exact ⟨List.prefix_rfl, by rw [List.length_map]; omega⟩
  | judging =>
    refine ⟨List.prefix_append _ _, ?_⟩
    rw [List.length_append, List.length_map, List.length_singleton]

/-- A review that is not over has a next step, once its pause is over. -/
theorem Stands.exists_leads (h : Stands c ref began steps trace looks r)
    (hrunning : ∀ result, r.phase ≠ .over result) :
    ∃ due, ∀ clock : Clock, due ≤ clock.timer →
      ∃ actions r', (r.step clock).Leads clock actions r' := by
  cases h with
  | asking => exact ⟨0, fun clock _ => ⟨_, _, .call _ _ (.error (.http ""))⟩⟩
  | judging _ reply =>
    refine ⟨0, fun clock _ => ?_⟩
    rw [Review.step]
    dsimp only
    split
    · exact ⟨_, _, .goOn _⟩
    · exact ⟨_, _, .goOn _⟩
  | pausing deadline => exact ⟨deadline, fun clock hdue => ⟨_, _, .wake _ hdue⟩⟩
  | «over» => exact absurd rfl (hrunning _)

end Stands

/-- The **first reply that settles** a review is the last one that it asks for. A review of a
submitted change set describes that change set and no other one, and judges the replies as they
come.

* Between two looks it takes at most three steps, so it cannot go on without looking.
* If it is over, then all looks but the last left the matter open, the result is what the controller
  concludes from the last one, and it is returned at once.
* If it is not over, then all looks left the matter open, and it goes on after its pause. -/
theorem settled_by_first_computed {c : Controller} {ref : ChangeSetRef} {began steps : Nat}
    {trace : List Action} {looks : List Look} {r : Review} (hsubmitted : c.changeSet = some ref)
    (run : Runs c began steps trace looks r) :
    (∀ a ∈ trace, ∃ reply, a = .call (.describeChangeSet c.stack ref.id) reply) ∧
    looks.map (Look.action c.stack ref) <+: trace ∧ trace.length ≤ looks.length + 1 ∧
    steps ≤ 3 * looks.length + 1 ∧
    (∀ result, r.phase = .over result → ∃ earlier last, looks = earlier ++ [last] ∧
      trace = looks.map (Look.action c.stack ref) ∧
      (∀ look ∈ earlier, look.LeavesOpen began c.settings.timeout) ∧
      c.awaiting.Concludes ref (last.time - began) last.reply result r.controller ∧
      ∀ clock, r.step clock = .finish (result, r.controller)) ∧
    ((∀ result, r.phase ≠ .over result) →
      (∀ look ∈ looks, look.LeavesOpen began c.settings.timeout) ∧
      ∃ due, ∀ clock : Clock, due ≤ clock.timer →
        ∃ actions r', (r.step clock).Leads clock actions r') := by
  have hstands := run.stands hsubmitted
  have hasked (looks : List Look) : ∀ a ∈ looks.map (Look.action c.stack ref),
      ∃ reply, a = .call (.describeChangeSet c.stack ref.id) reply := by
    rintro a ha
    obtain ⟨look, -, rfl⟩ := List.mem_map.mp ha
    exact ⟨look.reply, rfl⟩
  have hnext := hstands.exists_leads
  refine ⟨?_, hstands.asked.1, hstands.asked.2, hstands.steps_le, ?_⟩
  · cases hstands with
    | asking | pausing | «over» => exact hasked _
    | judging hopen reply =>
      exact List.forall_mem_append.mpr ⟨hasked looks, List.forall_mem_singleton.mpr ⟨reply, rfl⟩⟩
  · cases hstands with
    | asking hopen | judging hopen | pausing _ hopen =>
      refine ⟨?_, fun h => ⟨hopen, hnext h⟩⟩
      rintro result ⟨⟩
    | «over» hopen concludes =>
      refine ⟨?_, fun h => absurd rfl (h _)⟩
      rintro result ⟨⟩
      exact ⟨_, _, rfl, rfl, hopen, concludes, fun _ => rfl⟩

/-- The review of the queue waits while its change set is computed, and shows its changes then. -/
theorem queue_waited_for : ∃ (c : Controller) (steps : Nat) (trace : List Action)
    (looks : List Look) (r : Review),
    c.changeSet = some ⟨"queue", "demo"⟩ ∧ Runs c 0 steps trace looks r ∧ looks.length = 2 ∧
      ∃ earlier last, looks = earlier ++ [last] ∧
        (∀ look ∈ earlier, look.LeavesOpen 0 c.settings.timeout) ∧
        c.awaiting.Concludes ⟨"queue", "demo"⟩ last.time last.reply
          (.ok (.changes queueChangeSet.changes)) r.controller := by
  let c : Controller := ⟨.default, "demo", some ⟨"queue", "demo"⟩, none, .created⟩
  let computing : ChangeSet := { queueChangeSet with status := .createInProgress }
  have begun : Runs c 0 0 [] [] ⟨c.awaiting, .asking ⟨"queue", "demo"⟩ 0⟩ :=
    .begin ⟨0, 0, .epoch⟩ rfl (.goOn _)
  have heard := begun.step ⟨4, 4, .epoch⟩
    (.call (.describeChangeSet "demo" "queue") _ (.ok computing))
  have judged := heard.step ⟨5, 5, .epoch⟩ (.goOn _)
  have woken := judged.step ⟨2005, 2005, .epoch⟩ (.wake _ le_rfl)
  have heard := woken.step ⟨2006, 2006, .epoch⟩
    (.call (.describeChangeSet "demo" "queue") _ (.ok queueChangeSet))
  have judged := heard.step ⟨2007, 2007, .epoch⟩ (.goOn _)
  obtain ⟨-, -, -, -, hover, -⟩ := settled_by_first_computed rfl judged
  obtain ⟨earlier, last, hlooks, -, hopen, hconcludes, -⟩ := hover _ rfl
  exact ⟨c, _, _, _, _, rfl, judged, rfl, earlier, last, hlooks, hopen, hconcludes⟩

end Review

end StackDeploy
