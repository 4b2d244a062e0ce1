import StackDeploy.ChangeSet.Controller
import StackDeploy.Proofs.Text.Search

/-!
# What a controller makes of a reply

The replies of the service to a submission and to a look at the change set, each with what the
controller concludes from it.

* `Controller.submitted_cases` — a submission is accepted, refused because the stack exists, or it
  failed.
* `Controller.Concludes` — what is concluded from the reply that ends a review;
  `Controller.judge_eq_over_iff` says that there is nothing else.
* `Controller.keeps_of_judge_eq_over`, `Controller.changes_of_judge_eq_over` — a review that is over
  leaves the controller at its change set, and it finds changes to apply only in a description that
  is neither computing nor unavailable.
* `Review.phase_of_step_eq_finish` — the review as a task ends with the result it has come to.
-/

namespace StackDeploy

namespace Controller

variable {c c' : Controller}

/-- **Submission.** The controller goes over to an accepted change set; otherwise it stays as it
is. -/
theorem submitted_cases (c : Controller) (stack : String) (type : ChangeSetType)
    (reply : Except ApiError ChangeSetRef) :
    (∃ ref, reply = .ok ref ∧ c.submitted stack type reply =
        (.ok ref, { c with stack, changeSet := some ref, createdAt := none, state := .created })) ∨
      (∃ subject, reply = .error (.alreadyExists subject) ∧ type = .create ∧
        c.submitted stack type reply = (.error (.stackAlreadyExists stack), c)) ∨
      (∃ cause, reply = .error cause ∧
        c.submitted stack type reply = (.error (.api .createChangeSet stack cause), c)) := by
  cases reply with
  | ok ref => exact .inl ⟨ref, rfl, rfl⟩
  | error cause =>
    refine .inr ?_
    cases cause with
    | alreadyExists subject =>
      by_cases htype : type = .create
      · exact .inl ⟨subject, rfl, htype, by simp [submitted, htype]⟩
      · exact .inr ⟨_, rfl, by simp [submitted, htype]⟩
    | _ => exact .inr ⟨_, rfl, rfl⟩

/-! ### Status reasons -/

/-- The reason says that there is **nothing to do**: one of the known texts stands in it. -/
def SaysNoChanges (reason : String) : Prop :=
  ∃ text ∈ noChangeReasons, text.toList <:+: reason.toList

theorem ofReason_eq_noChanges_iff {reason : String} :
    ReasonClass.ofReason reason = .noChanges ↔ SaysNoChanges reason := by
  rw [ReasonClass.ofReason, SaysNoChanges]
  simp [Text.occursIn_iff]

theorem ofReason_eq_other_iff {reason : String} :
    ReasonClass.ofReason reason = .other ↔ ¬ SaysNoChanges reason := by
  rw [← ofReason_eq_noChanges_iff]
  cases ReasonClass.ofReason reason <;> simp

/-! ### Review -/

/-- The change set is still computing: its difference is **pending** or in progress. -/
def IsPending (changeSet : ChangeSet) : Prop :=
  changeSet.status = .createPending ∨ changeSet.status = .createInProgress

theorem isComputing_iff {changeSet : ChangeSet} :
    changeSet.status.isComputing = true ↔ IsPending changeSet := by
  rw [IsPending]
  cases changeSet.status <;> simp [ChangeSetStatus.isComputing]

/-- What a controller **concludes** from the reply that ends its review, when it came `elapsed`
milliseconds after the review began. -/
inductive Concludes (c : Controller) (ref : ChangeSetRef) (elapsed : Nat) :
    Except ApiError ChangeSet → Except ChangeSetError ReviewOutcome → Controller → Prop
  | failed (cause : ApiError) :
      Concludes c ref elapsed (.error cause) (.error (.api .describeChangeSet c.stack cause)) c
  | late {changeSet : ChangeSet} (hpending : IsPending changeSet)
      (hlate : c.settings.timeout ≤ elapsed) :
      Concludes c ref elapsed (.ok changeSet)
        (.error (.waitTimeout ref.id c.stack (c.settings.timeout / 1000)))
        { c with state := .failedToCreate }
  | noChanges {changeSet : ChangeSet} (hcomputed : ¬ IsPending changeSet)
      (hunavailable : changeSet.executionStatus = .unavailable)
      (hreason : SaysNoChanges (changeSet.statusReason.getD "")) :
      Concludes c ref elapsed (.ok changeSet) (.ok .noChanges)
        { c with createdAt := some changeSet.creationTime, state := .skippedNoChanges }
  | notExecutable {changeSet : ChangeSet} (hcomputed : ¬ IsPending changeSet)
      (hunavailable : changeSet.executionStatus = .unavailable)
      (hreason : ¬ SaysNoChanges (changeSet.statusReason.getD "")) :
      Concludes c ref elapsed (.ok changeSet)
        (.error (.notExecutable changeSet.id changeSet.stackId (changeSet.statusReason.getD "")))
        { c with createdAt := some changeSet.creationTime, state := .failedToCreate }
  | changes {changeSet : ChangeSet} (hcomputed : ¬ IsPending changeSet)
      (havailable : changeSet.executionStatus ≠ .unavailable) :
      Concludes c ref elapsed (.ok changeSet) (.ok (.changes changeSet.changes))
        { c with createdAt := some changeSet.creationTime, state := .available }

variable {ref : ChangeSetRef} {elapsed : Nat} {reply : Except ApiError ChangeSet}
  {result : Except ChangeSetError ReviewOutcome}

theorem concludes_of_judge_eq_over (h : c.judge ref elapsed reply = .over result c') :
    c.Concludes ref elapsed reply result c' := by
  unfold judge at h
  split at h
  · cases h
    exact .failed _
  · split at h
    next hcomputing =>
      split at h
      next hlate =>
        cases h
        exact .late (isComputing_iff.mp hcomputing) hlate
      · cases h
    next hcomputing =>
      have hcomputed := mt isComputing_iff.mpr hcomputing
      dsimp only at h
      split at h
      next hunavailable =>
        split at h
        next hreason =>
          cases h
          exact .noChanges hcomputed hunavailable (ofReason_eq_noChanges_iff.mp hreason)
        next hreason =>
          cases h
          exact .notExecutable hcomputed hunavailable (ofReason_eq_other_iff.mp hreason)
      next havailable =>
        cases h
        exact .changes hcomputed havailable

/-- A review ends with **what is concluded** from a reply. -/
theorem judge_eq_over_iff :
    c.judge ref elapsed reply = .over result c' ↔ c.Concludes ref elapsed reply result c' := by
  refine ⟨concludes_of_judge_eq_over, fun h => ?_⟩
  cases h with
  | failed cause => rfl
  | late hpending hlate => rw [judge, if_pos (isComputing_iff.mpr hpending), if_pos hlate]
  | noChanges hcomputed hunavailable hreason =>
    rw [judge, if_neg (mt isComputing_iff.mp hcomputed)]
    simp only [hunavailable, if_true, ofReason_eq_noChanges_iff.mpr hreason]
  | notExecutable hcomputed hunavailable hreason =>
    rw [judge, if_neg (mt isComputing_iff.mp hcomputed)]
    simp only [hunavailable, if_true, ofReason_eq_other_iff.mpr hreason]
  | changes hcomputed havailable =>
    rw [judge, if_neg (mt isComputing_iff.mp hcomputed)]
    simp only [havailable, if_false]

/-- A reply is followed by another look while the change set is computing and there is time. -/
theorem judge_eq_again_iff :
    c.judge ref elapsed reply = .again ↔
      ∃ changeSet, reply = .ok changeSet ∧ IsPending changeSet ∧ elapsed < c.settings.timeout := by
  constructor
  · intro h
    unfold judge at h
    split at h
    · cases h
    next changeSet =>
      split at h
      next hcomputing =>
        split at h
        · cases h
        next hlate => exact ⟨changeSet, rfl, isComputing_iff.mp hcomputing, Nat.lt_of_not_le hlate⟩
      · dsimp only at h
        split at h
        · split at h <;> cases h
        · cases h
  · rintro ⟨changeSet, rfl, hpending, htime⟩
    rw [judge, if_pos (isComputing_iff.mpr hpending), if_neg (Nat.not_le_of_lt htime)]

/-- A review changes neither the stack of the controller nor its change set. -/
theorem keeps_of_judge_eq_over (h : c.judge ref elapsed reply = .over result c') :
    c'.stack = c.stack ∧ c'.changeSet = c.changeSet := by
  cases concludes_of_judge_eq_over h <;> exact ⟨rfl, rfl⟩

/-- A review that finds changes to apply has seen a description that is neither computing nor
unavailable, and those are the changes of that description. -/
theorem changes_of_judge_eq_over {changes : List Change}
    (h : c.judge ref elapsed reply = .over (.ok (.changes changes)) c') :
    ∃ changeSet, reply = .ok changeSet ∧ changeSet.status.isComputing = false ∧
      changeSet.executionStatus ≠ .unavailable ∧ changeSet.changes = changes := by
  cases concludes_of_judge_eq_over h with
  | changes hcomputed havailable =>
    exact ⟨_, rfl, Bool.eq_false_iff.mpr (mt isComputing_iff.mp hcomputed), havailable, rfl⟩

/-- A review that finds changes to apply keeps the creation time of the description. -/
theorem createdAt_of_judge_eq_over {changes : List Change}
    (h : c.judge ref elapsed reply = .over (.ok (.changes changes)) c') :
    ∃ changeSet, reply = .ok changeSet ∧ c'.createdAt = some changeSet.creationTime := by
  cases concludes_of_judge_eq_over h with
  | changes => exact ⟨_, rfl, rfl⟩

/-- A review never fails with the error of an execution. -/
theorem ne_executeFailed_of_judge_eq_over {e : ChangeSetError}
    (h : c.judge ref elapsed reply = .over (.error e) c') (id stack : String) (cause : ApiError) :
    e ≠ .executeFailed id stack cause := by
  cases concludes_of_judge_eq_over h <;> exact nofun

end Controller

/-- The review of a submitted change set finishes with the result that it has come to. -/
theorem Review.phase_of_step_eq_finish {clock : Clock} {review : Review} {ref : ChangeSetRef}
    {result : Except ChangeSetError ReviewOutcome} {controller : Controller}
    (hsubmitted : review.controller.changeSet = some ref)
    (h : review.step clock = .finish (result, controller)) :
    review.phase = .over result ∧ controller = review.controller := by
  rw [step] at h
  cases hphase : review.phase with
  | waiting =>
    simp only [hphase, hsubmitted] at h
    cases h
  | asking ref began =>
    simp only [hphase] at h
    cases h
  | judging ref began reply =>
    simp only [hphase] at h
    split at h <;> cases h
  | pausing ref began deadline =>
    simp only [hphase] at h
    cases h
  | «over» other =>
    simp only [hphase] at h
    cases h
    exact ⟨rfl, rfl⟩

end StackDeploy
