import Mathlib.Data.List.Infix
import StackDeploy.Stack.Status

/-!
# The classes of stack statuses

A status is a success, a failure or neither, and never both. Statuses that are not listed are judged
by the ends of their texts, and the listed ones come to the same.

* `StackStatus.isSuccess_eq_false` — a failure is no success.
* `StackStatus.isTerminal_other` — which unlisted statuses are terminal.
* `StackStatus.IsJudged` — the classes of a status as the ends of a text tell them.
* `StackStatus.judged_by_text` — every status is judged by its text, which reading keeps.
-/

namespace StackDeploy

namespace Text

theorem endsIn_iff {s suffix : String} : endsIn s suffix = true ↔ suffix.toList <:+ s.toList := by
  rw [endsIn, List.isSuffixOf_iff_suffix]

/-- A text that ends in a suffix ends in the end of that suffix. -/
theorem endsIn_of_endsIn {s suffix tail : String} (h : endsIn s suffix = true)
    (htail : endsIn suffix tail = true) : endsIn s tail = true :=
  endsIn_iff.mpr ((endsIn_iff.mp htail).trans (endsIn_iff.mp h))

/-- Of two suffixes of a text one ends in the other. -/
theorem endsIn_or_endsIn {s first second : String} (h : endsIn s first = true)
    (h' : endsIn s second = true) : endsIn first second = true ∨ endsIn second first = true := by
  rw [endsIn_iff, endsIn_iff]
  exact (List.suffix_or_suffix_of_suffix (endsIn_iff.mp h) (endsIn_iff.mp h')).symm

end Text

namespace StackStatus

open Text

variable {status : StackStatus}

/-- A status that is a failure is no success. -/
theorem isSuccess_eq_false (h : status.isFailure = true) : status.isSuccess = false := by
  cases status with
  | other text =>
    rw [isFailure, Bool.or_eq_true] at h
    rw [isSuccess, Bool.and_eq_false_iff, Bool.not_eq_false']
    rcases h with hfailed | hrolledBack
    · refine .inl (Bool.eq_false_iff.mpr fun hcomplete => ?_)
      rcases endsIn_or_endsIn hfailed hcomplete with hends | hends
      · exact absurd hends (by decide)
      · exact absurd hends (by decide)
    · exact .inr hrolledBack
  | _ => first | rfl | cases h

/-- A terminal status is a failure if it is no success. -/
theorem isFailure_eq (h : status.isTerminal = true) : status.isFailure = !status.isSuccess := by
  cases hsuccess : status.isSuccess with
  | true =>
    cases hfailure : status.isFailure with
    | true => exact absurd ((isSuccess_eq_false hfailure).symm.trans hsuccess) nofun
    | false => rfl
  | false => rwa [isTerminal, hsuccess, Bool.false_or] at h

theorem isTerminal_of_isFailure (h : status.isFailure = true) : status.isTerminal = true := by
  rw [isTerminal, h, Bool.or_true]

/-- **Unlisted statuses** are terminal when they end like a failed or a completed operation, and
only then. -/
theorem isTerminal_other (text : String) :
    (other text).isTerminal = (endsIn text "_FAILED" || endsIn text "_COMPLETE") := by
  rw [isTerminal, isSuccess, isFailure]
  cases hrolledBack : endsIn text "ROLLBACK_COMPLETE" with
  | false => rw [Bool.not_false, Bool.and_true, Bool.or_false, Bool.or_comm]
  | true =>
    have hcomplete : endsIn text "_COMPLETE" = true := endsIn_of_endsIn hrolledBack (by decide)
    rw [hcomplete, Bool.or_true, Bool.or_true]

/-! ### One rule for all statuses -/

/-- A status is **judged** by the ends of a text. -/
structure IsJudged (status : StackStatus) (text : String) : Prop where
  isSuccess_iff : status.isSuccess = true ↔
    "_COMPLETE".toList <:+ text.toList ∧ ¬ "ROLLBACK_COMPLETE".toList <:+ text.toList
  isFailure_iff : status.isFailure = true ↔
    "_FAILED".toList <:+ text.toList ∨ "ROLLBACK_COMPLETE".toList <:+ text.toList
  isTerminal_iff : status.isTerminal = true ↔
    "_COMPLETE".toList <:+ text.toList ∨ "_FAILED".toList <:+ text.toList

theorem isJudged_other (text : String) : (other text).IsJudged text where
  isSuccess_iff := by
    rw [isSuccess, Bool.and_eq_true, Bool.not_eq_true', Bool.eq_false_iff, ne_eq, endsIn_iff,
      endsIn_iff]
  isFailure_iff := by rw [isFailure, Bool.or_eq_true, endsIn_iff, endsIn_iff]
  isTerminal_iff := by rw [isTerminal_other, Bool.or_eq_true, endsIn_iff, endsIn_iff, or_comm]

/-- A listed status has the classes that its text has when it is not listed. -/
theorem classes_other_text (status : StackStatus) :
    (other status.text).isSuccess = status.isSuccess ∧
      (other status.text).isFailure = status.isFailure := by
  cases status with
  | other => exact ⟨rfl, rfl⟩
  | _ => decide

theorem isJudged_text (status : StackStatus) : status.IsJudged status.text := by
  obtain ⟨hsuccess, hfailure⟩ := classes_other_text status
  have hother := isJudged_other status.text
  have hterminal : (other status.text).isTerminal = status.isTerminal := by
    rw [isTerminal, hsuccess, hfailure, isTerminal]
  exact ⟨hsuccess ▸ hother.isSuccess_iff, hfailure ▸ hother.isFailure_iff,
    hterminal ▸ hother.isTerminal_iff⟩

/-- Statuses are **kept as they came and judged by their texts**. Reading a text and writing it
again gives the text back, so no two texts are read as the same status. What the ends of a text tell
holds of the status that it is read as, of the same text when it is kept as unlisted, and of every
status and its text; and nothing is both a success and a failure. -/
theorem judged_by_text :
    (∀ s, (ofText s).text = s ∧ toString (ofText s) = s ∧ (ofText s).IsJudged s ∧
      (other s).IsJudged s) ∧
    Function.Injective ofText ∧
    ∀ status : StackStatus, status.IsJudged status.text ∧
      ¬ (status.isSuccess = true ∧ status.isFailure = true) := by
  refine ⟨fun s => ?_, Function.LeftInverse.injective text_ofText, fun status => ?_⟩
  · have hread := isJudged_text (ofText s)
    rw [text_ofText] at hread
    exact ⟨text_ofText s, text_ofText s, hread, isJudged_other s⟩
  · refine ⟨isJudged_text status, fun ⟨hsuccess, hfailure⟩ => ?_⟩
    exact absurd ((isSuccess_eq_false hfailure).symm.trans hsuccess) nofun

end StackStatus

end StackDeploy
