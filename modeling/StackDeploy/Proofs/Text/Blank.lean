import Mathlib.Data.List.TakeWhile
import StackDeploy.Text.Blank

/-!
# What is left after trimming

Trimming leaves the part of a text that has only blanks around it and none at its ends.

* `Text.TrimsTo` — that part, said without the functions that find it.
* `Text.trimChars_eq_iff` — trimming finds it.
-/

namespace StackDeploy.Text

variable {cs trimmed left right rest : List Char}

/-- A text is **trimmed to** a part of it: only blanks stand around that part, and it neither begins
nor ends with one. -/
structure TrimsTo (cs trimmed : List Char) : Prop where
  around : ∃ left right, cs = left ++ trimmed ++ right ∧
    (∀ c ∈ left, isBlank c = true) ∧ ∀ c ∈ right, isBlank c = true
  begins : ∀ c ∈ trimmed.head?, isBlank c = false
  ends : ∀ c ∈ trimmed.getLast?, isBlank c = false

/-- Blanks in front are dropped. -/
theorem trimStart_append (hleft : ∀ c ∈ left, isBlank c = true)
    (hrest : ∀ c ∈ rest.head?, isBlank c = false) : trimStart (left ++ rest) = rest := by
  rw [trimStart, List.dropWhile_append_of_pos hleft]
  cases rest with
  | nil => rfl
  | cons c rest => exact List.dropWhile_cons_of_neg (by simp [hrest c rfl])

/-- Nothing but blanks in front is dropped. -/
theorem exists_trimStart (cs : List Char) : ∃ left, cs = left ++ trimStart cs ∧
    (∀ c ∈ left, isBlank c = true) ∧ ∀ c ∈ (trimStart cs).head?, isBlank c = false := by
  refine ⟨cs.takeWhile isBlank, List.takeWhile_append_dropWhile.symm,
    fun c hc => List.mem_takeWhile_imp hc, fun c hc => ?_⟩
  have hhead := List.head?_dropWhile_not isBlank cs
  rw [trimStart] at hc
  rw [Option.mem_def.mp hc] at hhead
  exact hhead

theorem trimsTo_trimChars (cs : List Char) : TrimsTo cs (trimChars cs) := by
  obtain ⟨left, hleft, hblank, hbegins⟩ := exists_trimStart cs
  obtain ⟨right, hright, hblank', hends⟩ := exists_trimStart (trimStart cs).reverse
  have hstart : trimStart cs = trimChars cs ++ right.reverse := by
    rw [trimChars, ← List.reverse_append, ← hright, List.reverse_reverse]
  refine ⟨⟨left, right.reverse, ?_, hblank, by simpa using hblank'⟩, fun c hc => ?_, ?_⟩
  · rw [List.append_assoc, ← hstart]
    exact hleft
  · refine hbegins c ?_
    rw [hstart, List.head?_append, Option.mem_def.mp hc]
    rfl
  · rwa [trimChars, List.getLast?_reverse]

/-- Trimming leaves **what a text is trimmed to**. -/
theorem trimChars_eq_iff : trimChars cs = trimmed ↔ TrimsTo cs trimmed := by
  refine ⟨fun h => h ▸ trimsTo_trimChars cs, fun h => ?_⟩
  obtain ⟨left, right, rfl, hleft, hright⟩ := h.around
  cases trimmed with
  | nil =>
    -- the text is blank
    have hall : ∀ c ∈ left ++ right, isBlank c = true := fun c hc =>
      (List.mem_append.mp hc).elim (hleft c) (hright c)
    have hnil : trimStart (left ++ right ++ []) = [] := trimStart_append hall nofun
    rw [trimChars, List.append_nil, ← List.append_nil (left ++ right), hnil]
    rfl
  | cons d ds =>
    have hstart : trimStart (left ++ (d :: ds ++ right)) = d :: ds ++ right :=
      trimStart_append hleft fun c hc => h.begins c hc
    have hend : trimStart (right.reverse ++ (d :: ds).reverse) = (d :: ds).reverse := by
      refine trimStart_append (by simpa using hright) fun c hc => h.ends c ?_
      rwa [List.head?_reverse] at hc
    rw [trimChars, List.append_assoc, hstart, List.reverse_append, hend, List.reverse_reverse]

end StackDeploy.Text
