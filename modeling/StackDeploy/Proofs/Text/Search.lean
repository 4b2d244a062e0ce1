import Mathlib.Data.List.Infix
import StackDeploy.Text.Search

/-!
# What a search finds

Searching from the left finds the first occurrence of a pattern, and it finds one if there is any.
Splitting at a separator leaves what stands behind the last one as the last piece.

* `Text.occursIn_iff` — the pattern stands somewhere in the text.
* `Text.CutsAt` — a text around the first occurrence of a pattern.
* `Text.cutAt_eq_some_iff`, `Text.cutAt_eq_none_iff` — what the search for it yields.
* `Text.splitOnChar_append` — the last piece of a text, and the pieces before it.
* `Text.mem_of_mem_splitOnChar` — no piece holds a separator.
* `Text.joinWith_splitOnChar` — the pieces of a text join to it.
-/

namespace StackDeploy.Text

variable {pattern cs before after : List Char}

theorem occurs_iff : occurs pattern cs = true ↔ pattern <:+: cs := by
  induction cs with
  | nil => rw [occurs, List.isPrefixOf_iff_prefix, List.prefix_nil, List.infix_nil]
  | cons c cs ih =>
    rw [occurs, Bool.or_eq_true, List.isPrefixOf_iff_prefix, ih, List.infix_cons_iff]

theorem occursIn_iff {s pattern : String} :
    occursIn s pattern = true ↔ pattern.toList <:+: s.toList :=
  occurs_iff

/-- A text is what stands before and after the **first occurrence** of a pattern, and the pattern
between them. -/
structure CutsAt (pattern cs before after : List Char) : Prop where
  eq : cs = before ++ pattern ++ after
  /-- The pattern begins nowhere earlier. -/
  first : ∀ other rest, cs = other ++ pattern ++ rest → before.length ≤ other.length

namespace CutsAt

theorem occurs (h : CutsAt pattern cs before after) : pattern <:+: cs :=
  ⟨before, after, h.eq.symm⟩

/-- There is one first occurrence. -/
theorem unique {before' after' : List Char} (h : CutsAt pattern cs before after)
    (h' : CutsAt pattern cs before' after') : before' = before ∧ after' = after := by
  have hlength : before'.length = before.length :=
    Nat.le_antisymm (h'.first _ _ h.eq) (h.first _ _ h'.eq)
  have heq := h'.eq.symm.trans h.eq
  rw [List.append_assoc, List.append_assoc] at heq
  obtain ⟨hbefore, hrest⟩ := List.append_inj heq hlength
  exact ⟨hbefore, List.append_cancel_left hrest⟩

/-- A pattern that begins the text occurs there first. -/
theorem of_starts (h : pattern <+: cs) : CutsAt pattern cs [] (cs.drop pattern.length) := by
  refine ⟨?_, fun _ _ _ => Nat.zero_le _⟩
  obtain ⟨rest, rfl⟩ := h
  rw [List.drop_left, List.nil_append]

/-- A pattern that does not begin the text occurs first where it does in the rest of the text. -/
theorem cons {c : Char} (h : CutsAt pattern cs before after) (hne : ¬ pattern <+: c :: cs) :
    CutsAt pattern (c :: cs) (c :: before) after := by
  refine ⟨by rw [h.eq]; rfl, fun other rest hother => ?_⟩
  cases other with
  | nil => exact absurd ⟨rest, hother.symm⟩ hne
  | cons d other => exact Nat.succ_le_succ (h.first other rest (List.cons.inj hother).2)

end CutsAt

theorem cutsAt_of_cutAt (h : cutAt pattern cs = some (before, after)) :
    CutsAt pattern cs before after := by
  induction cs generalizing before with
  | nil =>
    rw [cutAt] at h
    split at h
    next hstarts =>
      cases h
      simpa using CutsAt.of_starts (List.isPrefixOf_iff_prefix.mp hstarts)
    · cases h
  | cons c cs ih =>
    rw [cutAt] at h
    split at h
    next hstarts =>
      cases h
      exact .of_starts (List.isPrefixOf_iff_prefix.mp hstarts)
    next hstarts =>
      obtain ⟨⟨before', after'⟩, hcut, heq⟩ := Option.map_eq_some_iff.mp h
      cases heq
      exact (ih hcut).cons fun hp => hstarts (List.isPrefixOf_iff_prefix.mpr hp)

/-- The search fails if the pattern does not occur, and only then. -/
theorem cutAt_eq_none_iff : cutAt pattern cs = none ↔ ¬ pattern <:+: cs := by
  induction cs with
  | nil => simp [cutAt]
  | cons c cs ih =>
    rw [cutAt, List.infix_cons_iff, not_or, ← List.isPrefixOf_iff_prefix]
    split
    next hstarts => simp [hstarts]
    next hstarts => simp [hstarts, ih]

/-- The search finds the **first occurrence**. -/
theorem cutAt_eq_some_iff :
    cutAt pattern cs = some (before, after) ↔ CutsAt pattern cs before after := by
  refine ⟨cutsAt_of_cutAt, fun h => ?_⟩
  cases hcut : cutAt pattern cs with
  | none => exact absurd h.occurs (cutAt_eq_none_iff.mp hcut)
  | some found =>
    obtain ⟨rfl, rfl⟩ := (cutsAt_of_cutAt hcut).unique h
    rfl

theorem exists_cutsAt (h : pattern <:+: cs) : ∃ before after, CutsAt pattern cs before after := by
  cases hcut : cutAt pattern cs with
  | none => exact absurd h (cutAt_eq_none_iff.mp hcut)
  | some found => exact ⟨found.1, found.2, cutsAt_of_cutAt hcut⟩

/-! ### Pieces -/

section Pieces

variable {sep : Char} {piece : List Char}

/-- A text with a separator has a last one. -/
theorem exists_last_of_mem (h : sep ∈ cs) : ∃ before piece, cs = before ++ sep :: piece ∧
    sep ∉ piece := by
  obtain ⟨after, before, heq, hnot⟩ := List.eq_append_cons_of_mem (List.mem_reverse.mpr h)
  refine ⟨before.reverse, after.reverse, ?_, by rwa [List.mem_reverse]⟩
  rw [← List.reverse_reverse cs, heq, List.reverse_append, List.reverse_cons, List.append_assoc,
    List.singleton_append]

theorem splitOnChar_of_not_mem (h : sep ∉ cs) : splitOnChar sep cs = [cs] := by
  induction cs with
  | nil => rfl
  | cons c cs ih =>
    rw [List.mem_cons, not_or] at h
    rw [splitOnChar, ih h.2]
    exact if_neg (Ne.symm h.1)

/-- What stands behind the last separator is the last piece. -/
theorem splitOnChar_append (before : List Char) (h : sep ∉ piece) :
    splitOnChar sep (before ++ sep :: piece) = splitOnChar sep before ++ [piece] := by
  induction before with
  | nil => simp [splitOnChar, splitOnChar_of_not_mem h]
  | cons c cs ih =>
    rw [List.cons_append, splitOnChar, ih, splitOnChar]
    cases hsplit : splitOnChar sep cs with
    | nil => exact absurd hsplit (splitOnChar_ne_nil sep cs)
    | cons p rest =>
      simp only [List.cons_append]
      split <;> rfl

/-- The pieces of a text hold its characters but for the separators. -/
theorem mem_of_mem_splitOnChar {c : Char} (h : piece ∈ splitOnChar sep cs) (hc : c ∈ piece) :
    c ∈ cs ∧ c ≠ sep := by
  induction cs generalizing piece with
  | nil => exact absurd (List.mem_singleton.mp h ▸ hc) List.not_mem_nil
  | cons d cs ih =>
    rw [splitOnChar] at h
    cases hsplit : splitOnChar sep cs with
    | nil => exact absurd hsplit (splitOnChar_ne_nil sep cs)
    | cons first rest =>
      have hrest : ∀ p ∈ first :: rest, c ∈ p → c ∈ d :: cs ∧ c ≠ sep := fun p hp hcp =>
        (ih (hsplit ▸ hp) hcp).imp_left (List.mem_cons_of_mem d)
      simp only [hsplit] at h
      split at h
      · rcases List.mem_cons.mp h with rfl | hp
        · exact absurd hc List.not_mem_nil
        · exact hrest piece hp hc
      next hne =>
        rcases List.mem_cons.mp h with rfl | hp
        · rcases List.mem_cons.mp hc with rfl | hc
          · exact ⟨List.mem_cons_self, hne⟩
          · exact hrest first List.mem_cons_self hc
        · exact hrest piece (List.mem_cons_of_mem _ hp) hc

/-- A text in which every piece has a separator before it. -/
theorem splitOnChar_flatMap {pieces : List (List Char)} (h : ∀ piece ∈ pieces, sep ∉ piece) :
    splitOnChar sep (pieces.flatMap (sep :: ·)) = [] :: pieces := by
  induction pieces using List.reverseRecOn with
  | nil => rfl
  | append_singleton pieces piece ih =>
    obtain ⟨hpieces, hpiece⟩ := List.forall_mem_append.mp h
    have hlast := splitOnChar_append (pieces.flatMap (sep :: ·)) (hpiece piece List.mem_cons_self)
    rw [ih hpieces] at hlast
    rw [List.flatMap_append, List.flatMap_singleton, hlast, List.cons_append]

/-! ### Joining pieces -/

theorem joinWith_cons (sep : Char) (piece : List Char) {pieces : List (List Char)}
    (h : pieces ≠ []) : joinWith sep (piece :: pieces) = piece ++ sep :: joinWith sep pieces := by
  cases pieces with
  | nil => exact absurd rfl h
  | cons => rfl

/-- The pieces of a text **join** to it. -/
theorem joinWith_splitOnChar (sep : Char) (cs : List Char) :
    joinWith sep (splitOnChar sep cs) = cs := by
  induction cs with
  | nil => rfl
  | cons c cs ih =>
    rw [splitOnChar]
    cases hsplit : splitOnChar sep cs with
    | nil => exact absurd hsplit (splitOnChar_ne_nil sep cs)
    | cons first rest =>
      rw [hsplit] at ih
      dsimp only
      split
      next hsep => rw [joinWith_cons sep [] (List.cons_ne_nil _ _), ih, hsep, List.nil_append]
      next => cases rest <;> rw [← ih] <;> rfl

theorem joinWith_append_singleton (sep : Char) (piece : List Char) {pieces : List (List Char)}
    (h : pieces ≠ []) :
    joinWith sep (pieces ++ [piece]) = joinWith sep pieces ++ sep :: piece := by
  induction pieces with
  | nil => exact absurd rfl h
  | cons first rest ih =>
    cases rest with
    | nil => rfl
    | cons second rest =>
      rw [List.cons_append, joinWith_cons _ _ (by simp), ih (List.cons_ne_nil _ _),
        joinWith_cons _ _ (List.cons_ne_nil _ _), List.append_assoc, List.cons_append]

/-- Fewer pieces do not join to a longer text. -/
theorem length_joinWith_le (sep : Char) {fewer pieces : List (List Char)} (h : fewer <+: pieces) :
    (joinWith sep fewer).length ≤ (joinWith sep pieces).length := by
  obtain ⟨more, rfl⟩ := h
  induction more using List.reverseRecOn with
  | nil => rw [List.append_nil]
  | append_singleton more piece ih =>
    refine ih.trans ?_
    rw [← List.append_assoc]
    by_cases hnil : fewer ++ more = []
    · rw [hnil]
      exact Nat.zero_le _
    · rw [joinWith_append_singleton sep piece hnil, List.length_append]
      exact Nat.le_add_right _ _

end Pieces

end StackDeploy.Text
