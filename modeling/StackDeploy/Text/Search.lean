/-!
# Searching in text

Prefix, suffix and occurrence tests, and splitting at the first occurrence of a pattern, on lists
of characters. The tests on strings used by the status rules are defined through them.

* `occursIn` — a pattern stands somewhere in a text.
* `cutAt` — the part before the first occurrence of a pattern, and the part after it.
* `splitOnChar`, `joinWith` — the pieces between separator characters, and putting them together.
-/

namespace StackDeploy.Text

/-- The text ends in the given suffix. -/
def endsIn (s suffix : String) : Bool :=
  suffix.toList.isSuffixOf s.toList

/-- The pattern stands somewhere in the list of characters. -/
def occurs (pattern : List Char) : List Char → Bool
  | [] => pattern.isPrefixOf []
  | c :: cs => pattern.isPrefixOf (c :: cs) || occurs pattern cs

/-- The pattern stands somewhere in the text. -/
def occursIn (s pattern : String) : Bool :=
  occurs pattern.toList s.toList

/-- The text before the **first occurrence** of the pattern and the text after it, or nothing when
the pattern does not occur. -/
def cutAt (pattern : List Char) : List Char → Option (List Char × List Char)
  | [] => if pattern.isPrefixOf [] then some ([], []) else none
  | c :: cs =>
    if pattern.isPrefixOf (c :: cs) then some ([], (c :: cs).drop pattern.length)
    else (cutAt pattern cs).map fun (before, after) => (c :: before, after)

/-- What stands before the pattern, the pattern and what stands after it are as long as the text. -/
theorem length_of_cutAt {pattern cs before after : List Char}
    (h : cutAt pattern cs = some (before, after)) :
    before.length + pattern.length + after.length = cs.length := by
  induction cs generalizing before with
  | nil =>
    rw [cutAt] at h
    split at h
    next hstarts =>
      cases h
      rw [List.prefix_nil.mp (List.isPrefixOf_iff_prefix.mp hstarts)]
      rfl
    next => cases h
  | cons c cs ih =>
    rw [cutAt] at h
    split at h
    next hstarts =>
      cases h
      have hle := (List.isPrefixOf_iff_prefix.mp hstarts).length_le
      rw [List.length_nil, Nat.zero_add, List.length_drop, Nat.add_sub_cancel' hle]
    next =>
      obtain ⟨⟨earlier, rest⟩, hcut, heq⟩ := Option.map_eq_some_iff.mp h
      cases heq
      have hlength := ih hcut
      rw [List.length_cons, List.length_cons]
      omega

/-- The pieces of a text between single separator characters; there is always at least one. -/
def splitOnChar (sep : Char) : List Char → List (List Char)
  | [] => [[]]
  | c :: cs =>
    match splitOnChar sep cs with
    | [] => [[c]]
    | piece :: rest => if c = sep then [] :: piece :: rest else (c :: piece) :: rest

/-- Pieces joined by a separator character. -/
def joinWith (sep : Char) : List (List Char) → List Char
  | [] => []
  | [piece] => piece
  | piece :: rest => piece ++ sep :: joinWith sep rest

theorem splitOnChar_ne_nil (sep : Char) (cs : List Char) : splitOnChar sep cs ≠ [] := by
  cases cs with
  | nil => simp [splitOnChar]
  | cons c cs =>
    simp only [splitOnChar]
    split
    · simp
    · split <;> simp

end StackDeploy.Text
