import StackDeploy.Progress.Display

/-!
# The list of proposed changes

What is written about a change set before it is executed leaves nothing out: after a heading it has
one line for each change, in their order, and the line tells what is done to which resource.

* `Change.ToldBy` — a line tells a change.
* `ListsChanges` — a text lists the changes of a stack.
* `listsChanges_iff` — the proposal is the text that does.
-/

namespace StackDeploy

/-! ### Lines -/

/-- The sign that **stands for** an action. -/
inductive ChangeAction.Signed : ChangeAction → String → Prop
  | add : Signed .add "+"
  | modify : Signed .modify "~"
  | remove : Signed .remove "-"
  | imports : Signed .imports "<"
  | dynamic : Signed .dynamic "?"

/-- A line **tells** a change: the sign of its action, the resource and its type, and whether the
resource is replaced. -/
inductive Change.ToldBy (c : Change) : String → Prop
  | inPlace {sign : String} (hsign : c.action.Signed sign) (hreplacement : c.replacement = false) :
      ToldBy c ("  " ++ sign ++ " " ++ c.logicalId ++ " (" ++ c.resourceType ++ ")")
  | replacing {sign : String} (hsign : c.action.Signed sign) (hreplacement : c.replacement = true) :
      ToldBy c
        ("  " ++ sign ++ " " ++ c.logicalId ++ " (" ++ c.resourceType ++ ")" ++ " [replacement]")

/-- A text **tells** changes: a line for each of them, in their order, and nothing else. -/
inductive TellsChanges : List Change → String → Prop
  | nil : TellsChanges [] ""
  | cons {c : Change} {changes : List Change} {line rest : String} (hline : c.ToldBy line)
      (hrest : TellsChanges changes rest) : TellsChanges (c :: changes) (line ++ "\n" ++ rest)

/-- A text **lists** the changes of a stack: under a heading that names the stack it tells all of
them, and if there are none, it says so. -/
inductive ListsChanges (stack : String) : List Change → String → Prop
  | empty : ListsChanges stack [] ("No resource changes proposed for stack " ++ stack ++ "\n")
  | under {changes : List Change} {lines : String} (hne : changes ≠ [])
      (hlines : TellsChanges changes lines) :
      ListsChanges stack changes ("Proposed changes for stack " ++ stack ++ ":\n" ++ lines)

/-! ### The proposal -/

theorem ChangeAction.signed_iff {action : ChangeAction} {sign : String} :
    action.Signed sign ↔ sign = action.marker := by
  constructor
  · rintro ⟨⟩ <;> rfl
  · rintro rfl
    cases action <;> constructor

/-- One line **tells** a change. -/
theorem Change.toldBy_iff {c : Change} {line : String} : c.ToldBy line ↔ line = c.line := by
  have hsign : c.action.Signed c.action.marker := ChangeAction.signed_iff.mpr rfl
  rw [Change.line]
  constructor
  · rintro (⟨hother, hreplacement⟩ | ⟨hother, hreplacement⟩)
    · rw [ChangeAction.signed_iff.mp hother, hreplacement, if_neg Bool.false_ne_true,
        String.append_empty]
    · rw [ChangeAction.signed_iff.mp hother, hreplacement, if_pos rfl]
  · rintro rfl
    cases hreplacement : c.replacement with
    | true => exact .replacing hsign hreplacement
    | false =>
      rw [if_neg Bool.false_ne_true, String.append_empty]
      exact .inPlace hsign hreplacement

theorem tellsChanges_iff {changes : List Change} {text : String} :
    TellsChanges changes text ↔ text = ProgressTree.unlines (changes.map Change.line) := by
  induction changes generalizing text with
  | nil =>
    constructor
    · rintro ⟨⟩
      rfl
    · rintro rfl
      exact .nil
  | cons c changes ih =>
    constructor
    · rintro (_ | ⟨hline, hrest⟩)
      rw [Change.toldBy_iff.mp hline, ih.mp hrest]
      rfl
    · rintro rfl
      exact .cons (Change.toldBy_iff.mpr rfl) (ih.mpr rfl)

/-- The **proposal** is the text that lists the changes. -/
theorem listsChanges_iff {stack : String} {changes : List Change} {text : String} :
    ListsChanges stack changes text ↔ text = proposal stack changes := by
  rw [proposal]
  constructor
  · rintro (_ | ⟨hne, hlines⟩)
    · rfl
    · rw [tellsChanges_iff.mp hlines, if_neg (by simpa using hne)]
  · rintro rfl
    cases changes with
    | nil => exact .empty
    | cons c changes => exact .under (List.cons_ne_nil c changes) (tellsChanges_iff.mpr rfl)

end StackDeploy
