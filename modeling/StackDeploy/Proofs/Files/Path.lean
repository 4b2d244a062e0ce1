import StackDeploy.Files.Tree
import StackDeploy.Proofs.Text.Search

/-!
# Directories around a path

Going from a path to the directory in which it lies, and on from there, ends: every step makes the
path shorter. From the path of a place it leads through all places on the way from the root.

* `Path.Ancestry` — a path and the directories around it, the nearest first.
* `Path.length_parent?` — the path of the directory is shorter.
* `Path.ancestry_ofPlace_iff` — the ancestry of the path of a place.
-/

namespace StackDeploy.Path

open Text

/-- A path and the directories **around** it, the nearest first, up to one that lies in none. -/
inductive Ancestry : String → List String → Prop
  | root {path : String} (hroot : parent? path = none) : Ancestry path [path]
  | up {path parent : String} {around : List String} (hparent : parent? path = some parent)
      (hparents : Ancestry parent around) : Ancestry path (path :: around)

/-- A path has one ancestry. -/
theorem Ancestry.unique {path : String} {around around' : List String} (h : Ancestry path around)
    (h' : Ancestry path around') : around' = around := by
  induction h generalizing around' with
  | root hroot =>
    cases h' with
    | root => rfl
    | up hparent => cases hroot.symm.trans hparent
  | up hparent _ ih =>
    cases h' with
    | root hroot => cases hroot.symm.trans hparent
    | up hparent' hparents' =>
      obtain rfl := Option.some.inj (hparent.symm.trans hparent')
      rw [ih hparents']

/-! ### Names in a path -/

section Names

variable {first : Bool} {piece name : List Char} {pieces rest : List (List Char)}

theorem upToLastName_cons (piece : List Char) (h : upToLastName false rest ≠ []) :
    upToLastName first (piece :: rest) = piece :: upToLastName false rest := by
  rw [upToLastName]
  split
  next hnil => exact absurd hnil h
  next => rfl

theorem upToLastName_cons_of_eq_nil (piece : List Char) (h : upToLastName false rest = []) :
    upToLastName first (piece :: rest) = if isName first piece then [piece] else [] := by
  rw [upToLastName, h]

/-- Nothing is dropped behind a name. -/
theorem upToLastName_append_singleton (pieces : List (List Char)) (h : isName false name = true) :
    upToLastName first (pieces ++ [name]) = pieces ++ [name] := by
  induction pieces generalizing first with
  | nil =>
    have hname : isName first name = true := by
      rw [isName, Bool.false_or, Bool.and_eq_true] at h
      rw [isName, h.1, h.2, Bool.or_true]
      rfl
    exact if_pos hname
  | cons piece rest ih =>
    rw [List.cons_append, upToLastName_cons piece (by simp [ih]), ih]

theorem upToLastName_prefix_self (first : Bool) (pieces : List (List Char)) :
    upToLastName first pieces <+: pieces := by
  induction pieces generalizing first with
  | nil => exact List.prefix_rfl
  | cons piece rest ih =>
    by_cases hrest : upToLastName false rest = []
    · rw [upToLastName_cons_of_eq_nil piece hrest]
      split
      · exact List.prefix_cons_inj piece |>.mpr List.nil_prefix
      · exact List.nil_prefix
    · rw [upToLastName_cons piece hrest]
      exact List.prefix_cons_inj piece |>.mpr (ih false)

/-- The last piece that is kept is not empty. -/
theorem exists_last_of_upToLastName (h : upToLastName first pieces ≠ []) :
    ∃ before last, upToLastName first pieces = before ++ [last] ∧ last ≠ [] := by
  induction pieces generalizing first with
  | nil => exact absurd rfl h
  | cons piece rest ih =>
    by_cases hrest : upToLastName false rest = []
    · rw [upToLastName_cons_of_eq_nil piece hrest] at h ⊢
      split at h
      next hname =>
        refine ⟨[], piece, if_pos hname, ?_⟩
        rintro rfl
        cases hname
      next => exact absurd rfl h
    · obtain ⟨before, last, heq, hlast⟩ := ih hrest
      exact ⟨piece :: before, last, by rw [upToLastName_cons piece hrest, heq]; rfl, hlast⟩

end Names

/-! ### Shorter paths -/

section Parent

variable {path parent : String}

/-- The last name of a path is dropped, and with it what is no name before it. -/
theorem parent?_eq {before : List (List Char)} {last : List Char}
    (h : upToLastName true (splitOnChar '/' path.toList) = before ++ [last]) :
    parent? path = some (match upToLastName true before with
      | [] => if isAbsolute path then "/" else ""
      | kept => String.ofList (joinWith '/' kept)) := by
  rw [parent?, h]
  split
  next hnil => exact absurd hnil (by simp)
  next =>
    rw [List.dropLast_concat]
    cases upToLastName true before <;> rfl

/-- The root lies around a path with a name in it, and is shorter. -/
theorem length_root_lt {c : Char} (hc : c ∈ path.toList) (hne : c ≠ '/') :
    (if isAbsolute path then "/" else "").length < path.length := by
  rw [← String.length_toList (s := path)]
  split
  next habsolute =>
    rw [isAbsolute, decide_eq_true_eq, List.head?_eq_some_iff] at habsolute
    obtain ⟨rest, hrest⟩ := habsolute
    rw [hrest] at hc ⊢
    rcases List.mem_cons.mp hc with rfl | hc
    · exact absurd rfl hne
    · exact Nat.succ_lt_succ (List.length_pos_of_mem hc)
  next => exact List.length_pos_of_mem hc

/-- The path of the directory in which something lies is **shorter**. -/
theorem length_parent? (h : parent? path = some parent) : parent.length < path.length := by
  have hne : upToLastName true (splitOnChar '/' path.toList) ≠ [] := by
    intro hnil
    rw [parent?, hnil] at h
    cases h
  obtain ⟨before, last, heq, hlast⟩ := exists_last_of_upToLastName hne
  have hkept : before ++ [last] <+: splitOnChar '/' path.toList :=
    heq ▸ upToLastName_prefix_self _ _
  rw [parent?_eq heq] at h
  obtain rfl := Option.some.inj h
  split
  next =>
    obtain ⟨c, hc⟩ := List.exists_mem_of_ne_nil last hlast
    have hmem := mem_of_mem_splitOnChar (hkept.subset List.mem_concat_self) hc
    exact length_root_lt hmem.1 hmem.2
  next hne' =>
    have hbefore : before ≠ [] := by
      rintro rfl
      exact hne' rfl
    rw [String.length_ofList]
    calc (joinWith '/' (upToLastName true before)).length
        ≤ (joinWith '/' before).length :=
          length_joinWith_le '/' (upToLastName_prefix_self true before)
      _ < (joinWith '/' (before ++ [last])).length := by
          rw [joinWith_append_singleton '/' last hbefore, List.length_append]
          exact Nat.lt_add_of_pos_right (Nat.succ_pos _)
      _ ≤ (joinWith '/' (splitOnChar '/' path.toList)).length := length_joinWith_le '/' hkept
      _ = path.length := by rw [joinWith_splitOnChar, String.length_toList]

end Parent

/-! ### Places -/

/-- What can be the **name** of something in a directory. -/
structure IsFileName (name : String) : Prop where
  isName : isName false name.toList = true
  not_mem : '/' ∉ name.toList

/-- The **path of a place**, from the root. -/
def ofPlace (place : Place) : String :=
  if place = [] then "/" else String.ofList (place.flatMap fun name => '/' :: name.toList)

section Places

variable {place : Place} {name : String}

theorem splitOnChar_ofPlace (hne : place ≠ []) (h : ∀ n ∈ place, IsFileName n) :
    splitOnChar '/' (ofPlace place).toList = [] :: place.map String.toList := by
  have hpieces : ∀ piece ∈ place.map String.toList, '/' ∉ piece := by
    intro piece hpiece
    obtain ⟨name, hname, rfl⟩ := List.mem_map.mp hpiece
    exact (h name hname).not_mem
  rw [ofPlace, if_neg hne, String.toList_ofList, ← splitOnChar_flatMap hpieces, List.flatMap_map]

theorem joinWith_names (hne : place ≠ []) (h : ∀ n ∈ place, IsFileName n) :
    String.ofList (joinWith '/' ([] :: place.map String.toList)) = ofPlace place := by
  rw [← splitOnChar_ofPlace hne h, joinWith_splitOnChar, String.ofList_toList]

theorem isAbsolute_ofPlace (place : Place) : isAbsolute (ofPlace place) = true := by
  cases place with
  | nil => rfl
  | cons name rest => rw [isAbsolute, ofPlace, if_neg (List.cons_ne_nil _ _)]; simp

/-- A place of one name or more keeps all of its pieces. -/
theorem upToLastName_names (hne : place ≠ []) (h : ∀ n ∈ place, IsFileName n) :
    upToLastName true ([] :: place.map String.toList) = [] :: place.map String.toList := by
  obtain ⟨before, last, rfl⟩ := List.eq_nil_or_concat' place |>.resolve_left hne
  rw [List.map_append, List.map_singleton, ← List.cons_append]
  exact upToLastName_append_singleton _ (h last List.mem_concat_self).isName

/-- The path **without its last name** is the path of the place without it. -/
theorem parent?_ofPlace (h : ∀ n ∈ place ++ [name], IsFileName n) :
    parent? (ofPlace (place ++ [name])) = some (ofPlace place) := by
  have hne : place ++ [name] ≠ [] := by simp
  have hplace : ∀ n ∈ place, IsFileName n := fun n hn => h n (List.mem_append_left _ hn)
  have hkept : upToLastName true (splitOnChar '/' (ofPlace (place ++ [name])).toList)
      = ([] :: place.map String.toList) ++ [name.toList] := by
    rw [splitOnChar_ofPlace hne h, upToLastName_names hne h, List.map_append, List.map_singleton,
      List.cons_append]
  rw [parent?_eq hkept, isAbsolute_ofPlace]
  by_cases hnil : place = []
  · subst hnil
    rfl
  · rw [upToLastName_names hnil hplace]
    exact congrArg some (joinWith_names hnil hplace)

theorem ancestry_ofPlace (h : ∀ n ∈ place, IsFileName n) :
    Ancestry (ofPlace place) (place.inits.reverse.map ofPlace) := by
  induction place using List.reverseRecOn with
  | nil => exact .root rfl
  | append_singleton place name ih =>
    have hplace : ∀ n ∈ place, IsFileName n := fun n hn => h n (List.mem_append_left _ hn)
    have hinits : (place ++ [name]).inits.reverse = (place ++ [name]) :: place.inits.reverse := by
      rw [List.inits_append]
      simp
    rw [hinits, List.map_cons]
    exact .up (parent?_ofPlace h) (ih hplace)

/-- **Around a place** lie the places on the way from the root, and nothing else. -/
theorem ancestry_ofPlace_iff (h : ∀ n ∈ place, IsFileName n) {around : List String} :
    Ancestry (ofPlace place) around ↔ around = place.inits.reverse.map ofPlace :=
  ⟨fun haround => (ancestry_ofPlace h).unique haround, fun heq => heq ▸ ancestry_ofPlace h⟩

end Places

end StackDeploy.Path
