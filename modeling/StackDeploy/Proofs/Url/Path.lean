import StackDeploy.Proofs.Text.Percent
import StackDeploy.Proofs.Text.Search
import StackDeploy.Url.Parser

/-!
# Paths of URLs

A piece that is appended to the path of a URL is written so that it is one piece of the printed path
and can be read back, and pieces that were read from a text are written like that as well.

* `Url.append_eq` — what is appended for a piece.
* `Url.appendAll_eq` — the path after several pieces: the stem of the one before, and the pieces.
* `Url.IsPieceChar` — the characters of pieces; `Url.isPrintable_readPath` for pieces that are read.
* `Url.splitOnChar_printPath`, `Url.path_eq_of_print_eq` — a printed path can be taken apart.
-/

namespace StackDeploy.Url

open Text

/-! ### Appended pieces -/

/-- A piece that **can be appended**: it does not stand for a place, and no character of it is
dropped. -/
structure IsPlain (piece : String) : Prop where
  ne_here : piece ≠ "."
  ne_above : piece ≠ ".."
  kept : ∀ c ∈ piece.toList, isDropped c = false

instance (piece : String) : Decidable (IsPlain piece) :=
  decidable_of_iff
    (piece ≠ "." ∧ piece ≠ ".." ∧ piece.toList.all (fun c => !isDropped c) = true)
    ⟨fun ⟨hhere, habove, hkept⟩ => ⟨hhere, habove, by simpa using hkept⟩,
      fun h => ⟨h.ne_here, h.ne_above, by simpa using h.kept⟩⟩

/-- A piece as it is **written** in the path of a URL. -/
def written (u : Url) (piece : String) : List Char :=
  Percent.encode (keptInPiece (isSpecial u.scheme)) piece.toList

theorem keptInPiece_percent (special : Bool) : keptInPiece special '%' = false := by
  cases special <;> decide

/-- A written piece can be **read back**. -/
theorem decode?_written (u : Url) (piece : String) :
    Utf8.decode? (Percent.decode (u.written piece)) = some piece :=
  Percent.decode?_decode_encode (keptInPiece_percent _) piece

theorem written_injective (u : Url) : Function.Injective u.written := fun piece other h =>
  Option.some.inj ((decode?_written u piece).symm.trans (h ▸ decode?_written u other))

theorem written_ne_nil (u : Url) {piece : String} (h : piece ≠ "") : u.written piece ≠ [] :=
  fun hnil => h (u.written_injective hnil)

/-- Only a dot is written like a dot: percent signs of a piece are encoded, so nothing else can turn
into one. -/
theorem isHere_written (u : Url) {piece : String} (h : piece ≠ ".") :
    isHere (u.written piece) = false := by
  have hdots : ∀ d ∈ dots, Utf8.decode? (Percent.decode d) = some "." := by decide
  refine Bool.eq_false_iff.mpr fun hhere => h ?_
  have hread := hdots _ (List.contains_iff_mem.mp hhere)
  exact Option.some.inj ((decode?_written u piece).symm.trans hread)

@[inherit_doc isHere_written]
theorem isAbove_written (u : Url) {piece : String} (h : piece ≠ "..") :
    isAbove (u.written piece) = false := by
  have hdots : ∀ a ∈ dots, ∀ b ∈ dots, Utf8.decode? (Percent.decode (a ++ b)) = some ".." := by
    decide
  refine Bool.eq_false_iff.mpr fun habove => h ?_
  obtain ⟨a, ha, hany⟩ := List.any_eq_true.mp habove
  obtain ⟨b, hb, heq⟩ := List.any_eq_true.mp hany
  have hread := hdots a ha b hb
  rw [← of_decide_eq_true heq] at hread
  exact Option.some.inj ((decode?_written u piece).symm.trans hread)

theorem strip_eq_self {text : List Char} (h : ∀ c ∈ text, isDropped c = false) :
    strip text = text :=
  List.filter_eq_self.mpr fun c hc => by rw [h c hc]; rfl

theorem tidy_of_ne {scheme : String} (h : scheme ≠ fileScheme) (path : List (List Char)) :
    tidy scheme path = path :=
  if_pos (bne_iff_ne.mpr h)

/-- A path of which nothing is left if it is one **empty piece**. -/
def withoutRoot (path : List (List Char)) : List (List Char) :=
  if path = [[]] then [] else path

/-- What is **appended** for a piece. -/
theorem append_eq {u : Url} (hscheme : u.scheme ≠ fileScheme) {piece : String}
    (hplain : IsPlain piece) :
    u.append piece = { u with path := withoutRoot u.path ++ [u.written piece] } := by
  have hdots : ¬ (piece = "." || piece = "..") = true := by
    simp [hplain.ne_here, hplain.ne_above]
  rw [append, if_neg hdots]
  dsimp only
  rw [tidy_of_ne hscheme, follow, strip_eq_self hplain.kept, ← written,
    isAbove_written u hplain.ne_above, isHere_written u hplain.ne_here,
    decide_eq_false hscheme]
  rfl

/-! ### Stems -/

/-- A path **without one empty piece** at its end. -/
def withoutTrailing (path : List (List Char)) : List (List Char) :=
  if path.getLast? = some [] then path.dropLast else path

/-- The **stem** of a path, to which pieces are appended: the path without one empty piece at its
end, and nothing of it if one empty piece is left then. -/
def stem (path : List (List Char)) : List (List Char) :=
  withoutRoot (withoutTrailing path)

/-- A single empty piece is kept at first, and dropped when something is appended. -/
theorem withoutEmptyEnd_eq (u : Url) :
    ∃ path, u.withoutEmptyEnd = { u with path } ∧ withoutRoot path = stem u.path := by
  by_cases hlast : u.path.getLast? = some []
  · by_cases hlength : 1 < u.path.length
    · refine ⟨u.path.dropLast, ?_, by rw [stem, withoutTrailing, if_pos hlast]⟩
      rw [withoutEmptyEnd, if_pos (by simp [hlast, hlength])]
    · -- the path is one empty piece
      have hroot : u.path = [[]] := by
        match hpath : u.path with
        | [] => simp [hpath] at hlast
        | [piece] => simpa [hpath] using hlast
        | _ :: _ :: _ => simp [hpath] at hlength
      refine ⟨u.path, ?_, by rw [hroot]; rfl⟩
      rw [withoutEmptyEnd, if_neg (by simp [hlength])]
  · refine ⟨u.path, ?_, by rw [stem, withoutTrailing, if_neg hlast]⟩
    rw [withoutEmptyEnd, if_neg (by simp [hlast])]

theorem append_singleton_ne_root {path : List (List Char)} {piece : List Char}
    (h : path ≠ [] ∨ piece ≠ []) : path ++ [piece] ≠ [[]] := by
  intro hroot
  obtain ⟨hpath, hpiece⟩ | ⟨-, hpiece⟩ := List.append_eq_singleton_iff.mp hroot
  · exact h.elim (· hpath) (· (List.singleton_inj.mp hpiece))
  · exact List.cons_ne_nil _ _ hpiece

theorem foldl_append_eq {u : Url} (hscheme : u.scheme ≠ fileScheme) {pieces : List String}
    (hplain : ∀ piece ∈ pieces, IsPlain piece) (hroot : u.path ≠ [[]]) (hne : u.path ≠ []) :
    pieces.foldl append u = { u with path := u.path ++ pieces.map u.written } := by
  induction pieces generalizing u with
  | nil => rw [List.foldl_nil, List.map_nil, List.append_nil]
  | cons piece pieces ih =>
    have happend := append_eq hscheme (hplain piece List.mem_cons_self)
    rw [withoutRoot, if_neg hroot] at happend
    rw [List.map_cons, List.append_cons u.path, List.foldl_cons, happend,
      ih (u := { u with path := u.path ++ [u.written piece] }) hscheme
        (fun other hother => hplain other (List.mem_cons_of_mem _ hother))
        (append_singleton_ne_root (.inl hne)) (by simp)]
    rfl

/-- The URL after **several pieces** were appended, the first of which is not empty. -/
theorem appendAll_eq {u : Url} (hscheme : u.scheme ≠ fileScheme) {first : String}
    {rest : List String} (hfirst : first ≠ "") (hplain : ∀ piece ∈ first :: rest, IsPlain piece) :
    u.appendAll (first :: rest) =
      { u with path := stem u.path ++ (first :: rest).map u.written } := by
  obtain ⟨path, hbefore, hpath⟩ := withoutEmptyEnd_eq u
  have happend : append { u with path } first =
      { u with path := stem u.path ++ [u.written first] } := by
    rw [append_eq (u := { u with path }) hscheme (hplain first List.mem_cons_self), hpath]
    rfl
  have hroot : stem u.path ++ [u.written first] ≠ [[]] :=
    append_singleton_ne_root (.inr (u.written_ne_nil hfirst))
  rw [List.map_cons, List.append_cons (stem u.path), appendAll, hbefore, List.foldl_cons, happend,
    foldl_append_eq (u := { u with path := stem u.path ++ [u.written first] }) hscheme
      (fun other hother => hplain other (List.mem_cons_of_mem _ hother)) hroot (by simp)]
  rfl

/-! ### Characters of pieces -/

/-- A character of a **piece** of a path, as it is printed: no character that ends a piece. -/
def IsPieceChar (c : Char) : Prop := keptInPath c = true ∧ c ≠ '/' ∧ c ≠ '\\'

theorem isPieceChar_of_mem_marks : ∀ c ∈ Percent.marks, IsPieceChar c := by
  have hall : Percent.marks.all (fun c => keptInPath c && c != '/' && c != '\\') = true := by
    decide
  intro c hc
  simpa [IsPieceChar, and_assoc] using List.all_eq_true.mp hall c hc

theorem isVisibleExcept_iff {excluded : String} {c : Char} :
    isVisibleExcept excluded c = true ↔ (' ' < c ∧ c ≤ '~') ∧ c ∉ excluded.toList := by
  rw [isVisibleExcept, Bool.and_eq_true, Bool.and_eq_true, decide_eq_true_iff, decide_eq_true_iff,
    Bool.not_eq_true', ← Bool.not_eq_true, List.contains_iff_mem]

theorem isPieceChar_of_keptInPiece {c : Char} (h : keptInPiece true c = true) :
    IsPieceChar c := by
  obtain ⟨hvisible, hexcluded⟩ := isVisibleExcept_iff.mp h
  have hne {d : Char} (hd : d ∈ "\"<>`#?\x7b\x7d/%\\".toList) : c ≠ d :=
    fun heq => hexcluded (heq ▸ hd)
  have hsubset : "\"<>`#?\x7b\x7d".toList ⊆ "\"<>`#?\x7b\x7d/%\\".toList := by decide
  exact ⟨isVisibleExcept_iff.mpr ⟨hvisible, fun hc => hexcluded (hsubset hc)⟩, hne (by decide),
    hne (by decide)⟩

theorem isPieceChar_of_mem_written {u : Url} (hspecial : isSpecial u.scheme = true)
    (piece : String) : ∀ c ∈ u.written piece, IsPieceChar c :=
  Percent.forall_mem_encode (fun _ _ hc => isPieceChar_of_keptInPiece (hspecial ▸ hc))
    isPieceChar_of_mem_marks

/-! ### Paths that were read -/

section ReadPath

variable {scheme : String} {path : List (List Char)} {piece : List Char}

/-- A path of **printable pieces**. -/
def IsPrintable (path : List (List Char)) : Prop := ∀ piece ∈ path, ∀ c ∈ piece, IsPieceChar c

theorem IsPrintable.append (h : IsPrintable path) (hpiece : ∀ c ∈ piece, IsPieceChar c) :
    IsPrintable (path ++ [piece]) :=
  List.forall_mem_append.mpr ⟨h, List.forall_mem_singleton.mpr hpiece⟩

theorem IsPrintable.dropLast (h : IsPrintable path) : IsPrintable path.dropLast := fun piece hp =>
  h piece (List.dropLast_subset path hp)

theorem IsPrintable.shorten (h : IsPrintable path) : IsPrintable (shorten path) := by
  rw [Url.shorten]
  split
  · exact h
  · exact h.dropLast

theorem IsPrintable.stem (h : IsPrintable path) : IsPrintable (stem path) := by
  have htrailing : IsPrintable (withoutTrailing path) := by
    rw [withoutTrailing]
    split
    · exact h.dropLast
    · exact h
  rw [Url.stem, withoutRoot]
  split
  · exact List.forall_mem_nil _
  · exact htrailing

/-- **Step lemma.** A piece without slashes leads to printable pieces. -/
theorem IsPrintable.follow (hscheme : scheme ≠ fileScheme) (h : IsPrintable path)
    (hpiece : ∀ c ∈ piece, c ≠ '/' ∧ c ≠ '\\') (isLast : Bool) :
    IsPrintable (follow scheme keptInPath path piece isLast) := by
  have hwritten : ∀ c ∈ Percent.encode keptInPath (strip piece), IsPieceChar c :=
    Percent.forall_mem_encode (fun c hc hkept => ⟨hkept, hpiece c (List.mem_of_mem_filter hc)⟩)
      isPieceChar_of_mem_marks
  have hlast {path : List (List Char)} (h : IsPrintable path) :
      IsPrintable (path ++ if isLast then [[]] else []) := by
    cases isLast with
    | true => exact h.append (List.forall_mem_nil _)
    | false => rwa [if_neg Bool.false_ne_true, List.append_nil]
  rw [Url.follow, decide_eq_false hscheme]
  split
  · exact hlast h.shorten
  split
  · exact hlast h
  exact h.append hwritten

theorem IsPrintable.followAll (hscheme : scheme ≠ fileScheme) {pieces : List (List Char)}
    (h : IsPrintable path) (hpieces : ∀ piece ∈ pieces, ∀ c ∈ piece, c ≠ '/' ∧ c ≠ '\\') :
    IsPrintable (followAll scheme path pieces) := by
  induction pieces generalizing path with
  | nil => exact h
  | cons piece rest ih =>
    have hfollow := h.follow hscheme (hpieces piece List.mem_cons_self)
    cases rest with
    | nil => exact hfollow true
    | cons => exact ih (hfollow false) fun p hp => hpieces p (List.mem_cons_of_mem _ hp)

/-- The path that is **read** for a special scheme has printable pieces. -/
theorem isPrintable_readPath (hspecial : isSpecial scheme = true) (hscheme : scheme ≠ fileScheme)
    (text : List Char) : IsPrintable (readPath scheme text) := by
  rw [readPath, tidy_of_ne hscheme, hspecial]
  refine IsPrintable.followAll hscheme (List.forall_mem_nil _) fun piece hp c hc => ?_
  obtain ⟨hmem, hslash⟩ := mem_of_mem_splitOnChar hp hc
  refine ⟨hslash, ?_⟩
  rintro rfl
  -- backslashes were turned into slashes before the text was split
  obtain ⟨d, -, hd⟩ := List.mem_map.mp hmem
  split at hd
  · exact absurd hd (by decide)
  next hslash =>
    subst hd
    exact hslash (by decide)

end ReadPath

/-! ### Printed paths -/

theorem IsPrintable.not_mem {path : List (List Char)} (h : IsPrintable path) :
    ∀ piece ∈ path, '/' ∉ piece := fun piece hp hc => (h piece hp _ hc).2.1 rfl

/-- A printed path **splits** into its pieces. -/
theorem splitOnChar_printPath {path : List (List Char)} (h : ∀ piece ∈ path, '/' ∉ piece) :
    splitOnChar '/' (printPath path) = [] :: path :=
  splitOnChar_flatMap h

/-- URLs that differ only in their paths are **printed alike** only if the paths are the same. -/
theorem path_eq_of_print_eq (u : Url) {path path' : List (List Char)}
    (h : ∀ piece ∈ path, '/' ∉ piece) (h' : ∀ piece ∈ path', '/' ∉ piece)
    (heq : print { u with path } = print { u with path := path' }) : path = path' := by
  have hprinted : printPath path = printPath path' :=
    List.append_cancel_left
      (List.append_cancel_right (List.append_cancel_right (String.ofList_injective heq)))
  have hsplit := splitOnChar_printPath h
  rw [hprinted, splitOnChar_printPath h'] at hsplit
  exact (List.cons.inj hsplit).2.symm

end StackDeploy.Url
