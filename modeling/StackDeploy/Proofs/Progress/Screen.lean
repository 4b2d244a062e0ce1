import StackDeploy.Progress.Display
import Mathlib.Data.List.Basic

/-!
# A terminal

A terminal without bounds on its width and height, as far as the program makes use of one: it puts
characters into cells, starts new rows, and understands the control sequences that move the cursor
up, erase what is below it and set the style. A newline leads to the start of the next row.

* `Screen.write` — what the terminal makes of a text.
* `Screen.Printed` — a text was put into the cursor's row and changed no other cell.
* `Screen.Drawn` — lines were put into rows of their own, and nothing else stands below them.
* `Screen.write_eraseLines` — erasing as many lines as were drawn gives back the screen before.
-/

namespace StackDeploy

/-- The character is **printable**: it stands in a cell, and it is not a control character. -/
def isPrintable (c : Char) : Bool :=
  32 ≤ c.toNat && !(127 ≤ c.toNat && c.toNat < 160)

/-- All characters of the text are printable. -/
def Printable (text : String) : Prop := text.toList.all isPrintable = true

instance (text : String) : Decidable (Printable text) :=
  inferInstanceAs (Decidable (_ = true))

theorem printable_iff {text : String} :
    Printable text ↔ ∀ c ∈ text.toList, isPrintable c = true := List.all_eq_true

theorem Printable.append {first second : String} (h : Printable first) (h' : Printable second) :
    Printable (first ++ second) := by
  rw [Printable, String.toList_append, List.all_append, Bool.and_eq_true]
  exact ⟨h, h'⟩

/-- A **cell** shows a character in the style of the pen that it was written with. -/
structure Cell where
  glyph : Char
  pen : List Nat
deriving DecidableEq

/-- How the next character is taken. -/
inductive Screen.Mode where
  | text
  /-- After the escape character. -/
  | escape
  /-- In a control sequence, after these digits. -/
  | sequence (digits : List Char)
deriving DecidableEq

/-- A **screen** of a terminal: what its cells show, by row and column, where the cursor is, and
which numbers have been switched on for the style. -/
@[ext]
structure Screen where
  cells : Nat → Nat → Option Cell
  row : Nat
  column : Nat
  pen : List Nat
  mode : Screen.Mode

namespace Screen

/-- A screen on which nothing stands. -/
def blank : Screen := ⟨fun _ _ => none, 0, 0, [], .text⟩

/-- Puts a character at the cursor, which moves on. -/
def put (s : Screen) (c : Char) : Screen :=
  { s with
    cells := fun row column =>
      if row = s.row ∧ column = s.column then some ⟨c, s.pen⟩ else s.cells row column
    column := s.column + 1 }

/-- Erases the cells from the cursor on, in its row and in all rows below. -/
def eraseBelow (s : Screen) : Screen :=
  { s with
    cells := fun row column =>
      if row < s.row ∨ (row = s.row ∧ column < s.column) then s.cells row column else none }

/-- Carries out a control sequence with a number, which is 0 if there are no digits. The cursor
moves up by at least one row, but not beyond the first. -/
def control (s : Screen) (number : Nat) : Char → Screen
  | 'A' => { s with row := s.row - max 1 number }
  | 'J' => if number = 0 then s.eraseBelow else s
  | 'm' => { s with pen := if number = 0 then [] else s.pen ++ [number] }
  | _ => s

/-- Takes in one character. -/
def feed (s : Screen) (c : Char) : Screen :=
  match s.mode with
  | .text =>
    if c = '\n' then { s with row := s.row + 1, column := 0 }
    else if c = '\x1b' then { s with mode := .escape }
    else s.put c
  | .escape => { s with mode := if c = '[' then .sequence [] else .text }
  | .sequence digits =>
    if c.isDigit then { s with mode := .sequence (digits ++ [c]) }
    else { s with mode := .text }.control (Nat.ofDigitChars 10 digits 0) c

/-- What the terminal makes of a text. -/
def write (s : Screen) (text : String) : Screen := text.toList.foldl feed s

@[simp] theorem write_append (s : Screen) (first second : String) :
    s.write (first ++ second) = (s.write first).write second := by
  rw [write, String.toList_append, List.foldl_append]
  rfl

variable {s t u : Screen}

/-! ### Control sequences -/

theorem foldl_feed_sequence {digits : List Char} (hdigits : ∀ c ∈ digits, c.isDigit = true)
    {final : Char} (hfinal : final.isDigit = false) {before : List Char}
    (hmode : s.mode = .sequence before) :
    (digits ++ [final]).foldl feed s =
      { s with mode := .text }.control (Nat.ofDigitChars 10 (before ++ digits) 0) final := by
  induction digits generalizing s before with
  | nil => simp [feed, hmode, hfinal]
  | cons c digits ih =>
    obtain ⟨hc, hdigits⟩ := List.forall_mem_cons.mp hdigits
    have hfeed : s.feed c = { s with mode := .sequence (before ++ [c]) } := by
      simp [feed, hmode, hc]
    rw [List.cons_append, List.foldl_cons, hfeed, ih hdigits rfl, List.append_assoc,
      List.singleton_append]

/-- A control sequence is carried out as a whole. -/
theorem write_sequence (hmode : s.mode = .text) {digits : String}
    (hdigits : digits.toList.all Char.isDigit = true) {final : Char}
    (hfinal : final.isDigit = false) :
    s.write ("\x1b[" ++ digits ++ String.singleton final) =
      s.control (Nat.ofDigitChars 10 digits.toList 0) final := by
  have hlist : ("\x1b[" ++ digits ++ String.singleton final).toList =
      '\x1b' :: '[' :: (digits.toList ++ [final]) := by
    simp [String.toList_append]
  have hopen : (s.feed '\x1b').feed '[' = { s with mode := .sequence [] } := by
    simp [feed, hmode]
  have htext : { s with mode := .text } = s := by rw [← hmode]
  have hfeed : (digits.toList ++ [final]).foldl feed { s with mode := .sequence [] } = _ :=
    foldl_feed_sequence (List.all_eq_true.mp hdigits) hfinal rfl
  rw [write, hlist, List.foldl_cons, List.foldl_cons, hopen, hfeed]
  simp only [List.nil_append, htext]

/-- A style is switched on by its number. -/
theorem write_start (hmode : s.mode = .text) (style : Ansi.Style) :
    s.write style.start =
      { s with pen := s.pen ++ [Nat.ofDigitChars 10 style.code.toList 0] } := by
  have hdigits : style.code.toList.all Char.isDigit = true := by cases style <;> decide
  have hnumber : Nat.ofDigitChars 10 style.code.toList 0 ≠ 0 := by cases style <;> decide
  have hwrite := @write_sequence s hmode style.code hdigits 'm' rfl
  rw [control, if_neg hnumber] at hwrite
  exact hwrite

/-- Everything is switched off. -/
theorem write_stop (hmode : s.mode = .text) : s.write Ansi.stop = { s with pen := [] } :=
  @write_sequence s hmode "0" (by decide) 'm' rfl

/-- Erasing lines moves the cursor up and erases what is below it. -/
theorem write_eraseLines (hmode : s.mode = .text) (n : Nat) :
    s.write (Ansi.eraseLines n) = { s with row := s.row - max 1 n }.eraseBelow := by
  have hdigits : (toString n).toList.all Char.isDigit = true := by
    refine List.all_eq_true.mpr fun c hc => ?_
    rw [Nat.toString_eq_ofList_toDigits, String.toList_ofList] at hc
    exact Nat.isDigit_of_mem_toDigits (by decide) (by decide) hc
  have hnumber : Nat.ofDigitChars 10 (toString n).toList 0 = n := by
    rw [Nat.toString_eq_ofList_toDigits, String.toList_ofList, Nat.ofDigitChars_ten_toDigits]
  have hsplit : Ansi.eraseLines n = "\x1b[" ++ toString n ++ String.singleton 'A' ++
      ("\x1b[" ++ "" ++ String.singleton 'J') := by
    rw [Ansi.eraseLines, String.append_assoc, String.append_assoc, String.append_assoc]
    rfl
  have hup := @write_sequence s hmode (toString n) hdigits 'A' rfl
  rw [hnumber, control] at hup
  rw [hsplit, write_append, hup]
  exact @write_sequence { s with row := s.row - max 1 n } hmode "" rfl 'J' rfl

/-! ### Printable text -/

/-- A text was **printed** into the row of the cursor: it stands there from the cursor on, the
cursor is behind it, and the other cells, the style and the mode are as before. -/
structure Printed (s t : Screen) (text : List Char) : Prop where
  row_eq : t.row = s.row
  column_eq : t.column = s.column + text.length
  pen_eq : t.pen = s.pen
  mode_eq : t.mode = s.mode
  elsewhere : ∀ row column, (row = s.row → s.column ≤ column → s.column + text.length ≤ column) →
    t.cells row column = s.cells row column
  shown : ∀ i < text.length, (t.cells s.row (s.column + i)).map Cell.glyph = text[i]?

theorem printed_nil (s : Screen) : s.Printed s [] where
  row_eq := rfl
  column_eq := rfl
  pen_eq := rfl
  mode_eq := rfl
  elsewhere := fun _ _ _ => rfl
  shown := fun _ hi => nomatch hi

theorem Printed.trans {first second : List Char} (h : s.Printed t first)
    (h' : t.Printed u second) : s.Printed u (first ++ second) where
  row_eq := h'.row_eq.trans h.row_eq
  column_eq := by rw [h'.column_eq, h.column_eq, List.length_append, Nat.add_assoc]
  pen_eq := h'.pen_eq.trans h.pen_eq
  mode_eq := h'.mode_eq.trans h.mode_eq
  elsewhere := by
    intro row column hother
    rw [List.length_append] at hother
    rw [h'.elsewhere, h.elsewhere]
    · intro hrow hle
      have hle' := hother hrow hle
      omega
    · rw [h.row_eq, h.column_eq]
      intro hrow hle
      have hle' := hother hrow (by omega)
      omega
  shown := by
    intro i hi
    rw [List.length_append] at hi
    by_cases hfirst : i < first.length
    · rw [h'.elsewhere _ _ (by rw [h.column_eq]; omega), h.shown i hfirst,
        List.getElem?_append_left hfirst]
    · have hsecond := h'.shown (i - first.length) (by omega)
      have hcolumn : t.column + (i - first.length) = s.column + i := by
        rw [h.column_eq]
        omega
      rw [h.row_eq, hcolumn] at hsecond
      rw [hsecond, List.getElem?_append_right (by omega)]

theorem printed_put (s : Screen) (c : Char) : s.Printed (s.put c) [c] where
  row_eq := rfl
  column_eq := rfl
  pen_eq := rfl
  mode_eq := rfl
  elsewhere := by
    intro row column hother
    rw [List.length_singleton] at hother
    refine if_neg fun h => ?_
    have hle := hother h.1 (by omega)
    omega
  shown := by
    intro i hi
    obtain rfl : i = 0 := by simpa using hi
    simp [put]

theorem printed_foldl {text : List Char} (hmode : s.mode = .text)
    (hprintable : ∀ c ∈ text, isPrintable c = true) : s.Printed (text.foldl feed s) text := by
  induction text generalizing s with
  | nil => exact printed_nil s
  | cons c text ih =>
    obtain ⟨hc, htext⟩ := List.forall_mem_cons.mp hprintable
    have hfeed : s.feed c = s.put c := by
      have hnewline : c ≠ '\n' := by rintro rfl; cases hc
      have hescape : c ≠ '\x1b' := by rintro rfl; cases hc
      simp [feed, hmode, hnewline, hescape]
    rw [List.foldl_cons, hfeed]
    exact (printed_put s c).trans (ih hmode htext)

/-- Printable text is printed. -/
theorem printed_write {text : String} (hmode : s.mode = .text) (hprintable : Printable text) :
    s.Printed (s.write text) text.toList :=
  printed_foldl hmode (printable_iff.mp hprintable)

theorem resumeWith_of_printable {text : List Char} (start : List Char)
    (hprintable : ∀ c ∈ text, isPrintable c = true) : Ansi.resumeWith start text = text := by
  induction text with
  | nil => rfl
  | cons c text ih =>
    obtain ⟨hc, htext⟩ := List.forall_mem_cons.mp hprintable
    rw [Ansi.resumeWith, ih htext]
    rintro rest rfl
    cases hc

/-- Painted text is printed, and the style is switched off again. -/
theorem printed_paint {text : String} (style : Ansi.Style) (hmode : s.mode = .text)
    (hpen : s.pen = []) (hprintable : Printable text) :
    s.Printed (s.write (Ansi.paint style text)) text.toList := by
  have hplain : String.ofList (Ansi.resumeWith style.start.toList text.toList) = text := by
    rw [resumeWith_of_printable _ (printable_iff.mp hprintable), String.ofList_toList]
  rw [Ansi.paint, hplain, write_append, write_append, write_start hmode]
  have hprinted := printed_write (s := { s with
    pen := s.pen ++ [Nat.ofDigitChars 10 style.code.toList 0] }) hmode hprintable
  rw [write_stop (hprinted.mode_eq.trans hmode)]
  exact { hprinted with pen_eq := hpen.symm }

/-! ### Lines -/

/-- The screen is **fresh** from the cursor on: the cursor is at the start of a row, and nothing
stands there or below. -/
structure Fresh (s : Screen) : Prop where
  column_eq : s.column = 0
  pen_eq : s.pen = []
  mode_eq : s.mode = .text
  blank : ∀ row column, s.row ≤ row → s.cells row column = none

theorem fresh_blank : blank.Fresh := ⟨rfl, rfl, rfl, fun _ _ _ => rfl⟩

/-- Lines were **drawn** from the cursor on: each stands in a row of its own, nothing else stands in
these rows or below them, and the rows above are as before. -/
structure Drawn (s t : Screen) (lines : List String) : Prop where
  fresh : t.Fresh
  row_eq : t.row = s.row + lines.length
  above : ∀ row column, row < s.row → t.cells row column = s.cells row column
  reads : ∀ i line, lines[i]? = some line → ∀ column,
    (t.cells (s.row + i) column).map Cell.glyph = line.toList[column]?

theorem drawn_nil (hs : s.Fresh) : s.Drawn s [] where
  fresh := hs
  row_eq := rfl
  above := fun _ _ _ => rfl
  reads := fun _ _ hline => nomatch hline

/-- The row after the cursor's. -/
def nextRow (s : Screen) : Screen := { s with row := s.row + 1, column := 0 }

@[simp] theorem nextRow_row (s : Screen) : s.nextRow.row = s.row + 1 := rfl

theorem write_newline (hmode : s.mode = .text) : s.write "\n" = s.nextRow := by
  have hfeed : s.write "\n" = s.feed '\n' := rfl
  simp [hfeed, feed, hmode, nextRow]

/-- After a line that was printed comes the next row. -/
theorem Printed.fresh_nextRow {line : List Char} (h : s.Printed t line) (hs : s.Fresh) :
    t.nextRow.Fresh where
  column_eq := rfl
  pen_eq := h.pen_eq.trans hs.pen_eq
  mode_eq := h.mode_eq.trans hs.mode_eq
  blank := by
    intro row column hrow
    have hrow : s.row + 1 ≤ row := h.row_eq ▸ hrow
    have hcells : t.cells row column = s.cells row column := h.elsewhere row column (by omega)
    exact hcells.trans (hs.blank row column (by omega))

/-- A line that was printed comes before the lines that were drawn below it. -/
theorem Printed.drawn_cons {line : String} {rest : List String} (h : s.Printed t line.toList)
    (hs : s.Fresh) (hrest : t.nextRow.Drawn u rest) : s.Drawn u (line :: rest) where
  fresh := hrest.fresh
  row_eq := by
    rw [hrest.row_eq, nextRow_row, h.row_eq, List.length_cons]
    omega
  above := by
    intro row column hrow
    have hbelow : row < t.nextRow.row := by
      rw [nextRow_row, h.row_eq]
      omega
    rw [hrest.above row column hbelow]
    exact h.elsewhere row column (by omega)
  reads := by
    intro i other hother column
    cases i with
    | zero =>
      obtain rfl := Option.some.inj hother
      have hbelow : s.row < t.nextRow.row := by
        rw [nextRow_row, h.row_eq]
        omega
      rw [Nat.add_zero, hrest.above _ _ hbelow]
      by_cases hcolumn : column < line.toList.length
      · have hshown := h.shown column hcolumn
        rwa [hs.column_eq, Nat.zero_add] at hshown
      · -- behind the line the row is blank
        have hcells : t.cells s.row column = s.cells s.row column :=
          h.elsewhere s.row column fun _ _ => by
            rw [hs.column_eq]
            omega
        rw [List.getElem?_eq_none (Nat.not_lt.mp hcolumn)]
        exact congrArg (Option.map Cell.glyph)
          (hcells.trans (hs.blank s.row column (Nat.le_refl _)))
    | succ i =>
      have hreads := hrest.reads i other hother column
      rwa [nextRow_row, h.row_eq, Nat.add_right_comm, Nat.add_assoc] at hreads

/-- Erasing as many lines as were drawn gives back the screen before them. -/
theorem Drawn.write_eraseLines {lines : List String} (h : s.Drawn t lines) (hs : s.Fresh)
    (hne : lines ≠ []) : t.write (Ansi.eraseLines lines.length) = s := by
  have hlength : 0 < lines.length := List.length_pos_iff.mpr hne
  have hrow : t.row - max 1 lines.length = s.row := by
    rw [h.row_eq]
    omega
  rw [Screen.write_eraseLines h.fresh.mode_eq, hrow, eraseBelow]
  ext1
  · funext row column
    dsimp only
    rw [h.fresh.column_eq]
    split
    · exact h.above row column (by omega)
    · exact (hs.blank row column (by omega)).symm
  · rfl
  · exact h.fresh.column_eq.trans hs.column_eq.symm
  · exact h.fresh.pen_eq.trans hs.pen_eq.symm
  · exact h.fresh.mode_eq.trans hs.mode_eq.symm

/-- When no lines were drawn, the screen is as before. -/
theorem Drawn.eq_of_nil (h : s.Drawn t []) (hs : s.Fresh) : t = s := by
  have hrow : t.row = s.row := h.row_eq
  ext1
  · funext row column
    by_cases habove : row < s.row
    · exact h.above row column habove
    · rw [h.fresh.blank row column (by omega), hs.blank row column (by omega)]
  · exact hrow
  · exact h.fresh.column_eq.trans hs.column_eq.symm
  · exact h.fresh.pen_eq.trans hs.pen_eq.symm
  · exact h.fresh.mode_eq.trans hs.mode_eq.symm

end Screen

/-! ### Texts that are drawn -/

/-- The number of newline characters in a text. -/
def newlines (text : String) : Nat := text.toList.count '\n'

@[simp] theorem newlines_append (first second : String) :
    newlines (first ++ second) = newlines first + newlines second := by
  rw [newlines, String.toList_append, List.count_append]
  rfl

theorem Printable.newlines_eq {text : String} (h : Printable text) : newlines text = 0 := by
  refine List.count_eq_zero.mpr fun hmem => ?_
  cases printable_iff.mp h '\n' hmem

theorem newlines_eraseLines (n : Nat) : newlines (Ansi.eraseLines n) = 0 := by
  have hdigits : newlines (toString n) = 0 := by
    refine List.count_eq_zero.mpr fun hmem => ?_
    rw [Nat.toString_eq_ofList_toDigits, String.toList_ofList] at hmem
    cases Nat.isDigit_of_mem_toDigits (by decide) (by decide) hmem
  have hopen : newlines "\x1b[" = 0 := by decide
  have hclose : newlines "A\x1b[J" = 0 := by decide
  rw [Ansi.eraseLines, newlines_append, newlines_append, hopen, hdigits, hclose]

/-- Written on one row, the text **reads as** another one, whatever control sequences it holds. -/
structure ReadsAs (text visible : String) : Prop where
  newlines_eq : newlines text = 0
  printed : ∀ s : Screen, s.mode = .text → s.pen = [] → s.Printed (s.write text) visible.toList

theorem readsAs_of_printable {text : String} (h : Printable text) : ReadsAs text text where
  newlines_eq := h.newlines_eq
  printed := fun _ hmode _ => Screen.printed_write hmode h

theorem ReadsAs.append {first second visible visible' : String} (h : ReadsAs first visible)
    (h' : ReadsAs second visible') : ReadsAs (first ++ second) (visible ++ visible') where
  newlines_eq := by rw [newlines_append, h.newlines_eq, h'.newlines_eq]
  printed := by
    intro s hmode hpen
    have hfirst := h.printed s hmode hpen
    rw [Screen.write_append, String.toList_append]
    exact hfirst.trans
      (h'.printed _ (hfirst.mode_eq.trans hmode) (hfirst.pen_eq.trans hpen))

/-- A status reads the same in any colour. -/
theorem readsAs_paintStatus {status : String} (color : Bool) (h : Printable status) :
    ReadsAs (paintStatus color status) status := by
  rw [paintStatus.eq_def]
  split
  next style _ =>
    refine ⟨?_, fun s hmode hpen => Screen.printed_paint style hmode hpen h⟩
    have hstart : newlines style.start = 0 := by cases style <;> decide
    have hstop : newlines Ansi.stop = 0 := by decide
    rw [Ansi.paint, Screen.resumeWith_of_printable _ (printable_iff.mp h), String.ofList_toList,
      newlines_append, newlines_append, hstart, h.newlines_eq, hstop]
  · exact readsAs_of_printable h

section Unlines

variable {texts lines : List String}

open ProgressTree

theorem unlines_cons (text : String) (rest : List String) :
    unlines (text :: rest) = text ++ "\n" ++ unlines rest := rfl

/-- Lines hold one newline each. -/
theorem newlines_unlines (h : List.Forall₂ ReadsAs texts lines) :
    newlines (unlines texts) = lines.length := by
  induction h with
  | nil => rfl
  | cons hline hrest ih =>
    have hone : newlines "\n" = 1 := by decide
    rw [unlines_cons, newlines_append, newlines_append, hline.newlines_eq, hone, ih,
      List.length_cons]
    omega

/-- Lines that are written are drawn as they read. -/
theorem drawn_unlines {s : Screen} (hs : s.Fresh) (h : List.Forall₂ ReadsAs texts lines) :
    s.Drawn (s.write (unlines texts)) lines := by
  induction h generalizing s with
  | nil => exact Screen.drawn_nil hs
  | @cons text line texts lines hline hrest ih =>
    have hprinted := hline.printed s hs.mode_eq hs.pen_eq
    rw [unlines_cons, Screen.write_append, Screen.write_append,
      Screen.write_newline (hprinted.mode_eq.trans hs.mode_eq)]
    exact hprinted.drawn_cons hs (ih (hprinted.fresh_nextRow hs))

end Unlines

end StackDeploy
