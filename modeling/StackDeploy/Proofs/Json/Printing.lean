import StackDeploy.Json.Basic
import StackDeploy.Proofs.Text.Decimal
import Mathlib.Data.List.DropRight
import Mathlib.Tactic.SplitIfs

/-!
# Printed JSON reads back

What is written for a value is read as that value, whatever characters its texts have and however
its lists and objects are nested.

The statement that carries the induction is about a value in front of more text: with two units of
fuel for every printed character, reading the value leaves exactly the rest. The rest must not go on
with a number, so it is asked to be what can stand behind a value, `Closes`.

* `readUnits_escape` — a text in quotes reads back.
* `Plain` — the values that are printed without loss.
* `Plain.readsBack` — a plain value reads back in front of a closing character.
* `Plain.parse?_print` — a plain value reads back.
-/

namespace StackDeploy

open Text

namespace Json

/-! ### Texts -/

/-- A backslash and a letter read as the character that the letter stands for. -/
theorem readUnits_letter {e c : Char} (hu : e ≠ 'u') (he : simpleEscape? e = some c)
    (cs : List Char) :
    readUnits ('\\' :: e :: cs) = (readUnits cs).map fun r => (.char c :: r.1, r.2) := by
  rw [readUnits.eq_4 _ _ fun _ _ _ _ _ h _ => hu h, he]
  cases readUnits cs <;> rfl

/-- The four digits of a control character read as that character. -/
theorem readUnits_control {c : Char} (hc : c.toNat < 0x20) (cs : List Char) :
    readUnits ('\\' :: 'u' :: '0' :: '0' ::
      hexDigit (c.toNat / 16) :: hexDigit (c.toNat % 16) :: cs) =
      (readUnits cs).map fun r => (.char c :: r.1, r.2) := by
  have hhigh := hexValue?_hexDigit (c.toNat / 16) (by omega)
  have hlow := hexValue?_hexDigit (c.toNat % 16) (Nat.mod_lt _ (by decide))
  have hzero : hexValue? '0' = some 0 := rfl
  have hnumber : ((0 * 16 + 0) * 16 + c.toNat / 16) * 16 + c.toNat % 16 = c.toNat := by omega
  have hhex : hex4? '0' '0' (hexDigit (c.toNat / 16)) (hexDigit (c.toNat % 16)) =
      some c.toNat := by
    simp only [hex4?, hzero, hhigh, hlow, Option.bind_eq_bind, Option.bind_some, hnumber,
      Option.pure_def]
  have hwhole : isSurrogate c.toNat = false := by
    simp only [isSurrogate, Bool.and_eq_false_iff, decide_eq_false_iff_not]
    omega
  rw [readUnits.eq_3, hhex]
  cases readUnits cs <;> simp [hwhole]

/-- A character that needs no escape reads as itself. -/
theorem readUnits_plain {c : Char} (hquote : c ≠ '"') (hslash : c ≠ '\\') (hc : ¬ c.toNat < 0x20)
    (cs : List Char) :
    readUnits (c :: cs) = (readUnits cs).map fun r => (.char c :: r.1, r.2) := by
  rw [readUnits.eq_5 _ _ hquote (fun _ _ _ _ _ h _ => hslash h) (fun _ _ h _ => hslash h),
    if_neg (by simp [hc, hslash])]
  cases readUnits cs <;> rfl

/-- The escape of a character reads as that character. -/
theorem readUnits_escapeChar (c : Char) (cs : List Char) :
    readUnits (escapeChar c ++ cs) = (readUnits cs).map fun r => (.char c :: r.1, r.2) := by
  unfold escapeChar
  split_ifs with hquote hslash hn hr ht hb hf hcontrol
  · subst hquote
    exact readUnits_letter (by decide) rfl cs
  · subst hslash
    exact readUnits_letter (by decide) rfl cs
  · subst hn
    exact readUnits_letter (by decide) rfl cs
  · subst hr
    exact readUnits_letter (by decide) rfl cs
  · subst ht
    exact readUnits_letter (by decide) rfl cs
  · subst hb
    exact readUnits_letter (by decide) rfl cs
  · subst hf
    exact readUnits_letter (by decide) rfl cs
  · exact readUnits_control hcontrol cs
  · exact readUnits_plain hquote hslash hcontrol cs

/-- A text in quotes reads as its characters. -/
theorem readUnits_escape (cs rest : List Char) :
    readUnits (cs.flatMap escapeChar ++ '"' :: rest) = some (cs.map .char, rest) := by
  induction cs with
  | nil => simp [readUnits]
  | cons c cs ih => simp [readUnits_escapeChar, ih]

theorem joinUnits_map_char (cs : List Char) : joinUnits (cs.map .char) = some cs := by
  induction cs with
  | nil => rfl
  | cons c cs ih => simp [joinUnits, ih]

/-- A text in quotes reads back. -/
theorem readString_escape (s : String) (rest : List Char) :
    readString (s.toList.flatMap escapeChar ++ '"' :: rest) = some (some s, rest) := by
  simp [readString, readUnits_escape, joinUnits_map_char]

/-! ### Numbers -/

/-- What **can stand behind a value**: nothing, a comma or a closing bracket. -/
inductive Closes : List Char → Prop where
  | nil : Closes []
  | comma (cs : List Char) : Closes (',' :: cs)
  | bracket (cs : List Char) : Closes (']' :: cs)
  | brace (cs : List Char) : Closes ('}' :: cs)

/-- Digits are read as far as they go. -/
theorem readSomeDigits_append {d : Char} {ds rest : List Char}
    (hds : ∀ c ∈ d :: ds, isDigit c = true) (hrest : Closes rest) :
    readSomeDigits (d :: ds ++ rest) = some (d :: ds, rest) := by
  have htake : rest.takeWhile isDigit = [] := by cases hrest <;> rfl
  have hdrop : rest.dropWhile isDigit = rest := by cases hrest <;> rfl
  simp only [readSomeDigits, List.takeWhile_append_of_pos hds, List.dropWhile_append_of_pos hds,
    htake, hdrop, List.append_nil]

theorem readInteger_natDigits (n : Nat) {rest : List Char} (hrest : Closes rest) :
    readInteger (natDigits n ++ rest) = some (natDigits n, rest) := by
  obtain ⟨d, ds, hds, -⟩ := natDigits_eq_cons n
  by_cases hd : d = '0'
  · obtain rfl : n = 0 := eq_zero_of_head?_natDigits (by rw [hds, hd]; rfl)
    have hzero : natDigits 0 = ['0'] := by simp [natDigits, digitChar]
    rw [hzero]
    rfl
  · rw [hds, List.cons_append, readInteger.eq_2 _ fun _ h => hd (List.cons.inj h).1]
    exact readSomeDigits_append (fun c hc => isDigit_of_mem_natDigits (hds ▸ hc)) hrest

/-- A natural number reads back. -/
theorem readNumber_natDigits (n : Nat) {rest : List Char} (hrest : Closes rest) :
    readNumber (natDigits n ++ rest) = some (.nat n, rest) := by
  have hfraction : readFraction rest = some ([], rest) := by cases hrest <;> rfl
  have hexponent : readExponent rest = some ([], rest) := by cases hrest <;> rfl
  have hunsigned : readUnsigned (natDigits n ++ rest) = some (natDigits n, rest) := by
    simp [readUnsigned, readInteger_natDigits n hrest, hfraction, hexponent]
  have hsign : ∀ cs, natDigits n ++ rest ≠ '-' :: cs := by
    obtain ⟨d, ds, hds, hd⟩ := natDigits_eq_cons n
    rintro cs h
    obtain rfl : d = '-' := by simpa [hds] using congrArg List.head? h
    cases hd
  rw [readNumber.eq_2 _ hsign, hunsigned]
  rfl

/-! ### Values -/

/-- A value **reads back** when its printed text, in front of what can stand behind a value, is read
as the value and no further. Two units of fuel for every character are enough. -/
def ReadsBack (j : Json) : Prop :=
  ∀ (fuel : Nat) (rest : List Char), 2 * j.printChars.length ≤ fuel → Closes rest →
    readValue (fuel + 1) (j.printChars ++ rest) = some (j, rest)

theorem skipSpace_cons {c : Char} (hc : isSpace c = false) (cs : List Char) :
    skipSpace (c :: cs) = c :: cs :=
  List.dropWhile_cons_of_neg (by simp [hc])

theorem readsBack_null : ReadsBack .null := by
  intro fuel rest _ _
  rfl

theorem readsBack_bool (b : Bool) : ReadsBack (.bool b) := by
  intro fuel rest _ _
  cases b <;> rfl

theorem readsBack_text (s : String) : ReadsBack (.text s) := by
  intro fuel rest _ _
  have hprint : (text s).printChars ++ rest =
      '"' :: (s.toList.flatMap escapeChar ++ '"' :: rest) := by simp [text, printChars, quote]
  have hread : readValue (fuel + 1) ('"' :: (s.toList.flatMap escapeChar ++ '"' :: rest)) =
      (readString (s.toList.flatMap escapeChar ++ '"' :: rest)).map
        fun r => (.string r.1, r.2) := rfl
  rw [hprint, hread, readString_escape]
  rfl

/-- What begins with a digit is read as a number. -/
theorem readValue_digit {d : Char} (hd : isDigit d = true) (fuel : Nat) (cs : List Char) :
    readValue (fuel + 1) (d :: cs) = readNumber (d :: cs) := by
  have hspace : isSpace d = false := by
    cases hd' : isSpace d
    · rfl
    · simp only [isSpace, Bool.or_eq_true, beq_iff_eq] at hd'
      rcases hd' with ((rfl | rfl) | rfl) | rfl <;> cases hd
  rw [readValue, skipSpace_cons hspace]
  split
  case h_7 => rfl
  all_goals
    next h =>
      obtain rfl := (List.cons.inj h).1
      cases hd

theorem readsBack_nat (n : Nat) : ReadsBack (.nat n) := by
  intro fuel rest _ hrest
  have hprint : (nat n).printChars = natDigits n := by simp [nat, natText, printChars]
  obtain ⟨d, ds, hds, hd⟩ := natDigits_eq_cons n
  rw [hprint, ← readNumber_natDigits n hrest, hds]
  exact readValue_digit hd fuel (ds ++ rest)

/-! ### Arrays -/

theorem readValue_skipSpace (fuel : Nat) (cs : List Char) :
    readValue fuel (skipSpace cs) = readValue fuel cs := by
  have hskip : skipSpace (skipSpace cs) = skipSpace cs := List.dropWhile_idempotent isSpace cs
  cases fuel with
  | zero => rfl
  | succ fuel => rw [readValue, readValue, hskip]

theorem readItems_skipSpace (fuel : Nat) (cs : List Char) :
    readItems fuel (skipSpace cs) = readItems fuel cs := by
  cases fuel with
  | zero => rfl
  | succ fuel => rw [readItems, readItems, readValue_skipSpace]

/-- Items begin with no bracket. -/
theorem readItems_bracket (fuel : Nat) (cs : List Char) : readItems fuel (']' :: cs) = none := by
  cases fuel with
  | zero => rfl
  | succ fuel => cases fuel <;> rfl

/-- Items behind a bracket are read as an array. -/
theorem readValue_array {fuel : Nat} {cs rest : List Char} {items : List Json}
    (h : readItems fuel cs = some (items, rest)) :
    readValue (fuel + 1) ('[' :: cs) = some (.array items, rest) := by
  rw [← readItems_skipSpace] at h
  rw [readValue]
  simp only [skipSpace_cons (c := '[') rfl]
  split
  · next hbracket => rw [hbracket, readItems_bracket] at h; cases h
  · rw [h]
    rfl

/-- Items that read back one by one read back together. -/
theorem readItems_print {item : Json} {items : List Json} (hitem : ReadsBack item)
    (hitems : ∀ i ∈ items, ReadsBack i) (fuel : Nat) (rest : List Char)
    (hfuel : 2 * (item.printChars.length + (printItems items).length) ≤ fuel) :
    readItems (fuel + 2) (item.printChars ++ (printItems items ++ ']' :: rest)) =
      some (item :: items, rest) := by
  induction items generalizing item fuel with
  | nil =>
    have hread := hitem fuel (']' :: rest) (by omega) (.bracket rest)
    rw [readItems, printItems, List.nil_append, hread]
    rfl
  | cons next items ih =>
    simp only [printItems, List.cons_append, List.length_cons, List.length_append] at hfuel
    obtain ⟨fuel, rfl⟩ : ∃ k, fuel = k + 1 := ⟨fuel - 1, by omega⟩
    have hread := hitem (fuel + 1) _ (by omega)
      (.comma (next.printChars ++ (printItems items ++ ']' :: rest)))
    have hnext := ih (hitems next (List.mem_cons_self ..))
      (fun i hi => hitems i (List.mem_cons_of_mem _ hi)) fuel (by omega)
    have hcomma : printItems (next :: items) ++ ']' :: rest =
        ',' :: (next.printChars ++ (printItems items ++ ']' :: rest)) := by simp [printItems]
    rw [readItems, hcomma, hread]
    simp only [skipSpace_cons (c := ',') rfl, hnext, Option.map_some]

theorem ReadsBack.array {items : List Json} (h : ∀ item ∈ items, ReadsBack item) :
    ReadsBack (.array items) := by
  intro fuel rest hfuel _
  cases items with
  | nil => rfl
  | cons item items =>
    simp only [printChars, List.cons_append, List.length_cons, List.length_append] at hfuel
    obtain ⟨fuel, rfl⟩ : ∃ k, fuel = k + 2 := ⟨fuel - 2, by omega⟩
    have hread := readItems_print (h item (List.mem_cons_self ..))
      (fun i hi => h i (List.mem_cons_of_mem _ hi)) fuel rest (by omega)
    have hprint : printChars (.array (item :: items)) ++ rest =
        '[' :: (item.printChars ++ (printItems items ++ ']' :: rest)) := by simp [printChars]
    rw [hprint]
    exact readValue_array hread

/-! ### Objects -/

/-- A key, a colon and a value are read off the front of a list of fields. -/
theorem readFields_key (key : String) (fuel : Nat) (cs : List Char) :
    readFields (fuel + 1) (quote key ++ ':' :: cs) =
      (readValue fuel cs).bind fun r =>
        match skipSpace r.2 with
        | ',' :: rest => (readFields fuel rest).map fun f => ((some key, r.1) :: f.1, f.2)
        | '}' :: rest => some ([(some key, r.1)], rest)
        | _ => none := by
  have hquote : quote key ++ ':' :: cs =
      '"' :: (key.toList.flatMap escapeChar ++ '"' :: ':' :: cs) := by simp [quote]
  rw [hquote, readFields, skipSpace_cons rfl]
  simp only [readString_escape, skipSpace_cons (c := ':') rfl]
  cases readValue fuel cs <;> rfl

/-- Fields whose values read back one by one read back together. -/
theorem readFields_print (key : String) {value : Json} {fields : List (Option String × Json)}
    (hvalue : ReadsBack value) (hfields : ∀ f ∈ fields, f.1.isSome ∧ ReadsBack f.2) (fuel : Nat)
    (rest : List Char)
    (hfuel : 2 * (value.printChars.length + (printFields fields).length) ≤ fuel) :
    readFields (fuel + 2)
        (quote key ++ ':' :: (value.printChars ++ (printFields fields ++ '}' :: rest))) =
      some ((some key, value) :: fields, rest) := by
  induction fields generalizing key value fuel with
  | nil =>
    have hread := hvalue fuel ('}' :: rest) (by omega) (.brace rest)
    rw [readFields_key, printFields, List.nil_append, hread]
    rfl
  | cons next fields ih =>
    obtain ⟨nextKey, nextValue⟩ := next
    obtain ⟨hkey, hnextValue⟩ : nextKey.isSome ∧ ReadsBack nextValue :=
      hfields _ (List.mem_cons_self ..)
    obtain ⟨nextKey, rfl⟩ := Option.isSome_iff_exists.mp hkey
    simp only [printFields, List.cons_append, List.length_cons, List.length_append] at hfuel
    obtain ⟨fuel, rfl⟩ : ∃ k, fuel = k + 1 := ⟨fuel - 1, by omega⟩
    have hread := hvalue (fuel + 1) _ (by omega) (.comma (quote nextKey ++ ':' ::
      (nextValue.printChars ++ (printFields fields ++ '}' :: rest))))
    have hnext := ih nextKey hnextValue (fun f hf => hfields f (List.mem_cons_of_mem _ hf)) fuel
      (by omega)
    have hcomma : printFields ((some nextKey, nextValue) :: fields) ++ '}' :: rest =
        ',' :: (quote nextKey ++ ':' ::
          (nextValue.printChars ++ (printFields fields ++ '}' :: rest))) := by simp [printFields]
    rw [readFields_key, hcomma, hread]
    simp only [Option.bind_some, skipSpace_cons (c := ',') rfl, hnext, Option.map_some]

/-- Fields behind a brace are read as an object. -/
theorem readValue_object {fuel : Nat} {cs rest : List Char} {fields : List (Option String × Json)}
    (h : readFields fuel ('"' :: cs) = some (fields, rest)) :
    readValue (fuel + 1) ('{' :: '"' :: cs) = some (.object fields, rest) := by
  have hread : readValue (fuel + 1) ('{' :: '"' :: cs) =
      (readFields fuel ('"' :: cs)).map fun r => (.object r.1, r.2) := rfl
  rw [hread, h]
  rfl

theorem ReadsBack.object {fields : List (Option String × Json)}
    (h : ∀ f ∈ fields, f.1.isSome ∧ ReadsBack f.2) : ReadsBack (.object fields) := by
  intro fuel rest hfuel _
  cases fields with
  | nil => rfl
  | cons field fields =>
    obtain ⟨key, value⟩ := field
    obtain ⟨hkey, hvalue⟩ : key.isSome ∧ ReadsBack value := h _ (List.mem_cons_self ..)
    obtain ⟨key, rfl⟩ := Option.isSome_iff_exists.mp hkey
    simp only [printChars, List.cons_append, List.length_cons, List.length_append] at hfuel
    obtain ⟨fuel, rfl⟩ : ∃ k, fuel = k + 2 := ⟨fuel - 2, by omega⟩
    have hread := readFields_print key hvalue
      (fun f hf => h f (List.mem_cons_of_mem _ hf)) fuel rest (by omega)
    have hprint : printChars (.object ((some key, value) :: fields)) ++ rest =
        '{' :: (quote key ++ ':' :: (value.printChars ++ (printFields fields ++ '}' :: rest))) := by
      simp [printChars]
    rw [hprint]
    exact readValue_object hread

/-! ### Plain values -/

/-- A value is **plain** when it has no texts that are none and no numbers but natural ones. -/
inductive Plain : Json → Prop where
  | null : Plain .null
  | bool (b : Bool) : Plain (.bool b)
  | nat (n : Nat) : Plain (.nat n)
  | text (s : String) : Plain (.text s)
  | array {items : List Json} (h : ∀ item ∈ items, Plain item) : Plain (.array items)
  | object {fields : List (Option String × Json)} (hkeys : ∀ f ∈ fields, f.1.isSome = true)
      (hvalues : ∀ f ∈ fields, Plain f.2) : Plain (.object fields)

/-- A plain value reads back in front of what can stand behind a value. -/
theorem Plain.readsBack {j : Json} (h : Plain j) : ReadsBack j := by
  induction h with
  | null => exact readsBack_null
  | bool b => exact readsBack_bool b
  | nat n => exact readsBack_nat n
  | text s => exact readsBack_text s
  | array _ ih => exact .array ih
  | object hkeys _ ih => exact .object fun f hf => ⟨hkeys f hf, ih f hf⟩

/-- A **plain value reads back** from its printed text. -/
theorem Plain.parse?_print {j : Json} (h : Plain j) : parse? j.print = some j := by
  have hread := h.readsBack (2 * j.printChars.length + 1) [] (Nat.le_succ _) .nil
  rw [List.append_nil] at hread
  rw [parse?, print, String.toList_ofList, parseChars?, hread]
  rfl

end Json

end StackDeploy
