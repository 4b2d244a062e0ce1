import StackDeploy.Proofs.Text.Decimal
import StackDeploy.Time.Rfc3339
import Mathlib.Tactic.SplitIfs

/-!
# Timestamps read back

The timestamp of an instant is read as that instant. Years with a sign and leap seconds are left
out: a leap second is written as the second 60, which only the last second of a minute reads back
from.

* `Instant.IsOrdinary` — the years 0 to 9999 without leap seconds.
* `Instant.parse?_print` — the timestamp of an ordinary instant reads back.
-/

namespace StackDeploy

open Text

/-- Digits are not blank. -/
theorem Text.isBlank_of_isDigit {c : Char} (h : isDigit c = true) : isBlank c = false := by
  simp only [isDigit, Bool.and_eq_true, decide_eq_true_eq, Char.le_def, UInt32.le_iff_toNat_le] at h
  change 48 ≤ c.toNat ∧ c.toNat ≤ 57 at h
  simp only [isBlank, Bool.or_eq_false_iff, Bool.and_eq_false_iff, decide_eq_false_iff_not,
    beq_eq_false_iff_ne]
  omega

theorem Text.trimStart_cons {c : Char} (hc : isBlank c = false) (cs : List Char) :
    trimStart (c :: cs) = c :: cs :=
  List.dropWhile_cons_of_neg (by simp [hc])

/-- Nothing is trimmed in front of digits. -/
theorem Text.trimStart_fixedDigits {width : Nat} (hwidth : 0 < width) (n : Nat)
    (rest : List Char) : trimStart (fixedDigits width n ++ rest) = fixedDigits width n ++ rest := by
  obtain ⟨d, ds, hds, hd⟩ := fixedDigits_eq_cons hwidth n
  rw [hds]
  exact trimStart_cons (isBlank_of_isDigit hd) (ds ++ rest)

namespace Instant

/-- An instant is **ordinary** when its year is one of 0 to 9999 and it is in no leap second. -/
structure IsOrdinary (t : Instant) : Prop where
  year_nonneg : 0 ≤ t.date.year
  year_le : t.date.year ≤ 9999
  nano_lt : t.nano < 1000000000

/-! ### The parts of a timestamp -/

theorem expect?_cons {c : Char} (hc : isBlank c = false) (rest : List Char) :
    expect? c (c :: rest) = some rest := by
  simp only [expect?, trimStart_cons hc, if_true]

theorem readPair?_fixedDigits {n : Nat} (h : n < 100) (rest : List Char) :
    readPair? (fixedDigits 2 n ++ rest) = some (n, rest) := by
  rw [readPair?, trimStart_fixedDigits (by decide), readDigits?_fixedDigits (by decide) h]

theorem readYear?_fixedDigits {n : Nat} (h : n < 10000) (rest : List Char) :
    readYear? (fixedDigits 4 n ++ rest) = some ((n : Int), rest) := by
  obtain ⟨d, ds, hds, hd⟩ := fixedDigits_eq_cons (show 0 < 4 by decide) n
  have hread := readDigits?_fixedDigits (show 0 < 4 by decide) h rest
  rw [readYear?, trimStart_fixedDigits (by decide)]
  rw [hds] at hread ⊢
  split
  · next hsign =>
    obtain rfl : d = '-' := (List.cons.inj hsign).1
    cases hd
  · next hsign =>
    obtain rfl : d = '+' := (List.cons.inj hsign).1
    cases hd
  · rw [hread]
    rfl

/-- At most nine digits of a fraction read as nanoseconds. -/
theorem readFraction?_fixedDigits {width n : Nat} (hpos : 0 < width) (hle : width ≤ 9)
    (h : n < 10 ^ width) :
    readFraction? ('.' :: fixedDigits width n ++ ['Z']) = some (n * 10 ^ (9 - width), ['Z']) := by
  have htake : takeDigits 9 (fixedDigits width n ++ ['Z']) = (fixedDigits width n, ['Z']) := by
    have happend := takeDigits_append
      (fun c (hc : c ∈ fixedDigits width n) => isDigit_of_mem_fixedDigits hc) (9 - width) ['Z']
    have hstop : ∀ k, takeDigits k ['Z'] = ([], ['Z']) := fun k => by cases k <;> rfl
    rwa [length_fixedDigits, Nat.add_sub_cancel' hle, hstop, List.append_nil] at happend
  have hlength := length_fixedDigits width n
  have hvalue := digitsValue_fixedDigits h
  obtain ⟨d, ds, hds, -⟩ := fixedDigits_eq_cons hpos n
  rw [hds] at htake hlength hvalue
  simp only [readFraction?, List.cons_append, hds]
  rw [← List.cons_append, htake]
  simp only [hvalue, hlength]
  rfl

/-- The fraction of a second reads back. -/
theorem readFraction?_printFraction {nano : Nat} (h : nano < 1000000000) :
    readFraction? (printFraction nano ++ ['Z']) = some (nano, ['Z']) := by
  unfold printFraction
  split_ifs with hzero hmilli hmicro
  · subst hzero
    rfl
  · have hvalue : nano / 1000000 * 10 ^ (9 - 3) = nano := by omega
    rw [readFraction?_fixedDigits (by decide) (by decide) (by omega), hvalue]
  · have hvalue : nano / 1000 * 10 ^ (9 - 6) = nano := by omega
    rw [readFraction?_fixedDigits (by decide) (by decide) (by omega), hvalue]
  · have hvalue : nano * 10 ^ (9 - 9) = nano := by omega
    rw [readFraction?_fixedDigits (by decide) (by decide) h, hvalue]

/-- A clock that shows UTC shows the instant. -/
theorem ofLocal?_self {t : Instant} (ht : t.IsOrdinary) :
    ofLocal? t.date (t.second / 3600) (t.second / 60 % 60) (t.second % 60) t.nano 0 = some t := by
  obtain ⟨hyear, hyear', hnano⟩ := ht
  have hsecond := t.second_lt
  rw [ofLocal?, dif_pos (by omega)]
  have hclock : t.second % 60 ≠ 60 := by omega
  have hshifted : ((t.second / 3600 : Nat) : Int) * 3600 + (t.second / 60 % 60 : Nat) * 60 +
      (t.second % 60 : Nat) - 0 = t.second := by omega
  have hrange : yearInRange t.date = true := by
    simp only [yearInRange, Bool.and_eq_true, decide_eq_true_eq]
    omega
  have hearly : ¬ (t.second : Int) < 0 := by omega
  have hlate : ¬ 86400 ≤ (t.second : Int) := by omega
  simp only [if_neg hclock, hshifted, if_neg hearly, if_neg hlate, hrange, Bool.and_self, if_true]
  have hmod : ((t.second : Int) % 86400).toNat = t.second := by omega
  simp only [hmod, Nat.add_zero]

/-- The **timestamp** of an ordinary instant **reads back**. -/
theorem parse?_print {t : Instant} (ht : t.IsOrdinary) : parse? t.print = some t := by
  obtain ⟨year, hyear⟩ := Int.eq_ofNat_of_zero_le ht.year_nonneg
  have hyear_le := ht.year_le
  have hmonth_le := t.date.month_bounds
  have hday_le := t.date.day_bounds
  have hdays := daysInMonth_bounds t.date.year t.date.month
  have hsecond := t.second_lt
  -- what is written: four digits of year, no leap second
  have hprint : printYear t.date.year = fixedDigits 4 year := by
    rw [printYear, if_pos ⟨ht.year_nonneg, ht.year_le⟩, hyear]
    rfl
  have hleap : t.nano / 1000000000 = 0 := Nat.div_eq_of_lt ht.nano_lt
  have hfraction : t.nano % 1000000000 = t.nano := Nat.mod_eq_of_lt ht.nano_lt
  -- what is read, part by part
  have hreadYear := readYear?_fixedDigits (show year < 10000 by omega)
  have hmonth := readPair?_fixedDigits (show t.date.month < 100 by omega)
  have hday := readPair?_fixedDigits (show t.date.day < 100 by omega)
  have hhour := readPair?_fixedDigits (show t.second / 3600 < 100 by omega)
  have hminute := readPair?_fixedDigits (show t.second / 60 % 60 < 100 by omega)
  have hclock := readPair?_fixedDigits (show t.second % 60 + 0 < 100 by omega)
  have hnano := readFraction?_printFraction ht.nano_lt
  have hoffset : readOffset? ['Z'] = some (0, []) := rfl
  have hend : trimStart [] = [] := rfl
  have hdate := Date.of?_self t.date
  rw [hyear] at hdate
  rw [parse?, print, String.toList_ofList, printChars, parseChars?]
  simp only [hprint, hleap, hfraction, List.append_assoc, List.cons_append, Option.bind_eq_bind]
  -- the date, then the time of day, then the fraction and the offset
  simp only [hreadYear, hmonth, hday, expect?_cons (c := '-') rfl, Option.bind_some]
  simp only [hhour, hminute, hclock, expect?_cons (c := ':') rfl, Option.bind_some]
  simp only [hnano, hoffset, hend, Option.bind_some]
  rw [if_neg (by simp), hdate]
  exact ofLocal?_self ht

end Instant

end StackDeploy
