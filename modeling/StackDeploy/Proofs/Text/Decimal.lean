import Mathlib.Algebra.Group.Nat.Defs
import StackDeploy.Text.Decimal

/-!
# Reading decimal numbers back

The decimal digits of a number read back as the number.

* `readNat?_natDigits` — reading is the inverse of writing.
* `readDigits?_fixedDigits` — with a fixed number of digits it is so too, whatever follows them.
-/

namespace StackDeploy.Text

theorem digitValue_digitChar : ∀ d < 10, digitValue (digitChar d) = d := by decide

theorem isDigit_digitChar : ∀ d < 10, isDigit (digitChar d) = true := by decide

theorem digitsValue_append_singleton (cs : List Char) (c : Char) :
    digitsValue (cs ++ [c]) = digitsValue cs * 10 + digitValue c := by
  rw [digitsValue, List.foldl_append]
  rfl

theorem natDigits_ne_nil (n : Nat) : natDigits n ≠ [] := by
  rw [natDigits]
  split <;> simp

theorem isDigit_of_mem_natDigits {n : Nat} {c : Char} (h : c ∈ natDigits n) : isDigit c = true := by
  induction n using natDigits.induct with
  | case1 n hlt =>
    rw [natDigits, if_pos hlt] at h
    obtain rfl := List.mem_singleton.mp h
    exact isDigit_digitChar n hlt
  | case2 n hge ih =>
    rw [natDigits, if_neg hge] at h
    rcases List.mem_append.mp h with h | h
    · exact ih h
    · obtain rfl := List.mem_singleton.mp h
      exact isDigit_digitChar _ (Nat.mod_lt n (by decide))

theorem digitsValue_natDigits (n : Nat) : digitsValue (natDigits n) = n := by
  induction n using natDigits.induct with
  | case1 n hlt =>
    rw [natDigits, if_pos hlt]
    have hvalue : digitsValue [digitChar n] = digitValue (digitChar n) := Nat.zero_add _
    rw [hvalue, digitValue_digitChar n hlt]
  | case2 n hge ih =>
    rw [natDigits, if_neg hge, digitsValue_append_singleton, ih,
      digitValue_digitChar _ (Nat.mod_lt n (by decide))]
    omega

/-- A number that was written reads back. -/
theorem readNat?_natDigits (n : Nat) : readNat? (natDigits n) = some n := by
  have hall : (natDigits n).all isDigit = true :=
    List.all_eq_true.mpr fun c hc => isDigit_of_mem_natDigits hc
  rw [readNat?, if_pos ⟨natDigits_ne_nil n, hall⟩, digitsValue_natDigits]

/-- A number that was written begins with a digit. -/
theorem natDigits_eq_cons (n : Nat) : ∃ d ds, natDigits n = d :: ds ∧ isDigit d = true := by
  obtain ⟨d, ds, hds⟩ := List.exists_cons_of_ne_nil (natDigits_ne_nil n)
  exact ⟨d, ds, hds, isDigit_of_mem_natDigits (hds ▸ List.mem_cons_self ..)⟩

theorem head?_natDigits_ne (n : Nat) {c : Char} (hc : isDigit c = false) :
    (natDigits n).head? ≠ some c := by
  intro hhead
  rw [isDigit_of_mem_natDigits (List.mem_of_mem_head? hhead)] at hc
  cases hc

/-- Only the number zero begins with a zero. -/
theorem eq_zero_of_head?_natDigits {n : Nat} (h : (natDigits n).head? = some '0') : n = 0 := by
  have hdigit : ∀ d < 10, digitChar d = '0' → d = 0 := by decide
  induction n using natDigits.induct with
  | case1 n hlt =>
    rw [natDigits, if_pos hlt] at h
    exact hdigit n hlt (Option.some.inj h)
  | case2 n hge ih =>
    obtain ⟨d, ds, hds⟩ := List.exists_cons_of_ne_nil (natDigits_ne_nil (n / 10))
    rw [natDigits, if_neg hge, hds] at h
    rw [hds] at ih
    have hquotient : n / 10 = 0 := ih h
    omega

/-! ### A fixed number of digits -/

@[simp] theorem length_fixedDigits (width n : Nat) : (fixedDigits width n).length = width := by
  induction width generalizing n with
  | zero => rfl
  | succ width ih => simp [fixedDigits, ih]

theorem isDigit_of_mem_fixedDigits {width n : Nat} {c : Char} (h : c ∈ fixedDigits width n) :
    isDigit c = true := by
  induction width generalizing n with
  | zero => cases h
  | succ width ih =>
    rcases List.mem_append.mp h with h | h
    · exact ih h
    · obtain rfl := List.mem_singleton.mp h
      exact isDigit_digitChar _ (Nat.mod_lt n (by decide))

theorem digitsValue_fixedDigits {width n : Nat} (h : n < 10 ^ width) :
    digitsValue (fixedDigits width n) = n := by
  induction width generalizing n with
  | zero =>
    obtain rfl : n = 0 := by simpa using h
    rfl
  | succ width ih =>
    have hlt : n / 10 < 10 ^ width := Nat.div_lt_of_lt_mul (by rwa [Nat.pow_succ'] at h)
    rw [fixedDigits, digitsValue_append_singleton, ih hlt,
      digitValue_digitChar _ (Nat.mod_lt n (by decide))]
    omega

theorem fixedDigits_eq_cons {width : Nat} (hwidth : 0 < width) (n : Nat) :
    ∃ d ds, fixedDigits width n = d :: ds ∧ isDigit d = true := by
  obtain ⟨d, ds, hds⟩ : ∃ d ds, fixedDigits width n = d :: ds :=
    List.exists_cons_of_ne_nil (List.ne_nil_of_length_pos (by simpa using hwidth))
  exact ⟨d, ds, hds, isDigit_of_mem_fixedDigits (hds ▸ List.mem_cons_self ..)⟩

/-- Digits are taken until the width is used up. -/
theorem takeDigits_append {ds : List Char} (hds : ∀ c ∈ ds, isDigit c = true) (width : Nat)
    (rest : List Char) :
    takeDigits (ds.length + width) (ds ++ rest) =
      (ds ++ (takeDigits width rest).1, (takeDigits width rest).2) := by
  induction ds with
  | nil => simp
  | cons d ds ih =>
    have hd : isDigit d = true := hds d (List.mem_cons_self ..)
    have htail := ih fun c hc => hds c (List.mem_cons_of_mem _ hc)
    rw [List.length_cons, Nat.add_right_comm, List.cons_append, takeDigits, if_pos hd, htail]
    rfl

/-- A number that was written with a fixed number of digits reads back, whatever follows it. -/
theorem readDigits?_fixedDigits {width n : Nat} (hwidth : 0 < width) (h : n < 10 ^ width)
    (rest : List Char) : readDigits? width (fixedDigits width n ++ rest) = some (n, rest) := by
  have htake : takeDigits width (fixedDigits width n ++ rest) = (fixedDigits width n, rest) := by
    simpa [takeDigits] using
      takeDigits_append (fun c (hc : c ∈ fixedDigits width n) => isDigit_of_mem_fixedDigits hc) 0
        rest
  obtain ⟨d, ds, hds, -⟩ := fixedDigits_eq_cons hwidth n
  have hvalue := digitsValue_fixedDigits h
  rw [hds] at htake hvalue
  simp only [readDigits?, hds, htake, hvalue]

end StackDeploy.Text
