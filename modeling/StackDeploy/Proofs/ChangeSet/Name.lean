import Mathlib.Data.List.Basic
import StackDeploy.ChangeSet.Name

/-!
# Names are told apart

The text of a UUID shows all its bytes, so the names of change sets that are made of different UUIDs
differ.

* `byteDigits_injective`, `flatMap_byteDigits_injective` — the digits tell the bytes.
* `markRandom_eq_of_changeSetName_eq` — the name tells the UUID.
-/

namespace StackDeploy

open Text

/-- The digits of a byte tell the byte. -/
theorem byteDigits_injective : Function.Injective byteDigits := by
  intro a b h
  have ha := a.toNat_lt
  have hb := b.toNat_lt
  obtain ⟨hhigh, hlow⟩ := List.cons.inj h
  have hhigh := congrArg hexValue? hhigh
  have hlow := congrArg hexValue? (List.cons.inj hlow).1
  rw [hexValue?_hexDigit _ (by omega), hexValue?_hexDigit _ (by omega)] at hhigh hlow
  have hhigh := Option.some.inj hhigh
  have hlow := Option.some.inj hlow
  exact UInt8.toNat_inj.mp (by omega)

/-- The digits of bytes tell the bytes. -/
theorem flatMap_byteDigits_injective :
    Function.Injective fun bytes : List UInt8 => bytes.flatMap byteDigits := by
  intro first
  induction first with
  | nil =>
    rintro (_ | ⟨b, second⟩) h
    · rfl
    · cases h
  | cons a first ih =>
    rintro (_ | ⟨b, second⟩) h
    · cases h
    · obtain ⟨hbyte, hrest⟩ := List.append_inj h rfl
      rw [byteDigits_injective hbyte, ih hrest]

/-- No digit is the mark that stands between the groups of a UUID. -/
theorem ne_dash_of_mem_byteDigits {b : UInt8} {c : Char} (h : c ∈ byteDigits b) : c ≠ '-' := by
  have hb := b.toNat_lt
  have hdigit : ∀ n < 16, hexDigit n ≠ '-' := by decide
  rcases List.mem_pair.mp h with rfl | rfl
  · exact hdigit _ (by omega)
  · exact hdigit _ (by omega)

/-- Thirty-two digits are the five groups of a UUID, one after the other. -/
theorem groups_append {digits : List Char} (h : digits.length = 32) :
    digits.take 8 ++ (digits.drop 8).take 4 ++ (digits.drop 12).take 4 ++ (digits.drop 16).take 4 ++
      (digits.drop 20).take 12 = digits := by
  rw [← List.take_add, ← List.take_add, ← List.take_add, ← List.take_add]
  exact List.take_of_length_le (Nat.le_of_eq h)

theorem length_flatMap_byteDigits (bytes : List UInt8) :
    (bytes.flatMap byteDigits).length = 2 * bytes.length := by
  induction bytes with
  | nil => rfl
  | cons b bytes ih =>
    rw [List.flatMap_cons, List.length_append, ih, List.length_cons, Nat.mul_succ, Nat.add_comm]
    rfl

/-- Without the marks between its groups, a UUID consists of the digits of its bytes. -/
theorem filter_randomUuid {bytes : List UInt8} (h : bytes.length = 16) :
    (randomUuid bytes).toList.filter (· ≠ '-') = (markRandom bytes).flatMap byteDigits := by
  have hlength : ((markRandom bytes).flatMap byteDigits).length = 32 := by
    rw [length_flatMap_byteDigits, markRandom, List.length_modify, List.length_modify, h]
  have hdigits : ∀ c ∈ (markRandom bytes).flatMap byteDigits, c ≠ '-' := by
    intro c hc
    obtain ⟨b, -, hc⟩ := List.mem_flatMap.mp hc
    exact ne_dash_of_mem_byteDigits hc
  have hgroup (start length : Nat) :
      ((((markRandom bytes).flatMap byteDigits).drop start).take length).filter (· ≠ '-') =
        (((markRandom bytes).flatMap byteDigits).drop start).take length := by
    refine List.filter_eq_self.mpr fun c hc => decide_eq_true (hdigits c ?_)
    exact List.mem_of_mem_drop (List.mem_of_mem_take hc)
  have hdash : "-".toList.filter (· ≠ '-') = [] := rfl
  refine Eq.trans ?_ (groups_append hlength)
  simp only [randomUuid, String.toList_append, String.toList_ofList, List.filter_append, hgroup,
    hdash, List.append_nil]
  rw [List.drop_zero]

/-- The name of a change set tells its UUID. -/
theorem markRandom_eq_of_changeSetName_eq {first second : List UInt8} (hfirst : first.length = 16)
    (hsecond : second.length = 16) (h : changeSetName first = changeSetName second) :
    markRandom first = markRandom second := by
  have huuid : (randomUuid first).toList = (randomUuid second).toList := by
    have hnames := congrArg String.toList h
    rw [changeSetName, changeSetName, String.toList_append, String.toList_append] at hnames
    exact List.append_cancel_left hnames
  have hdigits := congrArg (List.filter (· ≠ '-')) huuid
  rw [filter_randomUuid hfirst, filter_randomUuid hsecond] at hdigits
  exact flatMap_byteDigits_injective hdigits

end StackDeploy
