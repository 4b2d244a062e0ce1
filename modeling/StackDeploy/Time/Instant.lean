import StackDeploy.Time.Date

/-!
# Instants

Points in time in UTC with nanosecond precision. The order compares the calendar fields from the
year down; it is defined by one integer, the `rank`, whose mixed-radix digits are those fields.

* `Instant.rank_inj` — the rank determines the instant, so the order is total and antisymmetric.
-/

namespace StackDeploy

/-- An **instant** in UTC. A nanosecond of one thousand million or more lies in a leap second, which
follows the second it is counted with. -/
structure Instant where
  date : Date
  /-- Seconds since midnight. -/
  second : Nat
  /-- Nanoseconds since the start of the second. -/
  nano : Nat
  second_lt : second < 86400
  nano_lt : nano < 2000000000
deriving DecidableEq

namespace Instant

/-- The position of an instant in the order of all instants. -/
def rank (t : Instant) : Int :=
  (((t.date.year * 12 + (t.date.month - 1)) * 31 + (t.date.day - 1)) * 86400 + t.second) *
    2000000000 + t.nano

instance : LE Instant := ⟨fun a b => a.rank ≤ b.rank⟩
instance : LT Instant := ⟨fun a b => a.rank < b.rank⟩
instance (a b : Instant) : Decidable (a ≤ b) := inferInstanceAs (Decidable (a.rank ≤ b.rank))
instance (a b : Instant) : Decidable (a < b) := inferInstanceAs (Decidable (a.rank < b.rank))

/-- Two instants of one rank are the same instant. -/
theorem rank_inj {a b : Instant} (h : a.rank = b.rank) : a = b := by
  obtain ⟨⟨ya, ma, da, hma, hda⟩, sa, na, hsa, hna⟩ := a
  obtain ⟨⟨yb, mb, db, hmb, hdb⟩, sb, nb, hsb, hnb⟩ := b
  have h31a := (daysInMonth_bounds ya ma).2
  have h31b := (daysInMonth_bounds yb mb).2
  simp only [rank] at h
  have hn : na = nb := by omega
  have hs : sa = sb := by omega
  have hd : da = db := by omega
  have hm : ma = mb := by omega
  have hy : ya = yb := by omega
  subst hn hs hd hm hy
  rfl

theorem le_refl (a : Instant) : a ≤ a := Int.le_refl _

theorem le_trans {a b c : Instant} (hab : a ≤ b) (hbc : b ≤ c) : a ≤ c :=
  Int.le_trans hab hbc

theorem le_antisymm {a b : Instant} (hab : a ≤ b) (hba : b ≤ a) : a = b :=
  rank_inj (Int.le_antisymm hab hba)

theorem le_of_lt {a b : Instant} (h : a < b) : a ≤ b := Int.le_of_lt h

theorem lt_of_lt_of_le {a b c : Instant} (hab : a < b) (hbc : b ≤ c) : a < c :=
  Int.lt_of_lt_of_le hab hbc

theorem le_total (a b : Instant) : a ≤ b ∨ b ≤ a := Int.le_total _ _

theorem not_lt {a b : Instant} : ¬ a < b ↔ b ≤ a := Int.not_lt

theorem not_le {a b : Instant} : ¬ a ≤ b ↔ b < a := Int.not_le

/-- The first instant of 1970. -/
def epoch : Instant := ⟨Date.epoch, 0, 0, by decide, by decide⟩

instance : Inhabited Instant := ⟨epoch⟩

/-- The instant that many seconds and nanoseconds after the first instant of 1970. -/
def ofUnix? (seconds : Int) (nano : Nat) : Option Instant :=
  if hn : nano < 2000000000 then
    (Date.ofDayNumber? (seconds / 86400)).map fun date =>
      ⟨date, (seconds % 86400).toNat, nano, by omega, hn⟩
  else none

/-- Whole seconds since the first instant of 1970. -/
def unixSeconds (t : Instant) : Int :=
  t.date.dayNumber * 86400 + t.second

/-- The instant that many minutes earlier, when its date can be counted. -/
def minutesBefore? (t : Instant) (minutes : Nat) : Option Instant :=
  ofUnix? (t.unixSeconds - minutes * 60) t.nano

end Instant

end StackDeploy
