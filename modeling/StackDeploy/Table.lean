/-!
# Tables

Finite tables as lists of pairs. A key stands in a table at most once if every entry was made by
`Table.set`, and `Table.get?` reads what was set last.

* `Table.get?_set_self`, `Table.get?_set_of_ne` — what a table holds after an entry was set.
* `Table.get?_erase_self`, `Table.get?_erase_of_ne` — and after one was erased.
* `Table.get?_eq_some_iff_mem` — a key reads as the value beside it, if it stands in one entry only.
-/

namespace StackDeploy

/-- A **table** with keys of type `κ` and values of type `ν`. -/
abbrev Table (κ ν : Type) := List (κ × ν)

namespace Table

variable {κ ν : Type} [DecidableEq κ]

/-- The value of a key. -/
def get? (t : Table κ ν) (key : κ) : Option ν :=
  match t with
  | [] => none
  | (k, v) :: rest => if k = key then some v else get? rest key

/-- Sets the value of a key; a new key comes last. -/
def set (t : Table κ ν) (key : κ) (value : ν) : Table κ ν :=
  match t with
  | [] => [(key, value)]
  | (k, v) :: rest => if k = key then (k, value) :: rest else (k, v) :: set rest key value

/-- Removes a key. -/
def erase (t : Table κ ν) (key : κ) : Table κ ν :=
  List.filter (fun entry => decide (entry.1 ≠ key)) t

/-- The key has a value. -/
def contains (t : Table κ ν) (key : κ) : Bool :=
  (t.get? key).isSome

@[simp] theorem get?_nil (key : κ) : get? ([] : Table κ ν) key = none := rfl

@[simp] theorem get?_set_self (t : Table κ ν) (key : κ) (value : ν) :
    (t.set key value).get? key = some value := by
  induction t with
  | nil => simp [set, get?]
  | cons entry rest ih =>
    obtain ⟨k, v⟩ := entry
    by_cases h : k = key <;> simp [set, get?, h, ih]

theorem get?_set_of_ne (t : Table κ ν) {key other : κ} (value : ν) (h : other ≠ key) :
    (t.set key value).get? other = t.get? other := by
  induction t with
  | nil => simp [set, get?, Ne.symm h]
  | cons entry rest ih =>
    obtain ⟨k, v⟩ := entry
    by_cases hk : k = key
    · subst hk
      simp [set, get?, Ne.symm h]
    · simp only [set, hk, ↓reduceIte, get?, ih]

theorem get?_set (t : Table κ ν) (key other : κ) (value : ν) :
    (t.set key value).get? other = if other = key then some value else t.get? other := by
  split
  next h => rw [h, get?_set_self]
  next h => exact get?_set_of_ne t value h

/-- A key that has no value comes last. -/
theorem set_of_get?_eq_none {t : Table κ ν} {key : κ} (h : t.get? key = none) (value : ν) :
    t.set key value = t ++ [(key, value)] := by
  induction t with
  | nil => rfl
  | cons entry rest ih =>
    obtain ⟨k, v⟩ := entry
    by_cases hk : k = key
    · simp [get?, hk] at h
    · rw [get?, if_neg hk] at h
      rw [set, if_neg hk, ih h, List.cons_append]

theorem mem_of_get?_eq_some {t : Table κ ν} {key : κ} {value : ν} (h : t.get? key = some value) :
    (key, value) ∈ t := by
  induction t with
  | nil => cases h
  | cons entry rest ih =>
    obtain ⟨k, v⟩ := entry
    by_cases hk : k = key
    · rw [get?, if_pos hk] at h
      obtain rfl := Option.some.inj h
      exact hk ▸ List.mem_cons_self
    · rw [get?, if_neg hk] at h
      exact List.mem_cons_of_mem _ (ih h)

theorem get?_eq_none_iff {t : Table κ ν} {key : κ} :
    t.get? key = none ↔ key ∉ t.map Prod.fst := by
  induction t with
  | nil => simp
  | cons entry rest ih =>
    obtain ⟨k, v⟩ := entry
    by_cases hk : k = key
    · simp [get?, hk]
    · simp [get?, hk, ih, Ne.symm hk]

/-- When no key stands in two entries, a key has the value that stands beside it. -/
theorem get?_eq_some_iff_mem {t : Table κ ν} (hnodup : (t.map Prod.fst).Nodup) {key : κ}
    {value : ν} : t.get? key = some value ↔ (key, value) ∈ t := by
  refine ⟨mem_of_get?_eq_some, fun hmem => ?_⟩
  induction t with
  | nil => cases hmem
  | cons entry rest ih =>
    obtain ⟨k, v⟩ := entry
    obtain ⟨hfirst, hrest⟩ := List.nodup_cons.mp hnodup
    rcases List.mem_cons.mp hmem with hentry | hmem
    · obtain ⟨rfl, rfl⟩ := Prod.mk.inj hentry
      simp [get?]
    · have hne : k ≠ key := by
        rintro rfl
        exact hfirst (List.mem_map.mpr ⟨_, hmem, rfl⟩)
      rw [get?, if_neg hne, ih hrest hmem]

@[simp] theorem get?_erase_self (t : Table κ ν) (key : κ) : (t.erase key).get? key = none := by
  induction t with
  | nil => rfl
  | cons entry rest ih =>
    obtain ⟨k, v⟩ := entry
    by_cases hk : k = key
    · simpa [erase, List.filter_cons, hk] using ih
    · simpa [erase, List.filter_cons, hk, get?] using ih

theorem get?_erase_of_ne (t : Table κ ν) {key other : κ} (h : other ≠ key) :
    (t.erase key).get? other = t.get? other := by
  induction t with
  | nil => rfl
  | cons entry rest ih =>
    obtain ⟨k, v⟩ := entry
    by_cases hk : k = key
    · subst hk
      simpa [erase, List.filter_cons, get?, Ne.symm h] using ih
    · by_cases ho : k = other
      · subst ho
        simp [erase, get?, h]
      · simpa [erase, List.filter_cons, hk, get?, ho] using ih

end Table

end StackDeploy
