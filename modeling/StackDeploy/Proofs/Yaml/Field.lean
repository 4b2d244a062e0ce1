import StackDeploy.Yaml.Record

/-!
# Fields of a mapping

What a mapping of a document says about a field of a record, and that reading the record finds it.

* `Yaml.Document.valuesAt?` — the values that a mapping has beside a name.
* `Yaml.Document.Gives` — a mapping gives a field a value, or leaves it unset.
* `Yaml.Document.gives_of_fieldOr` — what is read for an optional field is what its mapping gives.
-/

namespace StackDeploy

/-- In a table in which no key stands twice, a key has the one value that stands beside it. -/
theorem Table.map_snd_filter {κ ν : Type} [DecidableEq κ] {t : Table κ ν} (key : κ)
    (hnodup : (t.map Prod.fst).Nodup) :
    (t.filter (·.1 = key)).map Prod.snd = (t.get? key).toList := by
  induction t with
  | nil => rfl
  | cons entry rest ih =>
    obtain ⟨k, v⟩ := entry
    obtain ⟨hfirst, hrest⟩ := List.nodup_cons.mp hnodup
    by_cases hk : k = key
    · subst hk
      have hnone : get? rest k = none := get?_eq_none_iff.mpr hfirst
      rw [List.filter_cons_of_pos (by simp), List.map_cons, ih hrest, hnone, get?, if_pos rfl]
      rfl
    · rw [List.filter_cons_of_neg (by simpa using hk), ih hrest, get?, if_neg hk]

namespace Yaml.Document

variable {α : Type} {d : Document} {node : Node} {name : String} {names : List String}
  {fields : Table String Node} {decode : Node → Option α}

/-- The values that stand **beside a name** in a mapping whose names are texts. -/
def valuesAt? (d : Document) (node : Node) (name : String) : Option (List Node) :=
  (d.textEntries? node).map fun entries => (entries.filter (·.1 = name)).map Prod.snd

/-- A mapping **gives** a field this value, or nothing if the field is missing or null. -/
inductive Gives (d : Document) (decode : Node → Option α) (node : Node) (name : String) :
    Option α → Prop
  | missing (h : d.valuesAt? node name = some []) : Gives d decode node name none
  | given {value : Node} {result : Option α} (h : d.valuesAt? node name = some [value])
      (hresult : d.asOption? decode value = some result) : Gives d decode node name result

/-- The fields of a record stand in the mapping, each at most once. -/
theorem valuesAt?_of_fields? (h : d.fields? names node = some fields) (hname : name ∈ names) :
    d.valuesAt? node name = some (fields.get? name).toList := by
  rw [fields?] at h
  obtain ⟨entries, hentries, h⟩ := Option.bind_eq_some_iff.mp h
  dsimp only at h
  split at h
  next hnodup =>
    obtain rfl := Option.some.inj h
    have hknown : (entries.filter (names.contains ·.1)).filter (·.1 = name)
        = entries.filter (·.1 = name) := by
      rw [List.filter_filter]
      refine List.filter_congr fun entry _ => ?_
      by_cases heq : entry.1 = name <;> simp [heq, hname]
    rw [← Table.map_snd_filter name hnodup, hknown, valuesAt?, hentries, Option.map_some]
  next => cases h

/-- What is read for an optional field is what its mapping **gives**. -/
theorem gives_of_fieldOr {result : Option α} (h : d.fields? names node = some fields)
    (hname : name ∈ names)
    (hfield : fieldOr fields name none (d.asOption? decode) = some result) :
    d.Gives decode node name result := by
  have hvalues := valuesAt?_of_fields? h hname
  rw [fieldOr] at hfield
  cases hget : fields.get? name with
  | none =>
    rw [hget] at hfield hvalues
    obtain rfl := Option.some.inj hfield
    exact .missing hvalues
  | some value =>
    rw [hget] at hfield hvalues
    exact .given hvalues hfield

end Yaml.Document

end StackDeploy
