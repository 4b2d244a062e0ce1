import StackDeploy.Json.Record
import StackDeploy.Proofs.Json.Printing

/-!
# Records read back

What an object gives to a decoder of records: every field gets what was written for it, if no name
is used twice. A value `Carries` what it decodes as; such a value can be printed and read first.

* `slots?_ofFields` — the fields of an object that was written for a record.
* `Carries.decodes_print` — what a value carries is still there after it was printed and read.
* `Carries.list` — lists are carried by arrays.
-/

namespace StackDeploy

namespace Json

/-- A JSON value **carries** `a` to a decoder when it prints without loss and decodes as `a`. -/
structure Carries {α : Type} (j : Json) (decode : Json → Option α) (a : α) : Prop where
  plain : j.Plain
  decodes : decode j = some a

/-- What a value carries is still there after it was printed and read. -/
theorem Carries.decodes_print {α : Type} {j : Json} {decode : Json → Option α} {a : α}
    (h : Carries j decode a) : (parse? j.print).bind decode = some a := by
  rw [h.plain.parse?_print, Option.bind_some, h.decodes]

theorem Plain.ofFields {fields : List (String × Json)} (h : ∀ f ∈ fields, f.2.Plain) :
    (Json.ofFields fields).Plain := by
  refine .object (fun f hf => ?_) (fun f hf => ?_)
  · obtain ⟨g, -, rfl⟩ := List.mem_map.mp hf
    rfl
  · obtain ⟨g, hg, rfl⟩ := List.mem_map.mp hf
    exact h g hg

/-! ### Fields -/

/-- A partial function that succeeds on every member of a list succeeds on the list. -/
theorem mapM_map_of_forall {α β γ : Type} {write : α → β} {decode : β → Option γ} {image : α → γ}
    {as : List α} (h : ∀ a ∈ as, decode (write a) = some (image a)) :
    (as.map write).mapM decode = some (as.map image) := by
  induction as with
  | nil => rfl
  | cons a as ih =>
    have hhead := h a (List.mem_cons_self ..)
    have htail := ih fun b hb => h b (List.mem_cons_of_mem _ hb)
    rw [List.map_cons, List.mapM_cons, hhead, htail]
    rfl

theorem valuesOf_of_not_mem {name : String} {fields : List (String × Json)}
    (h : name ∉ fields.map Prod.fst) :
    valuesOf name (fields.map fun g => (some g.1, g.2)) = [] := by
  refine List.filterMap_eq_nil_iff.mpr fun f hf => ?_
  obtain ⟨g, hg, rfl⟩ := List.mem_map.mp hf
  have hne : g.1 ≠ name := fun he => h (he ▸ List.mem_map_of_mem hg)
  simp [hne]

/-- A name that stands once in an object has one value there. -/
theorem valuesOf_of_nodup {fields : List (String × Json)} (h : (fields.map Prod.fst).Nodup)
    {f : String × Json} (hf : f ∈ fields) :
    valuesOf f.1 (fields.map fun g => (some g.1, g.2)) = [f.2] := by
  induction fields with
  | nil => cases hf
  | cons g fields ih =>
    obtain ⟨hg, hfields⟩ := List.nodup_cons.mp h
    rcases List.mem_cons.mp hf with rfl | hf
    · have hrest := valuesOf_of_not_mem hg
      rw [valuesOf] at hrest ⊢
      simp [hrest]
    · have hne : g.1 ≠ f.1 := fun he => hg (he ▸ List.mem_map_of_mem hf)
      have hrest := ih hfields hf
      rw [valuesOf] at hrest ⊢
      simp [hrest, hne]

/-- An object gives every field of a record what was written for it. -/
theorem slots?_ofFields {names : List String} {fields : List (String × Json)}
    (hnames : names = fields.map Prod.fst) (h : names.Nodup) :
    slots? names (.ofFields fields) = some (fields.map fun f => .given f.2) := by
  subst hnames
  have hkeys : (fields.map fun f => (some f.1, f.2)).all (·.1.isSome) = true := by simp
  rw [Json.ofFields, slots?, if_pos hkeys]
  refine mapM_map_of_forall fun f hf => ?_
  rw [slotOf?, valuesOf_of_nodup h hf]

/-! ### Values of fields -/

@[simp] theorem Slot.required_given {α : Type} (decode : Json → Option α) (j : Json) :
    (Slot.given j).required decode = decode j := rfl

@[simp] theorem Slot.orDefault_given {α : Type} (a : α) (decode : Json → Option α) (j : Json) :
    (Slot.given j).orDefault a decode = decode j := rfl

@[simp] theorem plain_text (s : String) : (text s).Plain := .text s

@[simp] theorem asText?_text (s : String) : asText? (text s) = some s := rfl

/-- A list is carried by the array of what carries its members. -/
theorem Carries.list {α : Type} {write : α → Json} {decode : Json → Option α} {as : List α}
    (h : ∀ a ∈ as, Carries (write a) decode a) :
    Carries (.array (as.map write)) (asList? decode) as where
  plain := .array fun item hitem => by
    obtain ⟨a, ha, rfl⟩ := List.mem_map.mp hitem
    exact (h a ha).plain
  decodes := by
    have hread := mapM_map_of_forall (fun a ha => (h a ha).decodes)
    rw [List.map_id'] at hread
    exact hread

end Json

end StackDeploy
