import StackDeploy.Proofs.Text.Blank
import StackDeploy.Proofs.Text.Search
import StackDeploy.Template

/-!
# Templates and their grammar

A template reads in one way as texts with placeholders between them: a placeholder is opened by the
first opening mark that is left and closed by the first closing mark after it. Rendering puts the
values in the places of the placeholders, or fails with the error of the first bad one.

* `Template.Reads` — the grammar.
* `Template.Fills`, `Template.Faults` — the rendered text, and the error of the first bad
  placeholder.
* `Template.rendered_as_it_reads` — rendering follows the grammar.
-/

namespace StackDeploy.Template

open Text

/-! ### The grammar -/

/-- A **placeholder**: the text between it and the one before it, and the name of its variable. -/
structure Placeholder where
  before : List Char
  name : String
deriving DecidableEq, Repr

/-- A template **reads** as placeholders and the text after the last of them. -/
inductive Reads : List Char → List Placeholder → List Char → Prop
  /-- There is no placeholder that is opened and closed. -/
  | rest {content : List Char}
      (hunclosed : ∀ before after, CutsAt opening content before after → ¬ closing <:+: after) :
      Reads content [] content
  | placeholder {content before after inner remaining rest : List Char} {name : String}
      {placeholders : List Placeholder} (hopen : CutsAt opening content before after)
      (hclose : CutsAt closing after inner remaining) (hname : TrimsTo inner name.toList)
      (reads : Reads remaining placeholders rest) :
      Reads content (⟨before, name⟩ :: placeholders) rest

/-- A template is **filled** with the values of its variables. -/
inductive Fills (data : Table String String) (rest : List Char) :
    List Placeholder → List Char → Prop
  | rest : Fills data rest [] rest
  | placeholder {p : Placeholder} {placeholders : List Placeholder} {value : String}
      {text : List Char} (hvalue : data.get? p.name = some value)
      (fills : Fills data rest placeholders text) :
      Fills data rest (p :: placeholders) (p.before ++ value.toList ++ text)

/-- The variable of a placeholder **has a value**. -/
def Placeholder.IsKnown (data : Table String String) (p : Placeholder) : Prop :=
  ∃ value, data.get? p.name = some value

/-- The error of the **first bad placeholder**: its variable has no value, or it is not closed. -/
inductive Faults (data : Table String String) (rest : List Char) :
    List Placeholder → Error → Prop
  | unknownVariable {earlier later : List Placeholder} {p : Placeholder}
      (hearlier : ∀ q ∈ earlier, q.IsKnown data) (hnone : data.get? p.name = none) :
      Faults data rest (earlier ++ p :: later) (.unknownVariable p.name)
  /-- The error shows at most 24 characters from the opening mark on. -/
  | unclosed {placeholders : List Placeholder} {before after : List Char}
      (hknown : ∀ q ∈ placeholders, q.IsKnown data) (hopen : CutsAt opening rest before after) :
      Faults data rest placeholders (.unclosed (String.ofList ((opening ++ after).take 24)))

variable {data other : Table String String} {content rest : List Char}
  {placeholders : List Placeholder}

/-! ### Reading -/

namespace Reads

/-- Nothing is left of a template in which no placeholder is closed. -/
theorem of_unclosed {rest' : List Char} {placeholders' : List Placeholder}
    (hunclosed : ∀ before after, CutsAt opening content before after → ¬ closing <:+: after)
    (h : Reads content placeholders' rest') : placeholders' = [] ∧ rest' = content := by
  cases h with
  | rest => exact ⟨rfl, rfl⟩
  | placeholder hopen hclose => exact absurd hclose.occurs (hunclosed _ _ hopen)

/-- A template reads in **one way**. -/
theorem unique {rest' : List Char} {placeholders' : List Placeholder}
    (h : Reads content placeholders rest) (h' : Reads content placeholders' rest') :
    placeholders' = placeholders ∧ rest' = rest := by
  induction h generalizing placeholders' rest' with
  | rest hunclosed => exact of_unclosed hunclosed h'
  | placeholder hopen hclose hname _ ih =>
    cases h' with
    | rest hunclosed => exact absurd hclose.occurs (hunclosed _ _ hopen)
    | placeholder hopen' hclose' hname' reads' =>
      obtain ⟨rfl, rfl⟩ := hopen.unique hopen'
      obtain ⟨rfl, rfl⟩ := hclose.unique hclose'
      obtain ⟨rfl, rfl⟩ := ih reads'
      have hnames := (trimChars_eq_iff.mpr hname').symm.trans (trimChars_eq_iff.mpr hname)
      exact ⟨by rw [String.toList_inj.mp hnames], rfl⟩

/-- What remains after the last placeholder has none that is closed. -/
theorem unclosed (h : Reads content placeholders rest) :
    ∀ before after, CutsAt opening rest before after → ¬ closing <:+: after := by
  induction h with
  | rest hunclosed => exact hunclosed
  | placeholder _ _ _ _ ih => exact ih

end Reads

/-- Every template reads in some way: each placeholder takes at least its marks from it. -/
theorem exists_reads (content : List Char) : ∃ placeholders rest,
    Reads content placeholders rest := by
  induction hlength : content.length using Nat.strongRecOn generalizing content with
  | ind length ih =>
    by_cases hunclosed : ∀ before after, CutsAt opening content before after → ¬ closing <:+: after
    · exact ⟨[], content, .rest hunclosed⟩
    · push Not at hunclosed
      obtain ⟨before, after, hopen, hoccurs⟩ := hunclosed
      obtain ⟨inner, remaining, hclose⟩ := exists_cutsAt hoccurs
      have hshorter : remaining.length < length := by
        rw [← hlength, hopen.eq, hclose.eq]
        simp only [List.length_append, opening, closing, List.length_cons]
        omega
      obtain ⟨placeholders, rest, hreads⟩ := ih _ hshorter remaining rfl
      have hname : TrimsTo inner (String.ofList (trimChars inner)).toList := by
        rw [String.toList_ofList]
        exact trimsTo_trimChars inner
      exact ⟨_, rest, .placeholder hopen hclose hname hreads⟩

/-- Of three braces the outer two are the mark. -/
example : Reads "\x7b\x7b\x7b a \x7d\x7d\x7d".toList [⟨[], "\x7b a"⟩] ['}'] := by
  refine .placeholder (cutAt_eq_some_iff.mp rfl) (cutAt_eq_some_iff.mp rfl)
    (trimChars_eq_iff.mp rfl) (.rest fun before after hopen => ?_)
  cases cutAt_eq_some_iff.mpr hopen

/-! ### Rendering -/

section Steps

variable {before after inner remaining : List Char} {name : String}

theorem substituteChars_of_not_occurs (h : ¬ opening <:+: content) :
    substituteChars data content = .ok content := by
  have hcut := cutAt_eq_none_iff.mpr h
  rw [substituteChars]
  split
  · rfl
  next hsome => cases hcut.symm.trans hsome

theorem substituteChars_of_unclosed (hopen : CutsAt opening content before after)
    (h : ¬ closing <:+: after) :
    substituteChars data content = .error (.unclosed (excerpt (opening ++ after))) := by
  have hcut := cutAt_eq_some_iff.mpr hopen
  have hnone := cutAt_eq_none_iff.mpr h
  rw [substituteChars]
  split
  next hother => cases hcut.symm.trans hother
  next hsome =>
    cases hcut.symm.trans hsome
    split
    · rfl
    next hother => cases hnone.symm.trans hother

theorem substituteChars_of_placeholder (hopen : CutsAt opening content before after)
    (hclose : CutsAt closing after inner remaining) (hname : TrimsTo inner name.toList) :
    substituteChars data content =
      match data.get? name with
      | none => .error (.unknownVariable name)
      | some value => (substituteChars data remaining).map (before ++ value.toList ++ ·) := by
  have hcut := cutAt_eq_some_iff.mpr hopen
  have hcut' := cutAt_eq_some_iff.mpr hclose
  rw [substituteChars]
  split
  next hother => cases hcut.symm.trans hother
  next hsome =>
    cases hcut.symm.trans hsome
    split
    next hother => cases hcut'.symm.trans hother
    next hsome' =>
      cases hcut'.symm.trans hsome'
      simp only [trimChars_eq_iff.mpr hname, String.ofList_toList]
      cases data.get? name with
      | none => rfl
      | some value => cases substituteChars data remaining <;> rfl

end Steps

/-- The variables of a template's placeholders have values if it can be filled. -/
theorem Fills.isKnown {text : List Char} (h : Fills data rest placeholders text) :
    ∀ p ∈ placeholders, p.IsKnown data := by
  induction h with
  | rest => exact List.forall_mem_nil _
  | placeholder hvalue _ ih => exact List.forall_mem_cons.mpr ⟨⟨_, hvalue⟩, ih⟩

/-- The first placeholder is bad, or it is not and the first bad one comes later. -/
theorem faults_cons_iff {e : Error} {p : Placeholder} :
    Faults data rest (p :: placeholders) e ↔
      data.get? p.name = none ∧ e = .unknownVariable p.name ∨
        p.IsKnown data ∧ Faults data rest placeholders e := by
  constructor
  · generalize hall : p :: placeholders = all
    rintro (⟨hearlier, hnone⟩ | ⟨hknown, hopen⟩)
    next earlier later q =>
      cases earlier with
      | nil =>
        cases hall
        exact .inl ⟨hnone, rfl⟩
      | cons q' earlier =>
        cases hall
        obtain ⟨hp, hearlier⟩ := List.forall_mem_cons.mp hearlier
        exact .inr ⟨hp, .unknownVariable hearlier hnone⟩
    · cases hall
      obtain ⟨hp, hknown⟩ := List.forall_mem_cons.mp hknown
      exact .inr ⟨hp, .unclosed hknown hopen⟩
  · rintro (⟨hnone, rfl⟩ | ⟨hp, ⟨hearlier, hnone⟩ | ⟨hknown, hopen⟩⟩)
    · have hearlier : ∀ q ∈ ([] : List Placeholder), q.IsKnown data := List.forall_mem_nil _
      exact .unknownVariable hearlier hnone
    next earlier later q =>
      have hearlier : ∀ q' ∈ p :: earlier, q'.IsKnown data :=
        List.forall_mem_cons.mpr ⟨hp, hearlier⟩
      exact .unknownVariable hearlier hnone
    · exact .unclosed (List.forall_mem_cons.mpr ⟨hp, hknown⟩) hopen

/-- A template is filled when nothing in it is left open, or it has a bad placeholder. -/
theorem Reads.substituteChars_cases (data : Table String String)
    (h : Reads content placeholders rest) :
    (∃ text, substituteChars data content = .ok text ∧ ¬ opening <:+: rest ∧
        Fills data rest placeholders text) ∨
      ∃ e, substituteChars data content = .error e ∧ Faults data rest placeholders e := by
  induction h with
  | @rest content hunclosed =>
    by_cases hoccurs : opening <:+: content
    · obtain ⟨before, after, hopen⟩ := exists_cutsAt hoccurs
      exact .inr ⟨_, substituteChars_of_unclosed hopen (hunclosed _ _ hopen),
        .unclosed (List.forall_mem_nil _) hopen⟩
    · exact .inl ⟨content, substituteChars_of_not_occurs hoccurs, hoccurs, .rest⟩
  | @placeholder content before _ _ remaining rest name placeholders hopen hclose hname _ ih =>
    rw [substituteChars_of_placeholder hopen hclose hname]
    cases hvalue : data.get? name with
    | none => exact .inr ⟨_, rfl, faults_cons_iff.mpr (.inl ⟨hvalue, rfl⟩)⟩
    | some value =>
      obtain ⟨text, hok, hclosed, hfills⟩ | ⟨e, herror, hfaults⟩ := ih
      · exact .inl ⟨_, by rw [hok]; rfl, hclosed, .placeholder hvalue hfills⟩
      · exact .inr ⟨e, by rw [herror]; rfl, faults_cons_iff.mpr (.inr ⟨⟨value, hvalue⟩, hfaults⟩)⟩

/-! ### One outcome -/

/-- There is one way to fill a template. -/
theorem Fills.unique {text text' : List Char} (h : Fills data rest placeholders text)
    (h' : Fills data rest placeholders text') : text' = text := by
  induction h generalizing text' with
  | rest =>
    cases h'
    rfl
  | placeholder hvalue _ ih =>
    cases h' with
    | placeholder hvalue' fills' =>
      cases hvalue.symm.trans hvalue'
      rw [ih fills']

/-- There is one first bad placeholder. -/
theorem Faults.unique {e e' : Error} (h : Faults data rest placeholders e)
    (h' : Faults data rest placeholders e') : e' = e := by
  induction placeholders with
  | nil =>
    generalize hnil : ([] : List Placeholder) = none at h h'
    obtain ⟨_, _⟩ | ⟨_, hopen⟩ := h
    · cases List.append_ne_nil_of_right_ne_nil _ (List.cons_ne_nil _ _) hnil.symm
    · obtain ⟨_, _⟩ | ⟨_, hopen'⟩ := h'
      · cases List.append_ne_nil_of_right_ne_nil _ (List.cons_ne_nil _ _) hnil.symm
      · obtain ⟨rfl, rfl⟩ := hopen.unique hopen'
        rfl
  | cons p placeholders ih =>
    obtain ⟨hnone, rfl⟩ | ⟨⟨value, hvalue⟩, hlater⟩ := faults_cons_iff.mp h
    · obtain ⟨_, rfl⟩ | ⟨⟨value, hvalue⟩, _⟩ := faults_cons_iff.mp h'
      · rfl
      · cases hnone.symm.trans hvalue
    · obtain ⟨hnone, _⟩ | ⟨_, hlater'⟩ := faults_cons_iff.mp h'
      · cases hnone.symm.trans hvalue
      · exact ih hlater hlater'

/-- A template in which every variable has a value and nothing is left open has no bad
placeholder. -/
theorem Faults.not_all_good {e : Error} (h : Faults data rest placeholders e)
    (hclosed : ¬ opening <:+: rest) (hknown : ∀ p ∈ placeholders, p.IsKnown data) : False := by
  cases h with
  | unknownVariable _ hnone =>
    obtain ⟨value, hvalue⟩ := hknown _ (List.mem_append_right _ List.mem_cons_self)
    cases hnone.symm.trans hvalue
  | unclosed _ hopen => exact hclosed hopen.occurs

/-- Whether a placeholder is bad depends on which variables have values, not on the values. -/
theorem Faults.of_agree {e : Error} (h : Faults data rest placeholders e)
    (hagree : ∀ p ∈ placeholders, p.IsKnown data ↔ p.IsKnown other) :
    Faults other rest placeholders e := by
  cases h with
  | @unknownVariable earlier later p hearlier hnone =>
    have hp : p ∈ earlier ++ p :: later := List.mem_append_right _ List.mem_cons_self
    refine .unknownVariable (fun q hq => ?_) ?_
    · exact (hagree q (List.mem_append_left _ hq)).mp (hearlier q hq)
    · refine Option.eq_none_iff_forall_ne_some.mpr fun value hvalue => ?_
      obtain ⟨value', hvalue'⟩ := (hagree p hp).mpr ⟨value, hvalue⟩
      cases hnone.symm.trans hvalue'
  | unclosed hknown hopen =>
    exact .unclosed (fun q hq => (hagree q hq).mp (hknown q hq)) hopen

section Outcome

variable {cs : List Char}

/-- A template is rendered as **what it is filled to**. -/
theorem Reads.substituteChars_eq_ok_iff (h : Reads content placeholders rest) :
    substituteChars data content = .ok cs ↔
      ¬ opening <:+: rest ∧ Fills data rest placeholders cs := by
  obtain ⟨text, hok, hclosed, hfills⟩ | ⟨e, herror, hfaults⟩ := h.substituteChars_cases data
  · rw [hok]
    constructor
    · rintro ⟨⟩
      exact ⟨hclosed, hfills⟩
    · rintro ⟨_, hfills'⟩
      rw [hfills.unique hfills']
  · rw [herror]
    constructor
    · exact nofun
    · rintro ⟨hclosed, hfills⟩
      exact (hfaults.not_all_good hclosed hfills.isKnown).elim

/-- A template is refused with the error of its **first bad placeholder**. -/
theorem Reads.substituteChars_eq_error_iff {e : Error} (h : Reads content placeholders rest) :
    substituteChars data content = .error e ↔ Faults data rest placeholders e := by
  obtain ⟨text, hok, hclosed, hfills⟩ | ⟨e', herror, hfaults⟩ := h.substituteChars_cases data
  · rw [hok]
    constructor
    · exact nofun
    · exact fun hfaults => (hfaults.not_all_good hclosed hfills.isKnown).elim
  · rw [herror]
    constructor
    · rintro ⟨⟩
      exact hfaults
    · exact fun hfaults' => by rw [hfaults.unique hfaults']

theorem Reads.exists_ok_iff (h : Reads content placeholders rest) :
    (∃ cs, substituteChars data content = .ok cs) ↔
      ¬ opening <:+: rest ∧ ∀ p ∈ placeholders, p.IsKnown data := by
  constructor
  · rintro ⟨cs, hok⟩
    obtain ⟨hclosed, hfills⟩ := h.substituteChars_eq_ok_iff.mp hok
    exact ⟨hclosed, hfills.isKnown⟩
  · rintro ⟨hclosed, hknown⟩
    obtain ⟨cs, hok, _⟩ | ⟨e, _, hfaults⟩ := h.substituteChars_cases data
    · exact ⟨cs, hok⟩
    · exact (hfaults.not_all_good hclosed hknown).elim

end Outcome

theorem substitute_eq_ok_iff {content text : String} :
    substitute content data = .ok text ↔
      substituteChars data content.toList = .ok text.toList := by
  rw [substitute]
  cases substituteChars data content.toList with
  | error e => simp [Except.map]
  | ok cs => simp [Except.map, ← String.toList_inj]

theorem substitute_eq_error_iff {content : String} {e : Error} :
    substitute content data = .error e ↔ substituteChars data content.toList = .error e := by
  rw [substitute]
  cases substituteChars data content.toList <;> simp [Except.map]

/-- Rendering **follows the grammar**. A template reads in exactly one way as placeholders and the
text after them. It is rendered exactly when every placeholder is closed and all variables have
values, and then it is filled with the values as they are; else its first bad placeholder is the
error. What the values are changes neither whether there is an error nor which one. -/
theorem rendered_as_it_reads (content : String) :
    ∃ placeholders rest, Reads content.toList placeholders rest ∧
      (∀ placeholders' rest', Reads content.toList placeholders' rest' →
        placeholders' = placeholders ∧ rest' = rest) ∧
      ∀ data : Table String String,
        ((∃ text, substitute content data = .ok text) ↔
          ¬ opening <:+: rest ∧ ∀ p ∈ placeholders, p.IsKnown data) ∧
        (∀ text, substitute content data = .ok text ↔
          ¬ opening <:+: rest ∧ Fills data rest placeholders text.toList) ∧
        (∀ e, substitute content data = .error e ↔ Faults data rest placeholders e) ∧
        ∀ other, (∀ p ∈ placeholders, p.IsKnown data ↔ p.IsKnown other) →
          ∀ e, substitute content data = .error e ↔ substitute content other = .error e := by
  obtain ⟨placeholders, rest, hreads⟩ := exists_reads content.toList
  have herror : ∀ data e, substitute content data = .error e ↔ Faults data rest placeholders e :=
    fun data e => substitute_eq_error_iff.trans hreads.substituteChars_eq_error_iff
  refine ⟨placeholders, rest, hreads, fun _ _ => hreads.unique, fun data => ⟨?_, ?_, ?_, ?_⟩⟩
  · rw [← hreads.exists_ok_iff]
    constructor
    · rintro ⟨text, hok⟩
      exact ⟨text.toList, substitute_eq_ok_iff.mp hok⟩
    · rintro ⟨cs, hok⟩
      refine ⟨String.ofList cs, substitute_eq_ok_iff.mpr ?_⟩
      rwa [String.toList_ofList]
  · exact fun text => substitute_eq_ok_iff.trans hreads.substituteChars_eq_ok_iff
  · exact herror data
  · intro other hagree e
    rw [herror, herror]
    exact ⟨fun h => h.of_agree hagree, fun h => h.of_agree fun p hp => (hagree p hp).symm⟩

end StackDeploy.Template
