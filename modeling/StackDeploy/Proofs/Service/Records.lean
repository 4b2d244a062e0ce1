import StackDeploy.Proofs.Json.Record
import StackDeploy.Proofs.Time.Rfc3339
import StackDeploy.Service.Records

/-!
# Records survive the wire

A record that is written as JSON text and read from it again is the same record. Each record type
has one lemma, from those of its parts: its JSON form carries it.

* `Stack.carries`, `StackEvent.carries`, `ChangeSet.carries` and the like.
* `records_read_back` — all of them, through the text.
-/

namespace StackDeploy

open Text Json

/-! ### Optional texts -/

@[simp] theorem Json.plain_ofOptionalText (o : Option String) : (ofOptionalText o).Plain := by
  cases o with
  | none => exact .null
  | some s => exact .text s

@[simp] theorem Json.asOptionalText?_ofOptionalText (o : Option String) :
    asOptionalText? (ofOptionalText o) = some o := by
  cases o <;> rfl

/-! ### Stacks -/

theorem Parameter.carries (p : Parameter) : Carries p.toJson Parameter.ofJson? p where
  plain := .ofFields (by simp)
  decodes := by simp [ofJson?, toJson, slots?_ofFields]

theorem Tag.carries (t : Tag) : Carries t.toJson Tag.ofJson? t where
  plain := .ofFields (by simp)
  decodes := by simp [ofJson?, toJson, slots?_ofFields]

theorem Output.carries (o : Output) : Carries o.toJson Output.ofJson? o where
  plain := .ofFields (by simp)
  decodes := by simp [ofJson?, toJson, slots?_ofFields]

/-- A stack is carried when its status was read from a text. -/
theorem Stack.carries {s : Stack} (hs : ∃ text, s.status = .ofText text) :
    Carries s.toJson Stack.ofJson? s := by
  obtain ⟨text, htext⟩ := hs
  have hstatus : StackStatus.ofText s.status.text = s.status := by
    rw [htext, StackStatus.text_ofText]
  have houtputs := Carries.list fun o (_ : o ∈ s.outputs) => o.carries
  have hparameters := Carries.list fun p (_ : p ∈ s.parameters) => p.carries
  have htags := Carries.list fun t (_ : t ∈ s.tags) => t.carries
  refine ⟨.ofFields ?_, ?_⟩
  · simp [houtputs.plain, hparameters.plain, htags.plain]
  · simp [ofJson?, toJson, slots?_ofFields, hstatus, houtputs.decodes, hparameters.decodes,
      htags.decodes]

/-! ### Events -/

theorem Instant.carries {t : Instant} (ht : t.IsOrdinary) : Carries t.toJson Instant.ofJson? t where
  plain := .text t.print
  decodes := by simp [ofJson?, toJson, parse?_print ht]

theorem StackEvent.carries {e : StackEvent} (he : e.timestamp.IsOrdinary) :
    Carries e.toJson StackEvent.ofJson? e := by
  have htimestamp := Instant.carries he
  refine ⟨.ofFields ?_, ?_⟩
  · simp [htimestamp.plain]
  · simp [ofJson?, toJson, slots?_ofFields, htimestamp.decodes]

theorem EventPage.carries {p : EventPage} (hp : ∀ e ∈ p.events, e.timestamp.IsOrdinary) :
    Carries p.toJson EventPage.ofJson? p := by
  have hevents := Carries.list fun e (he : e ∈ p.events) => StackEvent.carries (hp e he)
  refine ⟨.ofFields ?_, ?_⟩
  · simp [hevents.plain]
  · simp [ofJson?, toJson, slots?_ofFields, hevents.decodes]

/-! ### Change sets -/

theorem ChangeSetRef.carries (r : ChangeSetRef) : Carries r.toJson ChangeSetRef.ofJson? r where
  plain := .ofFields (by simp)
  decodes := by simp [ofJson?, toJson, slots?_ofFields]

theorem Change.carries (c : Change) : Carries c.toJson Change.ofJson? c where
  plain := .ofFields (by simp [Plain.bool])
  decodes := by
    have haction : asWord? ChangeAction.words (text c.action.text) = some c.action := by
      cases c.action <;> rfl
    have hreplacement : asBool? (.bool c.replacement) = some c.replacement := rfl
    simp [ofJson?, toJson, slots?_ofFields, haction, hreplacement]

theorem ChangeSet.carries {c : ChangeSet} (hc : c.creationTime.IsOrdinary) :
    Carries c.toJson ChangeSet.ofJson? c := by
  have hcreation := Instant.carries hc
  have hstatus : asWord? ChangeSetStatus.words (text c.status.text) = some c.status := by
    cases c.status <;> rfl
  have hexecution :
      asWord? ExecutionStatus.words (text c.executionStatus.text) = some c.executionStatus := by
    cases c.executionStatus <;> rfl
  have hchanges := Carries.list fun d (_ : d ∈ c.changes) => d.carries
  refine ⟨.ofFields ?_, ?_⟩
  · simp [hcreation.plain, hchanges.plain]
  · simp [ofJson?, toJson, slots?_ofFields, hcreation.decodes, hstatus, hexecution,
      hchanges.decodes]

theorem ChangeSetInput.carries (i : ChangeSetInput) :
    Carries i.toJson ChangeSetInput.ofJson? i := by
  have htype : asWord? ChangeSetType.words (text i.changeSetType.text) = some i.changeSetType := by
    cases i.changeSetType <;> rfl
  have hparameters := Carries.list fun p (_ : p ∈ i.parameters) => p.carries
  have htags := Carries.list fun t (_ : t ∈ i.tags) => t.carries
  refine ⟨.ofFields ?_, ?_⟩
  · simp [hparameters.plain, htags.plain]
  · simp [ofJson?, toJson, slots?_ofFields, htype, hparameters.decodes, htags.decodes]

/-! ### Rollouts -/

/-- A count of tasks reads back. -/
theorem Rollout.countOfJson?_nat (n : UInt32) : countOfJson? (.nat n.toNat) = some n := by
  have hread : readNat? (natText n.toNat).toList = some n.toNat := by
    rw [natText, String.toList_ofList, readNat?_natDigits]
  have hlt : n.toNat < UInt32.size := n.toNat_lt
  simp [countOfJson?, asNat?, nat, hread, hlt]

theorem Rollout.carries (r : Rollout) : Carries r.toJson Rollout.ofJson? r where
  plain := .ofFields (by simp [Plain.nat])
  decodes := by simp [ofJson?, toJson, slots?_ofFields, countOfJson?_nat]

/-! ### All records -/

/-- **Records survive the wire.** The text of every record is read as that record: whatever
characters its texts have, whatever is absent, however long its lists are and whichever words stand
in it. The status of a stack must have been read from a text, and instants must be ordinary. -/
theorem records_read_back :
    (∀ s : Stack, (∃ text, s.status = .ofText text) →
      (parse? s.toJson.print).bind Stack.ofJson? = some s) ∧
    (∀ e : StackEvent, e.timestamp.IsOrdinary →
      (parse? e.toJson.print).bind StackEvent.ofJson? = some e) ∧
    (∀ c : ChangeSet, c.creationTime.IsOrdinary →
      (parse? c.toJson.print).bind ChangeSet.ofJson? = some c) ∧
    (∀ r : ChangeSetRef, (parse? r.toJson.print).bind ChangeSetRef.ofJson? = some r) ∧
    (∀ c : Change, (parse? c.toJson.print).bind Change.ofJson? = some c) ∧
    (∀ p : EventPage, (∀ e ∈ p.events, e.timestamp.IsOrdinary) →
      (parse? p.toJson.print).bind EventPage.ofJson? = some p) ∧
    (∀ r : Rollout, (parse? r.toJson.print).bind Rollout.ofJson? = some r) ∧
    (∀ i : ChangeSetInput, (parse? i.toJson.print).bind ChangeSetInput.ofJson? = some i) :=
  ⟨fun _ hs => (Stack.carries hs).decodes_print,
    fun _ he => (StackEvent.carries he).decodes_print,
    fun _ hc => (ChangeSet.carries hc).decodes_print,
    fun r => r.carries.decodes_print,
    fun c => c.carries.decodes_print,
    fun _ hp => (EventPage.carries hp).decodes_print,
    fun r => r.carries.decodes_print,
    fun i => i.carries.decodes_print⟩

/-- A stack with a status that is not listed. -/
def pausedStack : Stack := .named "queue" (.other "PAUSED")

/-- A failure whose reason needs escapes. -/
def failureEvent : StackEvent :=
  { eventId := "e1", logicalId := "Queue", physicalId := "", resourceType := "Core::Service",
    status := "CREATE_FAILED", reason := some "no \"image\"\n\x00", timestamp := .epoch }

/-- The page with that failure. -/
def failurePage : EventPage := ⟨[failureEvent], some "t1"⟩

/-- A change set that has nothing to do. -/
def emptyChangeSet : ChangeSet :=
  ⟨"c1", "s1", .epoch, .failed, .unavailable, some "No updates are to be performed", []⟩

/-- The stack, the event, the page and the change set read back. -/
theorem samples_read_back :
    ((∃ text, pausedStack.status = .ofText text) ∧
      (parse? pausedStack.toJson.print).bind Stack.ofJson? = some pausedStack) ∧
    (failureEvent.timestamp.IsOrdinary ∧
      (parse? failureEvent.toJson.print).bind StackEvent.ofJson? = some failureEvent) ∧
    (emptyChangeSet.creationTime.IsOrdinary ∧
      (parse? emptyChangeSet.toJson.print).bind ChangeSet.ofJson? = some emptyChangeSet) ∧
    ((∀ e ∈ failurePage.events, e.timestamp.IsOrdinary) ∧
      (parse? failurePage.toJson.print).bind EventPage.ofJson? = some failurePage) := by
  obtain ⟨hstack, hevent, hchangeSet, -, -, hpage, -⟩ := records_read_back
  have hstatus : ∃ text, pausedStack.status = .ofText text := ⟨"PAUSED", rfl⟩
  have hepoch : Instant.epoch.IsOrdinary := ⟨by decide, by decide, by decide⟩
  have hevents : ∀ e ∈ failurePage.events, e.timestamp.IsOrdinary :=
    List.forall_mem_singleton.mpr hepoch
  exact ⟨⟨hstatus, hstack _ hstatus⟩, ⟨hepoch, hevent _ hepoch⟩, ⟨hepoch, hchangeSet _ hepoch⟩,
    hevents, hpage _ hevents⟩

end StackDeploy
