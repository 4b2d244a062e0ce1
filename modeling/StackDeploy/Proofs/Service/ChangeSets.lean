import StackDeploy.Service.Scripted

/-!
# Change sets of a scripted service

A scripted service treats its change sets as a service would: each is computing for a while, shows
then what was scripted when it was made, can be executed once, and does not depend on the other
ones. A call that fails is counted and leaves no other trace.

* `ScriptedService.performAll` — what happens to a service, and the entries that tell of it.
* `ScriptedService.Keeps` — what the service has of a change set; `Keeps.perform` is the step lemma
  and `Keeps.performAll` the run lemma.
* `ScriptedService.filter_performAll` — calls about other things can be left out.
* `ScriptedService.CalledMore.performAll` — so can calls that fail, but for their count.
* `ScriptedService.change_sets_keep_to_script` — the life of a change set.
-/

namespace StackDeploy

/-- The change set that a request is **about**, if it is about one. -/
def Request.changeSet? : Request → Option String
  | createChangeSet input => some input.changeSetName
  | describeChangeSet _ id | executeChangeSet _ id => some id
  | describeStackEvents _ _ | describeStack _ | deleteStack _ | resolveRollout _ => none

namespace ScriptedService

/-! ### What happens to a service -/

/-- A **move**: somebody calls the service, or the script is changed. -/
inductive Move where
  | call (r : Request)
  | play (cue : Cue)

/-- An **entry** of what has happened: a call with its reply, or a change to the script. -/
inductive Entry where
  | call (r : Request) (reply : Reply r)
  | play (cue : Cue)

namespace Entry

/-- The call of the entry is about the change set. -/
def isAbout (id : String) : Entry → Bool
  | call r _ => r.changeSet? == some id
  | play _ => false

/-- The change set was described. -/
def describes (id : String) : Entry → Bool
  | call (.describeChangeSet _ other) (.ok _) => other == id
  | _ => false

/-- An execution of the change set was accepted. -/
def executes (id : String) : Entry → Bool
  | call (.executeChangeSet _ other) (.ok _) => other == id
  | _ => false

end Entry

/-- The entry for a move, and the service after it. -/
def perform (s : ScriptedService) : Move → Entry × ScriptedService
  | .call r => (.call r (reply r s).1, (reply r s).2)
  | .play cue => (.play cue, s.play cue)

/-- The entries for moves that are **performed** one after the other, and the service after them. -/
def performAll (s : ScriptedService) : List Move → List Entry × ScriptedService
  | [] => ([], s)
  | move :: moves =>
    ((s.perform move).1 :: ((s.perform move).2.performAll moves).1,
      ((s.perform move).2.performAll moves).2)

/-! ### Replies -/

theorem reply_of_failure {s : ScriptedService} {r : Request} {message : String}
    (h : s.failures.get? r.operation = some message) :
    reply r s = (.error (.service 500 message), s.entered r) := by
  rw [reply]
  dsimp only [entered]
  rw [h]

theorem reply_of_not_failure {s : ScriptedService} {r : Request}
    (h : s.failures.get? r.operation = none) : reply r s = (s.entered r).answer r := by
  rw [reply]
  dsimp only [entered]
  rw [h]

/-- A change set that was made is recorded as the script says, and nothing of the script changes. -/
theorem createChangeSet_cases (s : ScriptedService) (input : ChangeSetInput) :
    (∃ e, s.createChangeSet input = (.error e, s)) ∨
      ∃ stackTable stackId, s.createChangeSet input =
        (.ok ⟨input.changeSetName, stackId⟩,
          { s with
            stackTable
            changeSets := s.changeSets.set input.changeSetName
              ⟨input.changeSetName, stackId, s.clock, s.review.status, s.review.executionStatus,
                s.review.reason, s.review.changes⟩
            computing := s.computing.set input.changeSetName s.computingPolls }) := by
  rw [createChangeSet]
  split
  · exact .inl ⟨_, rfl⟩
  · exact .inl ⟨_, rfl⟩
  · exact .inr ⟨_, _, rfl⟩
  · exact .inr ⟨_, _, rfl⟩

/-! ### What a change set depends on -/

/-- Two services have the **same for a change set**: the same operations fail, the change set is the
same, and it is computing for as long. -/
structure SameFor (id : String) (s t : ScriptedService) : Prop where
  failures : t.failures = s.failures
  changeSet : t.changeSets.get? id = s.changeSets.get? id
  computing : t.computing.get? id = s.computing.get? id

section SameFor

variable {id : String} {s t u : ScriptedService} {r : Request}

theorem SameFor.refl (id : String) (s : ScriptedService) : s.SameFor id s := ⟨rfl, rfl, rfl⟩

theorem SameFor.symm (h : s.SameFor id t) : t.SameFor id s :=
  ⟨h.failures.symm, h.changeSet.symm, h.computing.symm⟩

theorem SameFor.trans (h : s.SameFor id t) (h' : t.SameFor id u) : s.SameFor id u :=
  ⟨h'.failures.trans h.failures, h'.changeSet.trans h.changeSet, h'.computing.trans h.computing⟩

theorem sameFor_entered (id : String) (s : ScriptedService) (r : Request) :
    s.SameFor id (s.entered r) := ⟨rfl, rfl, rfl⟩

theorem sameFor_describeStack (id : String) (s : ScriptedService) (stack : String) :
    s.SameFor id (s.describeStack stack).2 := by
  rw [describeStack]
  split
  · exact .refl id s
  · dsimp only
    split
    · exact ⟨rfl, rfl, rfl⟩
    · exact ⟨rfl, rfl, rfl⟩
    · split <;> exact ⟨rfl, rfl, rfl⟩

/-- Calls that are not about a change set leave it **as it is**. -/
theorem sameFor_answer (h : r.changeSet? ≠ some id) (s : ScriptedService) :
    s.SameFor id (s.answer r).2 := by
  cases r with
  | createChangeSet input =>
    have hne : id ≠ input.changeSetName := fun heq => h (congrArg some heq.symm)
    rcases s.createChangeSet_cases input with ⟨_, hcreate⟩ | ⟨_, _, hcreate⟩
    · rw [answer, hcreate]
      exact .refl id s
    · rw [answer, hcreate]
      exact ⟨rfl, Table.get?_set_of_ne _ _ hne, Table.get?_set_of_ne _ _ hne⟩
  | describeChangeSet _ other =>
    have hne : id ≠ other := fun heq => h (congrArg some heq.symm)
    rw [answer, describeChangeSet]
    split
    · exact .refl id s
    · split
      · exact ⟨rfl, rfl, Table.get?_set_of_ne _ _ hne⟩
      · exact .refl id s
  | executeChangeSet _ other =>
    have hne : id ≠ other := fun heq => h (congrArg some heq.symm)
    rw [answer, executeChangeSet]
    split
    · exact .refl id s
    · split
      · exact ⟨rfl, Table.get?_set_of_ne _ _ hne, rfl⟩
      · exact .refl id s
  | describeStackEvents => exact .refl id s
  | describeStack stack => exact sameFor_describeStack id s stack
  | deleteStack =>
    rw [answer, deleteStack]
    split <;> exact ⟨rfl, rfl, rfl⟩
  | resolveRollout => exact .refl id s

@[inherit_doc sameFor_answer]
theorem sameFor_reply (h : r.changeSet? ≠ some id) (s : ScriptedService) :
    s.SameFor id (reply r s).2 := by
  cases hfailure : s.failures.get? r.operation with
  | some message =>
    rw [reply_of_failure hfailure]
    exact ⟨rfl, rfl, rfl⟩
  | none =>
    rw [reply_of_not_failure hfailure]
    exact (sameFor_entered id s r).trans (sameFor_answer h (s.entered r))

theorem sameFor_describeChangeSet (h : s.SameFor id t) :
    (t.describeChangeSet id).1 = (s.describeChangeSet id).1 ∧
      (s.describeChangeSet id).2.SameFor id (t.describeChangeSet id).2 := by
  rw [describeChangeSet, describeChangeSet, h.changeSet, h.computing]
  split
  · exact ⟨rfl, h⟩
  · split
    · exact ⟨rfl, h.failures, h.changeSet, by rw [Table.get?_set_self, Table.get?_set_self]⟩
    · exact ⟨rfl, h⟩

theorem sameFor_executeChangeSet (h : s.SameFor id t) :
    (t.executeChangeSet id).1 = (s.executeChangeSet id).1 ∧
      (s.executeChangeSet id).2.SameFor id (t.executeChangeSet id).2 := by
  rw [executeChangeSet, executeChangeSet, h.changeSet]
  split
  · exact ⟨rfl, h⟩
  · split
    · exact ⟨rfl, h.failures, by rw [Table.get?_set_self, Table.get?_set_self], h.computing⟩
    · exact ⟨rfl, h⟩

/-- Calls about a change set that was made are **replied to alike**. -/
theorem SameFor.reply (h : s.SameFor id t) (habout : r.changeSet? = some id)
    (hnew : ∀ input, r ≠ .createChangeSet input) :
    (ScriptedService.reply r t).1 = (ScriptedService.reply r s).1 ∧
      (ScriptedService.reply r s).2.SameFor id (ScriptedService.reply r t).2 := by
  have hentered : (s.entered r).SameFor id (t.entered r) :=
    ((sameFor_entered id s r).symm.trans h).trans (sameFor_entered id t r)
  cases hfailure : s.failures.get? r.operation with
  | some message =>
    rw [reply_of_failure hfailure, reply_of_failure (h.failures ▸ hfailure)]
    exact ⟨rfl, hentered⟩
  | none =>
    rw [reply_of_not_failure hfailure, reply_of_not_failure (h.failures ▸ hfailure)]
    cases r with
    | createChangeSet input => exact absurd rfl (hnew input)
    | describeChangeSet =>
      obtain rfl := Option.some.inj habout
      exact sameFor_describeChangeSet hentered
    | executeChangeSet =>
      obtain rfl := Option.some.inj habout
      exact sameFor_executeChangeSet hentered
    | _ => cases habout

/-- The move does not make a change set of that name. -/
def Move.Spares (id : String) (move : Move) : Prop :=
  ∀ input, move = .call (.createChangeSet input) → input.changeSetName ≠ id

/-- A move that spares a change set does the **same to it** in both services. -/
theorem SameFor.perform (h : s.SameFor id t) {move : Move} (hspares : move.Spares id) :
    (s.perform move).2.SameFor id (t.perform move).2 ∧
      [(t.perform move).1].filter (Entry.isAbout id) =
        [(s.perform move).1].filter (Entry.isAbout id) := by
  cases move with
  | play cue =>
    refine ⟨?_, rfl⟩
    cases cue with
    | fail | clearFailure =>
      exact ⟨by simp only [ScriptedService.perform, play, h.failures], h.changeSet, h.computing⟩
    | _ => exact ⟨h.failures, h.changeSet, h.computing⟩
  | call r =>
    by_cases habout : r.changeSet? = some id
    · obtain ⟨hreply, hsame⟩ := h.reply habout fun input hr => by
        subst hr
        exact hspares input rfl (Option.some.inj habout)
      refine ⟨hsame, ?_⟩
      rw [ScriptedService.perform, ScriptedService.perform, hreply]
    · have hnot (reply : Reply r) : [Entry.call r reply].filter (Entry.isAbout id) = [] :=
        List.filter_cons_of_neg (by simpa [Entry.isAbout] using habout)
      exact ⟨((sameFor_reply habout s).symm.trans h).trans (sameFor_reply habout t),
        (hnot _).trans (hnot _).symm⟩

/-- Moves that are not about a change set can be **left out**: what is about it stays as it is. -/
theorem filter_performAll {keep : Move → Bool} (hkept : ∀ cue, keep (.play cue) = true)
    (habout : ∀ r, r.changeSet? = some id → keep (.call r) = true) {moves : List Move}
    (hspares : ∀ move ∈ moves, move.Spares id) (h : s.SameFor id t) :
    (s.performAll moves).1.filter (Entry.isAbout id) =
      (t.performAll (moves.filter keep)).1.filter (Entry.isAbout id) := by
  induction moves generalizing s t with
  | nil => rfl
  | cons move moves ih =>
    obtain ⟨hmove, hmoves⟩ := List.forall_mem_cons.mp hspares
    by_cases hkeep : keep move = true
    · obtain ⟨hsame, hentry⟩ := h.perform hmove
      rw [List.filter_cons_of_pos hkeep, performAll, performAll, ← List.singleton_append,
        List.filter_append, ← hentry, ih hmoves hsame, ← List.filter_append,
        List.singleton_append]
    · cases move with
      | play cue => exact absurd (hkept cue) hkeep
      | call r =>
        have hr : r.changeSet? ≠ some id := fun hr => hkeep (habout r hr)
        have hnot : (s.perform (.call r)).1.isAbout id ≠ true := by
          simpa [ScriptedService.perform, Entry.isAbout] using hr
        rw [List.filter_cons_of_neg hkeep, performAll, List.filter_cons_of_neg hnot]
        exact ih hmoves ((sameFor_reply hr s).symm.trans h)

end SameFor

/-! ### What is kept of a change set -/

/-- A description **shows** what the script had for a change set when it was made. -/
structure Shows (ref : ChangeSetRef) (script : ReviewScript) (executed : Bool) (c : ChangeSet) :
    Prop where
  id : c.id = ref.id
  stackId : c.stackId = ref.stackId
  status : c.status = script.status
  executionStatus : c.executionStatus = if executed then .executing else script.executionStatus
  statusReason : c.statusReason = script.reason
  changes : c.changes = script.changes

/-- A description finds the change set **computing**: nothing of what it will show is shown. -/
structure ShowsComputing (ref : ChangeSetRef) (c : ChangeSet) : Prop where
  id : c.id = ref.id
  stackId : c.stackId = ref.stackId
  status : c.status = .createInProgress
  executionStatus : c.executionStatus = .pending
  statusReason : c.statusReason = none
  changes : c.changes = []

/-- What a service **keeps** of a change set that was to be found computing `polls` times and has
been described `described` times. -/
structure Keeps (s : ScriptedService) (ref : ChangeSetRef) (script : ReviewScript)
    (polls described : Nat) (executed : Bool) : Prop where
  changeSet : ∃ c, s.changeSets.get? ref.id = some c ∧ Shows ref script executed c
  computing : s.computing.get? ref.id = some (polls - described)

section Keeps

variable {ref : ChangeSetRef} {script : ReviewScript} {polls described : Nat} {executed : Bool}
  {s t : ScriptedService}

theorem Keeps.entered (h : s.Keeps ref script polls described executed) (r : Request) :
    (s.entered r).Keeps ref script polls described executed :=
  ⟨h.changeSet, h.computing⟩

/-- A change set that **was made** is kept as the script is then. -/
theorem keeps_of_created {input : ChangeSetInput}
    (h : reply (.createChangeSet input) s = (.ok ref, t)) :
    ref.id = input.changeSetName ∧ t.Keeps ref s.review s.computingPolls 0 false := by
  cases hfailure : s.failures.get? .createChangeSet with
  | some message =>
    rw [reply_of_failure hfailure] at h
    cases h
  | none =>
    rw [reply_of_not_failure hfailure, answer] at h
    rcases (s.entered (.createChangeSet input)).createChangeSet_cases input with
      ⟨_, hcreate⟩ | ⟨_, _, hcreate⟩
    · rw [hcreate] at h
      cases h
    · rw [hcreate] at h
      cases h
      exact ⟨rfl, ⟨_, Table.get?_set_self _ _ _, rfl, rfl, rfl, rfl, rfl, rfl⟩,
        Table.get?_set_self _ _ _⟩

/-- A change set that is kept can be **described**, and it is found computing as long as it is to
be. -/
theorem Keeps.describeChangeSet (h : s.Keeps ref script polls described executed) :
    ∃ c, (s.describeChangeSet ref.id).1 = .ok c ∧
      (described < polls → ShowsComputing ref c) ∧
      (polls ≤ described → Shows ref script executed c) ∧
      (s.describeChangeSet ref.id).2.Keeps ref script polls (described + 1) executed := by
  obtain ⟨c, hget, hshows⟩ := h.changeSet
  rw [ScriptedService.describeChangeSet, hget, h.computing]
  cases hleft : polls - described with
  | zero =>
    refine ⟨c, rfl, fun _ => by omega, fun _ => hshows, ⟨c, hget, hshows⟩, ?_⟩
    rw [h.computing]
    congr 1
    omega
  | succ left =>
    refine ⟨stillComputing c, rfl, fun _ => ⟨hshows.id, hshows.stackId, rfl, rfl, rfl, rfl⟩,
      fun _ => by omega, ⟨c, hget, hshows⟩, ?_⟩
    rw [Table.get?_set_self]
    congr 1
    omega

/-- It can be **executed** if the script has it available and it was not executed before. -/
theorem Keeps.executeChangeSet (h : s.Keeps ref script polls described executed) :
    (script.executionStatus = .available ∧ executed = false ∧
      (s.executeChangeSet ref.id).1 = .ok () ∧
      (s.executeChangeSet ref.id).2.Keeps ref script polls described true) ∨
    (¬ (script.executionStatus = .available ∧ executed = false) ∧
      (∃ e, (s.executeChangeSet ref.id).1 = .error e) ∧ (s.executeChangeSet ref.id).2 = s) := by
  obtain ⟨c, hget, hshows⟩ := h.changeSet
  have hstatus := hshows.executionStatus
  rw [ScriptedService.executeChangeSet, hget]
  dsimp only
  split
  next havailable =>
    rw [havailable] at hstatus
    cases executed with
    | true => cases hstatus
    | false =>
      refine .inl ⟨hstatus.symm, rfl, rfl, ⟨_, Table.get?_set_self _ _ _, ?_⟩, h.computing⟩
      exact { hshows with executionStatus := rfl }
  next havailable =>
    refine .inr ⟨?_, ⟨_, rfl⟩, rfl⟩
    rintro ⟨hscript, rfl⟩
    exact havailable (hstatus.trans hscript)

/-- What is kept after a move with the given entry, and what an execution tells. -/
def Keeps.After (t : ScriptedService) (ref : ChangeSetRef) (script : ReviewScript)
    (polls described : Nat) (executed : Bool) (entry : Entry) : Prop :=
  t.Keeps ref script polls (described + if entry.describes ref.id then 1 else 0)
      (executed || entry.executes ref.id) ∧
    (entry.executes ref.id = true → script.executionStatus = .available ∧ executed = false)

/-- A move that has nothing to do with the change set. -/
theorem Keeps.after_other (h : s.Keeps ref script polls described executed) {entry : Entry}
    (hdescribes : entry.describes ref.id = false) (hexecutes : entry.executes ref.id = false)
    (hchangeSet : t.changeSets.get? ref.id = s.changeSets.get? ref.id)
    (hcomputing : t.computing.get? ref.id = s.computing.get? ref.id) :
    After t ref script polls described executed entry := by
  rw [After, hdescribes, hexecutes, Bool.or_false]
  exact ⟨⟨hchangeSet ▸ h.changeSet, hcomputing.trans h.computing⟩, nofun⟩

theorem entry_error (id : String) (r : Request) (e : ApiError) :
    (Entry.call r (.error e)).describes id = false ∧
      (Entry.call r (.error e)).executes id = false := by
  cases r <;> exact ⟨rfl, rfl⟩

theorem entry_other {id : String} {r : Request} (h : r.changeSet? ≠ some id) (reply : Reply r) :
    (Entry.call r reply).describes id = false ∧ (Entry.call r reply).executes id = false := by
  cases r with
  | describeChangeSet _ other | executeChangeSet _ other =>
    have hne : (other == id) = false := beq_eq_false_iff_ne.mpr fun heq => h (congrArg some heq)
    cases reply with
    | error => exact ⟨rfl, rfl⟩
    | ok => first | exact ⟨hne, rfl⟩ | exact ⟨rfl, hne⟩
  | _ => exact ⟨rfl, rfl⟩

/-- **Step lemma.** Every move keeps a change set that it spares, and it can only be executed if it
is available and was not executed before. -/
theorem Keeps.perform (h : s.Keeps ref script polls described executed) {move : Move}
    (hspares : move.Spares ref.id) :
    After (s.perform move).2 ref script polls described executed (s.perform move).1 := by
  cases move with
  | play cue => cases cue <;> exact h.after_other rfl rfl rfl rfl
  | call r =>
    rw [ScriptedService.perform]
    by_cases habout : r.changeSet? = some ref.id
    · cases hfailure : s.failures.get? r.operation with
      | some message =>
        rw [reply_of_failure hfailure]
        exact h.after_other (entry_error _ _ _).1 (entry_error _ _ _).2 rfl rfl
      | none =>
        rw [reply_of_not_failure hfailure]
        have hentered := h.entered r
        cases r with
        | createChangeSet input => exact absurd (Option.some.inj habout) (hspares input rfl)
        | describeChangeSet stack id =>
          obtain rfl := Option.some.inj habout
          obtain ⟨c, hreply, -, -, hkeeps⟩ := hentered.describeChangeSet
          rw [After, answer, hreply]
          simpa [Entry.describes, Entry.executes] using hkeeps
        | executeChangeSet stack id =>
          obtain rfl := Option.some.inj habout
          rw [After, answer]
          rcases hentered.executeChangeSet with
            ⟨havailable, hexecuted, hreply, hkeeps⟩ | ⟨-, ⟨e, hreply⟩, hsame⟩
          · rw [hreply]
            simpa [Entry.describes, Entry.executes, havailable, hexecuted] using hkeeps
          · rw [hreply, hsame]
            simpa [Entry.describes, Entry.executes] using hentered
        | _ => cases habout
    · have hsame := sameFor_reply habout s
      obtain ⟨hdescribes, hexecutes⟩ := entry_other habout (reply r s).1
      exact h.after_other hdescribes hexecutes hsame.changeSet hsame.computing

/-- **Run lemma.** Moves keep a change set that they spare. They can execute it once, if it is
available and was not executed before. -/
theorem Keeps.performAll (h : s.Keeps ref script polls described executed) {moves : List Move}
    (hspares : ∀ move ∈ moves, move.Spares ref.id) :
    (s.performAll moves).2.Keeps ref script polls
        (described + (s.performAll moves).1.countP (Entry.describes ref.id))
        (executed || (s.performAll moves).1.any (Entry.executes ref.id)) ∧
      (s.performAll moves).1.countP (Entry.executes ref.id) ≤ (if executed then 0 else 1) ∧
      ((s.performAll moves).1.any (Entry.executes ref.id) = true →
        script.executionStatus = .available) := by
  induction moves generalizing s described executed with
  | nil => exact ⟨by rw [ScriptedService.performAll]; simpa using h, Nat.zero_le _, nofun⟩
  | cons move moves ih =>
    obtain ⟨hmove, hmoves⟩ := List.forall_mem_cons.mp hspares
    obtain ⟨hkeeps, honce⟩ := h.perform hmove
    obtain ⟨hkept, hcount, havailable⟩ := ih hkeeps hmoves
    rw [ScriptedService.performAll]
    dsimp only
    rw [List.countP_cons, List.countP_cons, List.any_cons, ← Bool.or_assoc, ← Nat.add_assoc,
      Nat.add_right_comm]
    refine ⟨hkept, ?_⟩
    cases hexecutes : (s.perform move).1.executes ref.id with
    | true =>
      obtain ⟨hscript, rfl⟩ := honce hexecutes
      rw [hexecutes] at hcount
      exact ⟨Nat.succ_le_succ hcount, fun _ => hscript⟩
    | false =>
      rw [hexecutes, Bool.or_false] at hcount
      exact ⟨hcount, havailable⟩

end Keeps

/-! ### Calls that fail -/

section Failing

variable {s : ScriptedService} {r : Request}

/-- The service with another count of its calls. -/
def counting (s : ScriptedService) (calls : Table Operation Nat) (log : List Request) :
    ScriptedService :=
  { s with calls, log }

/-- Replies do not depend on how often the service was called. -/
theorem answer_counting (s : ScriptedService) (calls : Table Operation Nat) (log : List Request)
    (r : Request) :
    (s.counting calls log).answer r = ((s.answer r).1, (s.answer r).2.counting calls log) := by
  cases r with
  | createChangeSet input =>
    simp only [answer, createChangeSet, counting]
    split <;> rfl
  | describeChangeSet _ id =>
    simp only [answer, describeChangeSet, counting]
    split
    · rfl
    · split <;> rfl
  | executeChangeSet _ id =>
    simp only [answer, executeChangeSet, counting]
    split
    · rfl
    · split <;> rfl
  | describeStackEvents => rfl
  | describeStack stack =>
    simp only [answer, describeStack, counting]
    split
    · rfl
    · split
      · rfl
      · rfl
      · split <;> rfl
  | deleteStack stack =>
    simp only [answer, deleteStack, counting]
    split <;> rfl
  | resolveRollout => rfl

theorem calls_answer (s : ScriptedService) (r : Request) : (s.answer r).2.calls = s.calls :=
  congrArg (·.2.calls) (answer_counting s s.calls s.log r)

theorem callCount_entered (s : ScriptedService) (r : Request) (operation : Operation) :
    (s.entered r).callCount operation =
      s.callCount operation + if operation = r.operation then 1 else 0 := by
  rw [callCount, entered, Table.get?_set]
  split
  next heq => rw [heq, Option.getD_some]
  next => rfl

theorem callCount_reply (r : Request) (s : ScriptedService) (operation : Operation) :
    (reply r s).2.callCount operation =
      s.callCount operation + if operation = r.operation then 1 else 0 := by
  rw [← callCount_entered]
  cases hfailure : s.failures.get? r.operation with
  | some message => rw [reply_of_failure hfailure]
  | none => rw [reply_of_not_failure hfailure, callCount, calls_answer, callCount]

/-- An answer that is an **error** changes nothing. Only a description of a stack may use up a
scripted status. -/
theorem answer_error {e : ApiError} (h : (s.answer r).1 = .error e)
    (hstack : ∀ stack, r ≠ .describeStack stack) : (s.answer r).2 = s := by
  cases r with
  | createChangeSet input =>
    rcases s.createChangeSet_cases input with ⟨_, hcreate⟩ | ⟨_, _, hcreate⟩
    · rw [answer, hcreate]
    · rw [answer, hcreate] at h
      cases h
  | describeChangeSet stack id =>
    rw [answer, describeChangeSet] at h ⊢
    split at h
    · rfl
    · split at h <;> cases h
  | executeChangeSet stack id =>
    rw [answer, executeChangeSet] at h ⊢
    split at h
    · rfl
    · dsimp only at h ⊢
      split at h
      · cases h
      next havailable => rw [if_neg havailable]
  | describeStackEvents | resolveRollout => rfl
  | describeStack stack => exact absurd rfl (hstack stack)
  | deleteStack stack =>
    rw [answer, deleteStack] at h ⊢
    split at h
    · rfl
    · cases h

/-- The call **fails**, and not because of what is scripted for a stack: if it is a description of a
stack, then it was made to fail. -/
structure Fails (s : ScriptedService) (r : Request) : Prop where
  error : ∃ e, (reply r s).1 = .error e
  injected : ∀ stack, r = .describeStack stack → s.failures.get? .describeStack ≠ none

theorem Fails.reply_eq (h : s.Fails r) : (reply r s).2 = s.entered r := by
  cases hfailure : s.failures.get? r.operation with
  | some message => rw [reply_of_failure hfailure]
  | none =>
    obtain ⟨e, he⟩ := h.error
    rw [reply_of_not_failure hfailure] at he ⊢
    refine answer_error he fun stack hr => ?_
    subst hr
    exact h.injected stack rfl hfailure

/-! ### Services that differ in their counts -/

/-- The services are the same, but that the second one was **called more often**. -/
structure CalledMore (more : Operation → Nat) (s t : ScriptedService) : Prop where
  eq : t = s.counting t.calls t.log
  count : ∀ operation, t.callCount operation = s.callCount operation + more operation

theorem Fails.calledMore (h : s.Fails r) :
    s.CalledMore (fun operation => if operation = r.operation then 1 else 0) (reply r s).2 :=
  ⟨by rw [h.reply_eq]; rfl, callCount_reply r s⟩

theorem play_counting (s : ScriptedService) (calls : Table Operation Nat) (log : List Request)
    (cue : Cue) : (s.counting calls log).play cue = (s.play cue).counting calls log := by
  cases cue <;> rfl

theorem reply_counting (s : ScriptedService) (calls : Table Operation Nat) (log : List Request)
    (r : Request) : ∃ calls' log',
      reply r (s.counting calls log) = ((reply r s).1, (reply r s).2.counting calls' log') := by
  cases hfailure : s.failures.get? r.operation with
  | some message =>
    have hfailure' : (s.counting calls log).failures.get? r.operation = some message := hfailure
    rw [reply_of_failure hfailure, reply_of_failure hfailure']
    exact ⟨_, _, rfl⟩
  | none =>
    have hfailure' : (s.counting calls log).failures.get? r.operation = none := hfailure
    rw [reply_of_not_failure hfailure, reply_of_not_failure hfailure']
    exact ⟨_, _, answer_counting (s.entered r) _ _ r⟩

/-- **Step lemma.** Such services reply alike. -/
theorem CalledMore.perform {more : Operation → Nat} {t : ScriptedService}
    (h : s.CalledMore more t) (move : Move) :
    (t.perform move).1 = (s.perform move).1 ∧
      (s.perform move).2.CalledMore more (t.perform move).2 := by
  obtain ⟨heq, hcount⟩ := h
  cases move with
  | play cue =>
    refine ⟨rfl, ?_, ?_⟩
    · rw [ScriptedService.perform, heq, play_counting]
      rfl
    · cases cue <;> exact hcount
  | call r =>
    obtain ⟨calls, log, hreply⟩ := reply_counting s t.calls t.log r
    rw [← heq] at hreply
    refine ⟨by rw [ScriptedService.perform, hreply]; rfl, ?_, fun operation => ?_⟩
    · rw [ScriptedService.perform, hreply]
      rfl
    · rw [ScriptedService.perform, ScriptedService.perform, callCount_reply, callCount_reply,
        hcount, Nat.add_right_comm]

/-- **Run lemma.** They do so whatever happens to them. -/
theorem CalledMore.performAll {more : Operation → Nat} {t : ScriptedService}
    (h : s.CalledMore more t) (moves : List Move) :
    (t.performAll moves).1 = (s.performAll moves).1 ∧
      (s.performAll moves).2.CalledMore more (t.performAll moves).2 := by
  induction moves generalizing s t with
  | nil => exact ⟨rfl, h⟩
  | cons move moves ih =>
    obtain ⟨hentry, hnext⟩ := h.perform move
    obtain ⟨hentries, hlast⟩ := ih hnext
    exact ⟨by simp only [ScriptedService.performAll, hentry, hentries], hlast⟩

end Failing

/-! ### The life of a change set -/

/-- Change sets of a scripted service **keep to the script** that there was when they were made.
After any moves that do not make another one of the same name, by whomever the calls are made:

* a description that is not made to fail finds the change set computing, as long as it was described
  less often than was to be, and shows then what the script had, executing once it was executed;
* an execution is accepted if it is not made to fail, the script has the change set available and
  none was accepted before, so at most once;
* without any calls that are about something else, all replies about the change set are the same.

And in any state, if a call fails, then all that happens later is as if it had not been made, but
that it was counted. A description of a stack has to be made to fail for this: it may use up a
status. -/
theorem change_sets_keep_to_script {s t : ScriptedService} {input : ChangeSetInput}
    {ref : ChangeSetRef} {moves : List Move}
    (hcreated : reply (.createChangeSet input) s = (.ok ref, t))
    (hspares : ∀ move ∈ moves, move.Spares input.changeSetName) :
    ref.id = input.changeSetName ∧
    (∀ stack, (t.performAll moves).2.failures.get? .describeChangeSet = none →
      ∃ c, (reply (.describeChangeSet stack ref.id) (t.performAll moves).2).1 = .ok c ∧
        ((t.performAll moves).1.countP (Entry.describes ref.id) < s.computingPolls →
          ShowsComputing ref c) ∧
        (s.computingPolls ≤ (t.performAll moves).1.countP (Entry.describes ref.id) →
          Shows ref s.review ((t.performAll moves).1.any (Entry.executes ref.id)) c)) ∧
    (∀ stack, (reply (.executeChangeSet stack ref.id) (t.performAll moves).2).1 = .ok () ↔
      (t.performAll moves).2.failures.get? .executeChangeSet = none ∧
        s.review.executionStatus = .available ∧
        (t.performAll moves).1.any (Entry.executes ref.id) = false) ∧
    (t.performAll moves).1.countP (Entry.executes ref.id) ≤ 1 ∧
    (∀ keep : Move → Bool, (∀ cue, keep (.play cue) = true) →
      (∀ r, r.changeSet? = some ref.id → keep (.call r) = true) →
      (t.performAll moves).1.filter (Entry.isAbout ref.id) =
        (t.performAll (moves.filter keep)).1.filter (Entry.isAbout ref.id)) ∧
    ∀ (u : ScriptedService) (r : Request) (later : List Move), u.Fails r →
      ((reply r u).2.performAll later).1 = (u.performAll later).1 ∧
      ∀ operation, ((reply r u).2.performAll later).2.callCount operation =
        (u.performAll later).2.callCount operation + if operation = r.operation then 1 else 0 := by
  obtain ⟨hid, hkeeps⟩ := keeps_of_created hcreated
  rw [← hid] at hspares
  obtain ⟨hkept, hcount, -⟩ := hkeeps.performAll hspares
  rw [Nat.zero_add, Bool.false_or] at hkept
  refine ⟨hid, fun stack hfailure => ?_, fun stack => ?_, hcount, ?_, ?_⟩
  · have hentered := hkept.entered (.describeChangeSet stack ref.id)
    obtain ⟨c, hreply, hcomputing, hshows, -⟩ := hentered.describeChangeSet
    rw [reply_of_not_failure hfailure]
    exact ⟨c, hreply, hcomputing, hshows⟩
  · cases hfailure : (t.performAll moves).2.failures.get? .executeChangeSet with
    | some message =>
      rw [reply_of_failure hfailure]
      exact iff_of_false nofun fun h => nomatch h.1
    | none =>
      have hentered := hkept.entered (.executeChangeSet stack ref.id)
      rw [reply_of_not_failure hfailure, answer]
      rcases hentered.executeChangeSet with
        ⟨havailable, hexecuted, hreply, -⟩ | ⟨hnot, ⟨e, hreply⟩, -⟩
      · exact iff_of_true hreply ⟨rfl, havailable, hexecuted⟩
      · exact iff_of_false (fun hok => nomatch hreply.symm.trans hok) fun h => hnot h.2
  · exact fun keep hcues habout => filter_performAll hcues habout hspares (.refl ref.id t)
  · intro u r later hfails
    obtain ⟨hentries, hmore⟩ := hfails.calledMore.performAll later
    exact ⟨hentries, hmore.count⟩

/-- A service whose change sets are found computing once. -/
def pollingService : ScriptedService :=
  { start 100 .epoch with computingPolls := 1 }

/-- A change set for a new stack. -/
def stackInput (name stack : String) : ChangeSetInput := ⟨stack, name, .create, "\x7b\x7d", [], []⟩

/-- Another change set is made with another script, and the first one is executed twice. -/
def crowdedMoves : List Move :=
  [.call (.describeChangeSet "demo" "queue"), .play (.review (.unavailable "no")),
    .call (.createChangeSet (stackInput "cache" "other")), .play (.fail .deleteStack "busy"),
    .call (.executeChangeSet "demo" "queue"), .call (.deleteStack "demo"),
    .call (.executeChangeSet "demo" "queue")]

/-- After all this the first change set is described as it was scripted, and as executing. -/
theorem queue_keeps_to_script : ∃ ref t c,
    reply (.createChangeSet (stackInput "queue" "demo")) pollingService = (.ok ref, t) ∧
      (∀ move ∈ crowdedMoves, move.Spares "queue") ∧
      (reply (.describeChangeSet "demo" ref.id) (t.performAll crowdedMoves).2).1 = .ok c ∧
      c.status = .createComplete ∧ c.executionStatus = .executing := by
  let t := (reply (.createChangeSet (stackInput "queue" "demo")) pollingService).2
  have hcreated : reply (.createChangeSet (stackInput "queue" "demo")) pollingService =
      (.ok ⟨"queue", "demo"⟩, t) := rfl
  have hspares : ∀ move ∈ crowdedMoves, move.Spares "queue" := by
    simp [crowdedMoves, Move.Spares, stackInput]
  obtain ⟨-, hdescribe, -, -, -, -⟩ := change_sets_keep_to_script hcreated hspares
  obtain ⟨c, hreply, -, hshows⟩ := hdescribe "demo" (by decide)
  have hdescribed := hshows (by decide)
  have hexecuted : (t.performAll crowdedMoves).1.any (Entry.executes "queue") = true := by decide
  refine ⟨_, _, c, hcreated, hspares, hreply, hdescribed.status, ?_⟩
  rw [hdescribed.executionStatus, hexecuted]
  rfl

end ScriptedService

end StackDeploy
