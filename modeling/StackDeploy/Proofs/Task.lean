import StackDeploy.Task

/-!
# Runs of tasks

What a task does to the world around it, as a list of **actions**: calls with the replies they got
and writes with their results. The world is free to reply as it likes.

* `Obeys` — each action is allowed by the ones before it.
* `Step.Leads` — the states in which a task can be after one step, with the actions of that step.
* `Step.leads_embed` — a task that is part of another one goes its own way or hands over.
* `Query.Ends` — the whole runs of a task that only calls the service.
* `Query.Ends.unique` — a service that answers by what it was asked before leaves it one way to run.
-/

namespace StackDeploy

/-- An **action** is a call with the reply to it, or a write with its result. -/
inductive Action where
  | call (request : Request) (reply : Reply request)
  | write (text : String) (result : Written)

/-- Every action of a trace is **allowed** by the actions before it. -/
def Obeys {α : Type} (allowed : List α → α → Prop) (trace : List α) : Prop :=
  ∀ before a after, trace = before ++ a :: after → allowed before a

section Obeys

variable {α : Type} {allowed : List α → α → Prop} {trace : List α}

theorem obeys_nil (allowed : List α → α → Prop) : Obeys allowed [] := by
  intro before a after h
  cases before <;> cases h

theorem Obeys.left {before after : List α} (h : Obeys allowed (before ++ after)) :
    Obeys allowed before := by
  rintro first a last rfl
  exact h first a (last ++ after) (by simp)

theorem Obeys.imp {other : List α → α → Prop} (h : Obeys allowed trace)
    (himp : ∀ before a, allowed before a → other before a) : Obeys other trace :=
  fun before a after hb => himp before a (h before a after hb)

theorem obeys_append_singleton {a : α} :
    Obeys allowed (trace ++ [a]) ↔ Obeys allowed trace ∧ allowed trace a := by
  constructor
  · intro h
    exact ⟨fun before b after hb => h before b (after ++ [a]) (by simp [hb]), h trace a [] rfl⟩
  · rintro ⟨hobeys, ha⟩ before b after hb
    -- `b` is the new action, or it stands in the trace already
    rcases List.eq_nil_or_concat after with rfl | ⟨rest, last, rfl⟩
    · obtain ⟨rfl, hba⟩ := List.append_inj' hb rfl
      obtain rfl : a = b := List.head_eq_of_cons_eq hba
      exact ha
    · rw [List.concat_eq_append, ← List.cons_append, ← List.append_assoc] at hb
      exact hobeys before b rest (List.append_inj' hb rfl).1

/-- A further list obeys when it is judged together with what is before it. -/
theorem Obeys.append {first second : List α} (h : Obeys allowed first)
    (hsecond : Obeys (fun before => allowed (first ++ before)) second) :
    Obeys allowed (first ++ second) := by
  induction second generalizing first with
  | nil => rwa [List.append_nil]
  | cons a rest ih =>
    have ha : allowed first a := by simpa using hsecond [] a rest rfl
    rw [List.append_cons]
    refine ih (obeys_append_singleton.mpr ⟨h, ha⟩) fun before b after hb => ?_
    simpa using hsecond (a :: before) b after (by rw [hb, List.cons_append])

/-- The last part of a list obeys when it is judged together with what is before it. -/
theorem Obeys.right {first second : List α} (h : Obeys allowed (first ++ second)) :
    Obeys (fun before => allowed (first ++ before)) second := by
  rintro before a after rfl
  exact h (first ++ before) a after (List.append_assoc ..).symm

end Obeys

/-! ### One step -/

/-- A step **leads** to a state by some actions, whatever the world replies. A pause leads on when
its deadline has come. -/
inductive Step.Leads {σ α : Type} (clock : Clock) : Step σ α → List Action → σ → Prop
  | call (request : Request) (resume : Reply request → σ) (reply : Reply request) :
      Leads clock (.call request resume) [.call request reply] (resume reply)
  | write (text : String) (resume : Written → σ) (result : Written) :
      Leads clock (.write text resume) [.write text result] (resume result)
  | goOn (state : σ) : Leads clock (.goOn state) [] state
  | wake {deadline : Nat} (state : σ) (due : deadline ≤ clock.timer) :
      Leads clock (.pause deadline state) [] state

/-- A step takes at most one action. -/
theorem Step.Leads.actions_eq {σ α : Type} {clock : Clock} {step : Step σ α}
    {actions : List Action} {t : σ} (h : step.Leads clock actions t) :
    actions = [] ∨ ∃ a, actions = [a] := by
  cases h with
  | call request resume reply => exact .inr ⟨_, rfl⟩
  | write text resume result => exact .inr ⟨_, rfl⟩
  | goOn => exact .inl rfl
  | wake _ due => exact .inl rfl

namespace Step

variable {σ τ α β : Type} {clock : Clock}

/-- A task inside another one never finishes the whole. -/
@[simp] theorem embed_ne_finish (f : σ → τ) (g : α → τ) (step : Step σ α) (b : β) :
    (step.embed f g : Step τ β) ≠ .finish b := by
  cases step <;> simp [embed]

@[simp] theorem embed_query_ne_finish (f : σ → τ) (g : α → τ) (query : Query σ α) (b : β) :
    (query.embed f g : Step τ β) ≠ .finish b := by
  cases query <;> simp [Query.embed]

/-- What a task does, it does inside another one. -/
theorem Leads.embed {step : Step σ α} {actions : List Action} {s : σ}
    (h : step.Leads clock actions s) (f : σ → τ) (g : α → τ) :
    (step.embed f g : Step τ β).Leads clock actions (f s) := by
  cases h with
  | call request resume reply => exact .call request (fun reply => f (resume reply)) reply
  | write text resume result => exact .write text (fun written => f (resume written)) result
  | goOn => exact .goOn (f s)
  | wake _ due => exact .wake (f s) due

/-- A task inside another one either takes a step of its own, or it is over and hands over to the
whole. -/
theorem leads_embed {f : σ → τ} {g : α → τ} {step : Step σ α} {actions : List Action} {t : τ}
    (h : (step.embed f g : Step τ β).Leads clock actions t) :
    (∃ s, step.Leads clock actions s ∧ t = f s) ∨
      (∃ a, step = .finish a ∧ actions = [] ∧ t = g a) := by
  cases step with
  | call request resume =>
    cases h with
    | call _ _ reply => exact .inl ⟨resume reply, .call request resume reply, rfl⟩
  | write text resume =>
    cases h with
    | write _ _ result => exact .inl ⟨resume result, .write text resume result, rfl⟩
  | goOn state =>
    cases h
    exact .inl ⟨state, .goOn state, rfl⟩
  | pause deadline state =>
    cases h with
    | wake _ due => exact .inl ⟨state, .wake state due, rfl⟩
  | blocked => cases h
  | finish a =>
    cases h
    exact .inr ⟨a, rfl, rfl, rfl⟩

end Step

/-! ### Whole runs of queries -/

namespace Query

variable {σ α : Type}

/-- The **runs** of a query from a state: the calls so far, and the state they have led to. -/
inductive Runs (step : σ → Query σ α) (start : σ) : List Action → σ → Prop
  | start : Runs step start [] start
  | call {trace : List Action} {s : σ} {request : Request} {resume : Reply request → σ}
      (run : Runs step start trace s) (hstep : step s = .call request resume)
      (reply : Reply request) :
      Runs step start (trace ++ [.call request reply]) (resume reply)

/-- A query **ends** with a result after the calls of a trace. -/
def Ends (step : σ → Query σ α) (start : σ) (trace : List Action) (result : α) : Prop :=
  ∃ s, Runs step start trace s ∧ step s = .done result

end Query

/-! ### Services -/

/-- The replies are those of a **service** that answers each request by what it was asked before. -/
def AnsweredBy (service : List Action → (request : Request) → Reply request)
    (before : List Action) : Action → Prop
  | .call request reply => reply = service before request
  | .write _ _ => True

section Service

variable {service : List Action → (request : Request) → Reply request} {σ α : Type}
  {step : σ → Query σ α} {start s : σ} {before trace trace' : List Action} {result result' : α}

/-- How a query goes when it is run against a service: its calls and its state after so many of
them, fewer if it is done before. -/
def Query.serve (service : List Action → (request : Request) → Reply request)
    (step : σ → Query σ α) (start : σ) (before : List Action) : Nat → List Action × σ
  | 0 => ([], start)
  | n + 1 =>
    match Query.serve service step start before n with
    | (trace, s) =>
      match step s with
      | .call request resume =>
        (trace ++ [.call request (service (before ++ trace) request)],
          resume (service (before ++ trace) request))
      | .done _ => (trace, s)

/-- A run against a service is the one that the service makes of it. -/
theorem Query.Runs.serve_length (run : Query.Runs step start trace s)
    (answered : Obeys (fun earlier => AnsweredBy service (before ++ earlier)) trace) :
    Query.serve service step start before trace.length = (trace, s) := by
  induction run with
  | start => rfl
  | @call trace s request resume run hstep reply ih =>
    obtain ⟨hbefore, hreply⟩ := obeys_append_singleton.mp answered
    obtain rfl : reply = service (before ++ trace) request := hreply
    rw [List.length_append, List.length_singleton, Query.serve, ih hbefore]
    simp only [hstep]

/-- A query that is done does nothing more. -/
theorem Query.serve_of_done {n : Nat} (h : Query.serve service step start before n = (trace, s))
    (hdone : step s = .done result) (more : Nat) :
    Query.serve service step start before (n + more) = (trace, s) := by
  induction more with
  | zero => exact h
  | succ more ih =>
    rw [← Nat.add_assoc, Query.serve, ih]
    simp only [hdone]

/-- **A query has one way to run** against a service. -/
theorem Query.Ends.unique (ends : Query.Ends step start trace result)
    (answered : Obeys (fun earlier => AnsweredBy service (before ++ earlier)) trace)
    (ends' : Query.Ends step start trace' result')
    (answered' : Obeys (fun earlier => AnsweredBy service (before ++ earlier)) trace') :
    trace = trace' ∧ result = result' := by
  obtain ⟨s, run, hdone⟩ := ends
  obtain ⟨s', run', hdone'⟩ := ends'
  have hserve := Query.serve_of_done (run.serve_length answered) hdone trace'.length
  have hserve' := Query.serve_of_done (run'.serve_length answered') hdone' trace.length
  rw [Nat.add_comm, hserve'] at hserve
  obtain ⟨rfl, rfl⟩ := Prod.mk.inj hserve
  rw [hdone'] at hdone
  cases hdone
  exact ⟨rfl, rfl⟩

end Service

end StackDeploy
