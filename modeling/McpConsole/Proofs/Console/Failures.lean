import McpConsole.Proofs.Console.Viewport

/-!
# Failures

What a call that has failed leaves of the console. `App.Spares` says of what is known afterwards that it
is what was known before, up to a notice, the mark of a form that waits for its answer, and the status
of the list. A list that could not be fetched still has the cursor brought into the list that is there.
This changes nothing where the cursor is in the list already, as it is at every moment of a course
(`Course.cursor_isIn`); hence `Course.failure_spares`.
-/

namespace McpConsole.Console

open McpConsole.Query

/-- Why an outcome is a failure, if it is one. -/
def Outcome.failure? : Outcome → Option String
  | .fetched _ (.error reason) => some reason
  | .deleted _ (.error reason) => some reason
  | .created (.error reason) => some reason
  | .updated (.error reason) => some reason
  | _ => none

namespace App

/-- What is known, before and after an outcome, is the same but for what a failure says. -/
structure Spares (before : App) (outcome : Outcome) (after : App) : Prop where
  /-- The cursor, the route, the dialog, the server that is to be deleted and all else. -/
  rest : after = { before with
    notice := after.notice
    detail := after.detail
    create := after.create
    queries := after.queries }
  /-- Only the last fetch of the list changes an entry, and only its status. -/
  entry : ∀ key, after.queries.get? key = before.queries.get? key ∨
    ∃ reason entry, outcome = .fetched entry.generation (.error reason) ∧
      before.listKey? = some key ∧ before.queries.get? key = some entry ∧
      after.queries.get? key = some { entry with status := .failed reason }
  /-- A form is not waiting any more for what has failed. -/
  detail : after.detail = before.detail ∨
    ∃ reason, outcome = .updated (.error reason) ∧
      after.detail = before.detail.map fun shown => shown.mapForm Form.released
  create : after.create = before.create ∨
    ∃ reason, outcome = .created (.error reason) ∧
      after.create = before.create.map Form.released
  /-- A list that could not be fetched is not announced. -/
  notice : (∃ generation result, outcome = .fetched generation result) → after.notice = before.notice

variable {a b : App} {outcome : Outcome} {reason : String}

theorem Spares.of_queries_eq {notice : Option Notice} {detail : Option Detail} {create : Option Form}
    (hdetail : detail = a.detail ∨ ∃ reason, outcome = .updated (.error reason) ∧
      detail = a.detail.map fun shown => shown.mapForm Form.released)
    (hcreate : create = a.create ∨ ∃ reason, outcome = .created (.error reason) ∧
      create = a.create.map Form.released)
    (hnotice : (∃ generation result, outcome = .fetched generation result) → notice = a.notice) :
    a.Spares outcome { a with notice, detail, create } :=
  ⟨rfl, fun _ => .inl rfl, hdetail, hcreate, hnotice⟩

/-- What was fetched stays. -/
theorem Spares.data? (h : a.Spares outcome b) (key : String) :
    b.queries.data? key = a.queries.data? key := by
  obtain hsame | ⟨_, entry, -, -, hbefore, hafter⟩ := h.entry key
  · rw [Store.data?, hsame, Store.data?]
  · rw [Store.data?_of_get? hafter, Store.data?_of_get? hbefore]

theorem Spares.servers (h : a.Spares outcome b) : b.servers = a.servers := by
  have hdata : b.queries.data? = a.queries.data? := funext h.data?
  have hkey : b.listKey? = a.listKey? := by
    rw [h.rest]
    rfl
  rw [App.servers, hkey, hdata, App.servers]

/-- The last fetch of the list has failed. -/
theorem failed_spares {key : String} {entry : Query.Entry (List Server)} (hkey : a.listKey? = some key)
    (hentry : a.queries.get? key = some entry) (reason : String) :
    a.Spares (.fetched entry.generation (.error reason))
      { a with queries := a.queries.put key { entry with status := .failed reason } } := by
  refine ⟨rfl, fun other => ?_, .inl rfl, .inl rfl, fun _ => rfl⟩
  dsimp only
  rw [Store.get?_put]
  split
  · rename_i hother
    subst hother
    exact .inr ⟨reason, entry, rfl, hkey, hentry, rfl⟩
  · exact .inl rfl

/-- A list that could not be fetched. The cursor is in the list that is there, so that it needs not be
brought into it. -/
theorem applyFetched_spares (hc : a.cursor.IsIn a.servers.length) (generation : Nat)
    (reason : String) :
    a.Spares (.fetched generation (.error reason)) (a.applyFetched generation (.error reason)) := by
  have hnothing : a.Spares (.fetched generation (.error reason)) a :=
    .of_queries_eq (.inl rfl) (.inl rfl) fun _ => rfl
  cases hkey : a.listKey? with
  | none =>
    simp only [applyFetched, hkey]
    exact hnothing
  | some key =>
    cases hentry : a.queries.get? key with
    | none =>
      simp only [applyFetched, hkey, Store.resolve, hentry]
      exact hnothing
    | some entry =>
      by_cases hg : entry.generation = generation
      · subst hg
        have hspares := failed_spares hkey hentry reason
        have hcursor := hc.normalize_eq
        rw [← hspares.servers] at hcursor
        simp only [applyFetched, hkey, Store.resolve_of_get? hentry, if_true, Query.Entry.resolved, hcursor]
        exact hspares
      · simp only [applyFetched, hkey, Store.resolve_of_get? hentry, if_neg hg]
        exact hnothing

/-- **What a failure leaves** of what is known. -/
theorem applyOutcome_spares (hc : a.cursor.IsIn a.servers.length)
    (hf : outcome.failure? = some reason) :
    (a.applyOutcome outcome).2 = [] ∧ a.Spares outcome (a.applyOutcome outcome).1 := by
  cases outcome with
  | fetched generation result =>
    cases result with
    | ok => cases hf
    | error reason => exact ⟨rfl, applyFetched_spares hc generation reason⟩
  | deleted id result =>
    cases result with
    | ok => cases hf
    | error reason => exact ⟨rfl, .of_queries_eq (.inl rfl) (.inl rfl) (by simp)⟩
  | created result =>
    cases result with
    | ok => cases hf
    | error reason => exact ⟨rfl, .of_queries_eq (.inl rfl) (.inr ⟨reason, rfl, rfl⟩) (by simp)⟩
  | updated result =>
    cases result with
    | ok => cases hf
    | error reason => exact ⟨rfl, .of_queries_eq (.inr ⟨reason, rfl, rfl⟩) (.inl rfl) (by simp)⟩
  | remark => cases hf

end App

namespace Course

/-- **A failure leaves the data as it was.** At every moment of every course, when anything has failed
for any reason: nothing is led to, the screen stays, the servers that were fetched stay, and so does all
else that is known, but for a notice, the mark of a form that waits for what has failed and, where it
is the last fetch of the list, the status of the list. -/
theorem failure_spares (c : Course) (n : Nat) {outcome : Outcome} {reason : String}
    (h : outcome.failure? = some reason) :
    let s := c.state n
    let after := (s.update (.completed outcome)).1
    (s.update (.completed outcome)).2 = [] ∧ after.view = s.view ∧
      after.app.servers = s.app.servers ∧ s.app.Spares outcome after.app := by
  have hin : (c.state n).app.cursor.IsIn (c.state n).app.servers.length := c.cursor_isIn n
  obtain ⟨hnothing, hspares⟩ := App.applyOutcome_spares hin h
  exact ⟨hnothing, rfl, hspares.servers, hspares⟩

/-- The second of two servers is selected, and the list is fetched again. -/
def refetching : Course :=
  ofList administrator
    [.arrival 0 (.fetched 1 (.ok [sample "a", sample "b"])), .press .down, .press (.char 'r')]

/-- Then the list could not be fetched: it is there still, and the same server is selected. -/
theorem failure_spares_fetched :
    let s := refetching.state 3
    let after := (s.update (.completed (.fetched 2 (.error "timeout")))).1
    s.app.selected? = some (sample "b") ∧ after.app.listStatus = .failed "timeout" ∧
      after.app.servers = s.app.servers ∧ after.app.cursor = s.app.cursor := by
  intro s after
  have hfailure : Outcome.failure? (.fetched 2 (.error "timeout")) = some "timeout" := rfl
  obtain ⟨-, -, hservers, hspares⟩ := failure_spares refetching 3 hfailure
  have hcursor := congrArg App.cursor hspares.rest
  exact ⟨by decide +kernel, by decide +kernel, hservers, hcursor⟩

end Course

end McpConsole.Console
