import McpConsole.Proofs.Console.Core

/-!
# What the console does to its core

Whatever the console does comes to a deed of its core. For what the terminal reports this is
`State.handle_does`, for the outcome of a call `State.deliver_does`, and for drawing
`State.arrange_does`. Proofs about runs need nothing else of the handlers.
-/

namespace McpConsole.Console

open McpConsole.Query McpConsole.Screen

/-- The core of the console and the calls that were issued on the way to it. -/
def Core.of (result : State × List Issued) : Core × List Issued :=
  (result.1.core, result.2)

/-- The effects that close the dialog, with a choice or without one. -/
def Effect.closing : Option Choice → List Effect
  | some choice => State.choose choice
  | none => State.dismiss

/-- A key that sends a form does not change it. -/
theorem Form.handleKey_submit {f : Form} {press : KeyPress} (h : (f.handleKey press).2 = .submit) :
    (f.handleKey press).1 = f := by
  unfold Form.handleKey at h ⊢
  split at h
  case h_1 | h_7 =>
    split at h
    · rename_i hc
      rw [if_pos hc]
    · cases h
  all_goals cases h

theorem Effect.closing_inj {a b : Option Choice} : Effect.closing a = Effect.closing b ↔ a = b := by
  cases a <;> cases b <;> simp [Effect.closing, State.choose, State.dismiss]

/-- What the console was asked for comes to a deed of its core. -/
structure State.Does (s : State) (result : State × List Effect) (deed : Deed) : Prop where
  permits : s.core.Permits deed
  enact : ∀ clipboard, Core.of (result.1.process clipboard result.2) = s.core.enact deed
  /-- The dialog is answered just when the effects close it. -/
  answers : ∀ choice, deed = .answer choice ↔ result.2 = Effect.closing choice
  isNew : ∀ outcome, deed ≠ .come outcome

/-- Whether a deed is neither an answer to the dialog nor an outcome. -/
def Deed.isPlain : Deed → Bool
  | .answer _ => false
  | .come _ => false
  | _ => true

/-- What leads to one effect at most does not answer the dialog. -/
theorem State.Does.of_isPlain {s : State} {result : State × List Effect} {deed : Deed}
    (permits : s.core.Permits deed)
    (enact : ∀ clipboard, Core.of (result.1.process clipboard result.2) = s.core.enact deed)
    (plain : deed.isPlain = true) (short : result.2.length ≤ 1) : s.Does result deed where
  permits := permits
  enact := enact
  answers choice := by
    constructor
    · rintro rfl
      cases plain
    · intro h
      rw [h] at short
      cases choice <;> simp [Effect.closing, choose, dismiss] at short
  isNew outcome := by
    rintro rfl
    cases plain

/-- What leads to no effect does a deed that changes the core as it did. -/
theorem State.Does.of_core {s t : State} {deed : Deed} (permits : s.core.Permits deed)
    (enact : (t.core, []) = s.core.enact deed) (plain : deed.isPlain = true) :
    s.Does (t, []) deed :=
  .of_isPlain permits (fun _ => by rw [process_nil]; exact enact) plain (by simp)

/-- What the core does not know of. -/
theorem State.Does.rest {s t : State} (h : t.core = s.core) : s.Does (t, []) .rest :=
  .of_core trivial (by rw [h]; rfl) rfl

namespace State

/-! ### Carrying out effects -/

theorem noteIssued_core (s : State) (issued : List Issued) :
    (s.noteIssued issued).core = s.core := by
  unfold noteIssued
  split <;> rfl

theorem issue_core (s : State) (call : Api.Call) : Core.of (s.issue call) = s.core.issue call := by
  have hl : s.app.listKey? = s.core.session.credential := rfl
  unfold State.issue Core.issue
  cases hk : s.core.session.credential with
  | none => simp only [App.command, hl, hk, Core.of, noteIssued_core]; rfl
  | some credential =>
    simp only [App.command, hl, hk, Core.of, noteIssued_core]
    cases call <;> rfl

theorem switchTo_core (s : State) {route : Route} (h : (contentFor s.app route).route = route) :
    (s.switchTo route).core = s.core.turnedTo route := by
  simp only [switchTo, core, Core.turnedTo, App.navigate, h]

theorem process_list_core (s : State) (clipboard : Clipboard) (effects : List Effect) :
    Core.of (s.process clipboard (.switchTo .list :: effects)) =
      Core.of ((s.switchTo .list).process clipboard effects) := by
  rw [process_navigation s clipboard rfl]
  rfl

/-! ### Outcomes -/

/-- A change elsewhere fetches the list again, whatever else it does to the looks. -/
theorem invalidateList_core (a : App) (view : View) (clipboard : Clipboard) (others : Bool) :
    Core.of (State.process ⟨{ a.invalidateList.1 with isExecuting := others }, view⟩ clipboard
      a.invalidateList.2) = (State.mk a view).core.refetch := by
  have hl : a.listKey? = (State.mk a view).core.session.credential := rfl
  unfold App.invalidateList Core.refetch
  cases hk : (State.mk a view).core.session.credential with
  | none => simp only [hl, hk, process_nil]; rfl
  | some key =>
    simp only [hl, hk]
    have hq : (State.mk a view).core.queries = a.queries := rfl
    rw [hq]
    cases (a.queries.invalidate key).2 with
    | false => simp only [Bool.false_eq_true, if_false, process_nil]; rfl
    | true =>
      simp only [if_true, process_call, issue_core]
      rfl

theorem invalidateList_route (a : App) (route : Route) :
    App.invalidateList { a with route } =
      ({ a.invalidateList.1 with route }, a.invalidateList.2) := by
  unfold App.invalidateList
  split <;> rename_i hk <;> simp only [App.listKey?] at hk ⊢ <;> simp only [hk]

/-- The same on the way back to the list. -/
theorem switchTo_invalidateList_core (a : App) (view : View) (clipboard : Clipboard)
    (others : Bool) :
    Core.of (State.process ⟨{ a.invalidateList.1 with isExecuting := others }, view⟩ clipboard
      (.switchTo .list :: a.invalidateList.2)) =
        ((State.mk a view).core.turnedTo .list).refetch := by
  have hd := invalidateList_core { a with route := .list } { view with content := .list [] }
    clipboard others
  rw [invalidateList_route] at hd
  rw [process_list_core]
  exact hd

/-- An outcome is received by the core. -/
theorem deliver_does (s : State) (clipboard : Clipboard) (outcome : Outcome) (others : Bool) :
    Core.of ((s.deliver outcome others).1.process clipboard (s.deliver outcome others).2) =
      s.core.receive outcome := by
  cases outcome with
  | fetched generation result =>
    have hl : s.app.listKey? = s.core.session.credential := rfl
    simp only [deliver, update, after, App.update, App.applyOutcome, process_nil, Core.receive,
      App.applyFetched, hl]
    cases hk : s.core.session.credential with
    | none => rfl
    | some key =>
      have hq : s.core.queries = s.app.queries := rfl
      simp only [hq]
      split
      · rfl
      · rfl
  | deleted id result =>
    cases result with
    | error => simp only [deliver, update, after, App.update, App.applyOutcome, App.applyDeleted,
        process_nil]; rfl
    | ok => exact invalidateList_core (s.app.notify _ _) s.view clipboard others
  | created result =>
    cases result with
    | error => simp only [deliver, update, after, App.update, App.applyOutcome, App.applyCreated,
        process_nil]; rfl
    | ok server =>
      exact switchTo_invalidateList_core
        { s.app.notify .success "MCP Server created successfully" with create := none } s.view
        clipboard others
  | updated result =>
    cases result with
    | error => simp only [deliver, update, after, App.update, App.applyOutcome, App.applyUpdated,
        process_nil]; rfl
    | ok server =>
      exact invalidateList_core (App.notify { s.app with detail := _ } _ _) s.view clipboard others
  | remark text =>
    simp only [deliver, update, after, App.update, App.applyOutcome, process_nil]
    rfl

/-! ### Drawing and time -/

theorem arrangeDialog_core (s : State) (area : Rect) : (s.arrangeDialog area).core = s.core := by
  simp only [core, arrangeDialog, Option.isSome_map]

theorem arrangeList_core (s : State) (view : Rect) (h : s.core.shown = .list) :
    (s.arrangeList view).core =
      { s.core with
        cursor := s.core.cursor.arrange (listAreas view s.app.session.isAdmin).rows
          s.core.servers.length } := by
  rw [show s.core = { s.core with shown := .list } by rw [← h]]
  rfl

/-- Drawing moves the cursor of the list into view, and nothing else. -/
theorem arrange_does (s : State) (screen : Rect) :
    ∃ deed, s.Does (s.arrange screen, []) deed := by
  unfold arrange arrangeContent
  split
  · split
    · rename_i controls hc
      have hs : s.core.shown = .list := by rw [core, hc]; rfl
      have hm : s.core.cursor.Moves s.core.servers.length _ :=
        .arrange (listAreas (screenAreas screen).content s.app.session.isAdmin).rows
      refine ⟨.point _, .of_core ⟨hs, hm⟩ ?_ rfl⟩
      rw [arrangeDialog_core, arrangeList_core s _ hs]
      rfl
    · exact ⟨.rest, .rest (arrangeDialog_core s _)⟩
  · exact ⟨.rest, .rest rfl⟩

/-! ### The list -/

/-- The console with the cursor of the list elsewhere. -/
def pointed (s : State) (cursor : Cursor) : State :=
  { s with app := { s.app with cursor } }

theorem moveCursor_does (s : State) (h : s.core.Faces .list) {move : Cursor → Nat → Cursor}
    (moves : ∀ length c, Cursor.Moves length c (move c length)) :
    ∃ deed, s.Does (s.moveCursor move) deed :=
  ⟨.point (move s.core.cursor s.core.servers.length),
    .of_core ⟨h.shown, moves _ _⟩ rfl rfl⟩

theorem openSelected_does (s : State) (h : s.core.Faces .list) {cursor : Cursor} (editing : Bool)
    (moves : cursor = s.core.cursor ∨ s.core.cursor.Moves s.core.servers.length cursor) :
    ∃ deed, s.Does ((s.pointed cursor).openSelected editing) deed := by
  unfold openSelected
  split
  · rename_i server hs
    refine ⟨.visit cursor (s.core.opened server.id editing),
      .of_isPlain ?_ ?_ rfl (by simp [after, App.openDetail])⟩
    · exact ⟨h, moves, server, editing, hs, rfl⟩
    · intro clipboard
      simp only [after, App.openDetail]
      rw [process_navigate _ _ rfl]
      simp only [Core.of, navigate]
      rw [switchTo_core _ rfl]
      rfl
  · obtain rfl | moves := moves
    · exact ⟨.rest, .rest rfl⟩
    · exact ⟨.point cursor, .of_core ⟨h.shown, moves⟩ rfl rfl⟩

theorem deleteSelected_does (s : State) (h : s.core.Faces .list) :
    ∃ deed, s.Does s.deleteSelected deed := by
  unfold deleteSelected App.requestDelete
  split
  · rename_i server hs
    split
    · rename_i ha
      refine ⟨.ask server.id, .of_isPlain ⟨h, ha, server, hs, rfl⟩ ?_ rfl (by simp [after])⟩
      intro clipboard
      simp only [after]
      rw [process_navigate _ _ rfl]
      rfl
    · exact ⟨.rest, .rest rfl⟩
  · exact ⟨.rest, .rest rfl⟩

theorem openCreate_does (s : State) (h : s.core.Faces .list) :
    ∃ deed, s.Does (s.after s.app.openCreate) deed := by
  unfold App.openCreate
  split
  · rename_i ha
    refine ⟨.draft, .of_isPlain ⟨h, ha⟩ ?_ rfl (by simp [after])⟩
    intro clipboard
    simp only [after]
    rw [process_navigate _ _ rfl]
    simp only [Core.of, navigate]
    rw [switchTo_core _ rfl]
    rfl
  · exact ⟨.rest, .rest rfl⟩

theorem refresh_does (s : State) (h : s.core.Faces .list) :
    ∃ deed, s.Does (s, s.app.refresh) deed := by
  have hr : s.app.refresh = [.call .list] := if_pos h.isComplete
  refine ⟨.refresh, .of_isPlain h ?_ rfl (by simp [hr])⟩
  intro clipboard
  simp only [hr, process_call, issue_core]
  rfl

theorem quit_does (s : State) : ∃ deed, s.Does (s, [.quit]) deed :=
  ⟨.rest, .of_isPlain trivial (fun _ => by rw [process_navigate _ _ rfl]; rfl) rfl (by simp)⟩

theorem listKey_does (s : State) (h : s.core.Faces .list) (key : Key) :
    ∃ deed, s.Does (s.listKey key) deed := by
  unfold listKey
  split
  · exact s.moveCursor_does h fun _ _ => .previous
  · exact s.moveCursor_does h fun _ _ => .previous
  · exact s.moveCursor_does h fun _ _ => .next
  · exact s.moveCursor_does h fun _ _ => .next
  · exact s.openSelected_does h false (.inl rfl)
  · split
    · exact s.openSelected_does h true (.inl rfl)
    · exact ⟨.rest, .rest rfl⟩
  · split
    · exact s.deleteSelected_does h
    · exact ⟨.rest, .rest rfl⟩
  · split
    · exact s.openCreate_does h
    · exact ⟨.rest, .rest rfl⟩
  · exact s.refresh_does h
  · exact s.quit_does
  · exact ⟨.rest, .rest rfl⟩

theorem clickRow_does (s : State) (h : s.core.Faces .list) (column row : Nat) :
    ∃ deed, s.Does (s.clickRow column row) deed := by
  unfold clickRow
  split
  · exact ⟨.rest, .rest rfl⟩
  · rename_i index hi
    have hl : index < s.core.servers.length := by
      unfold Cursor.rowAt? at hi
      split at hi
      · dsimp only at hi
        split at hi
        · rename_i hl
          cases hi
          exact hl
        · cases hi
      · cases hi
    dsimp only
    split
    · exact s.openSelected_does h false (.inr (.row hl))
    · exact ⟨.point _, .of_core ⟨h.shown, .row hl⟩ rfl rfl⟩

theorem listMouse_does (s : State) (h : s.core.Faces .list) (controls : List (Control × Rect))
    (m : MouseEvent) : ∃ deed, s.Does (s.listMouse controls m) deed := by
  unfold listMouse
  split
  · exact s.moveCursor_does h fun _ _ => .previous
  · exact s.moveCursor_does h fun _ _ => .next
  · split
    · exact s.clickRow_does h m.column m.row
    · exact s.openCreate_does h
    · exact s.openSelected_does h true (.inl rfl)
    · exact s.deleteSelected_does h
    · exact ⟨.rest, .rest rfl⟩
  · exact ⟨.rest, .rest rfl⟩

/-! ### The views of one server -/

theorem closeDetail_does (s : State) (h : s.core.Faces .detail) :
    ∃ deed, s.Does (s.after s.app.closeDetail) deed := by
  refine ⟨.leaveDetail, .of_isPlain h ?_ rfl (by simp [after, App.closeDetail])⟩
  intro clipboard
  simp only [after, App.closeDetail]
  rw [process_navigate _ _ rfl]
  rfl

theorem closeCreate_does (s : State) (h : s.core.Faces .create) :
    ∃ deed, s.Does (s.after s.app.closeCreate) deed := by
  refine ⟨.leaveCreate, .of_isPlain h ?_ rfl (by simp [after, App.closeCreate])⟩
  intro clipboard
  simp only [after, App.closeCreate]
  rw [process_navigate _ _ rfl]
  rfl

theorem copy_does (s : State) (text : String) : ∃ deed, s.Does (s, [.copy text]) deed :=
  ⟨.rest, .of_isPlain trivial (fun _ => by rw [process_copy]; rfl) rfl (by simp)⟩

theorem viewingKey_does (s : State) (h : s.core.Faces .detail) {detail : Detail}
    (hd : s.app.detail = some detail) (hf : detail.form = none) (press : KeyPress) :
    ∃ deed, s.Does (s.viewingKey detail press) deed := by
  unfold viewingKey
  dsimp only
  split
  · exact s.closeDetail_does h
  · exact s.closeDetail_does h
  · exact s.closeDetail_does h
  · split
    · rename_i ha
      rw [Bool.and_eq_true, Bool.not_eq_true'] at ha
      refine ⟨.startEditing, .of_core ⟨h, ha.1, detail, hd, hf, ha.2⟩ ?_ rfl⟩
      simp only [core, Core.enact, hd, Option.map_some]
    · exact ⟨.rest, .rest rfl⟩
  · split
    · exact s.copy_does _
    · exact ⟨.rest, .rest rfl⟩
  · exact s.quit_does
  · exact ⟨.rest, .rest rfl⟩

/-- Sending a form is what the core does with it, where `put` keeps the form. -/
theorem submit_core {α : Type} (s : State) (clipboard : Clipboard) (put : Form → App)
    (putCore : Form → Core) (form : Form) (filled : Except (List Field) α) (call : α → Api.Call)
    (hp : ∀ f, (State.mk (put f) s.view).core = putCore f) (hs : putCore form = s.core) :
    Core.of ((State.mk (put (App.submit form filled call).1) s.view).process clipboard
      (App.submit form filled call).2) = s.core.submit putCore form filled call := by
  unfold App.submit Core.submit
  split
  · simp only [process_nil, Core.of, hp, hs]
  · cases filled with
    | error missing => simp only [process_nil, Core.of, hp]
    | ok payload => simp only [process_call, issue_core, hp]

theorem submit_length_le {α : Type} (form : Form) (filled : Except (List Field) α)
    (call : α → Api.Call) : (App.submit form filled call).2.length ≤ 1 := by
  unfold App.submit
  split
  · simp
  · cases filled <;> simp

theorem submitUpdate_does (s : State) (h : s.core.Faces .detail) {detail : Detail} {form : Form}
    (hd : s.app.detail = some detail) (hf : detail.form = some form) :
    ∃ deed, s.Does (s.after s.app.submitUpdate) deed := by
  obtain ⟨server, isEditing, kept⟩ := detail
  obtain rfl : kept = some form := hf
  have hc : s.core.detail = some ⟨server, isEditing, some form⟩ := hd
  have hu : s.app.submitUpdate = if s.app.session.isAdmin then
      ({ s.app with detail := some ⟨server, isEditing,
          some (App.submit form (form.revision server.id) .update).1⟩ },
        (App.submit form (form.revision server.id) .update).2)
      else (s.app, []) := by
    unfold App.submitUpdate
    cases s.app.session.isAdmin <;> simp [hd]
  refine ⟨.sendDetail, .of_isPlain ⟨h, _, form, hd, rfl⟩ ?_ rfl ?_⟩
  · intro clipboard
    simp only [after, hu, Core.enact, hc]
    cases ha : s.app.session.isAdmin with
    | false =>
      simp only [show s.core.session.isAdmin = false from ha, Bool.false_eq_true, if_false,
        process_nil]
      rfl
    | true =>
      simp only [show s.core.session.isAdmin = true from ha, if_true]
      refine s.submit_core clipboard
        (fun f => { s.app with detail := some ⟨server, isEditing, some f⟩ }) _ form _ _ (fun f => rfl) ?_
      rw [← hc]
  · simp only [after, hu]
    split
    · exact submit_length_le ..
    · simp

theorem submitCreate_does (s : State) (h : s.core.Faces .create) {form : Form}
    (hf : s.app.create = some form) : ∃ deed, s.Does (s.after s.app.submitCreate) deed := by
  have hc : s.core.create = some form := hf
  refine ⟨.sendCreate, .of_isPlain ⟨h, form, hf⟩ ?_ rfl ?_⟩
  · intro clipboard
    simp only [after, App.submitCreate, Core.enact, hf, hc]
    refine s.submit_core clipboard (fun f => { s.app with create := some f }) _ form _ _ (fun f => rfl) ?_
    rw [← hc]
  · simp only [after, App.submitCreate, hf]
    exact submit_length_le ..

theorem detailKey_does (s : State) (h : s.core.Faces .detail) (press : KeyPress) :
    ∃ deed, s.Does (s.detailKey press) deed := by
  unfold detailKey
  split
  · exact s.closeDetail_does h
  · rename_i detail hd
    split
    · rename_i hf
      exact s.viewingKey_does h hd hf press
    · rename_i form hf
      dsimp only
      split
      · rename_i ha
        rw [Form.handleKey_submit ha, ← hf]
        have hs : { s.app with detail := some detail } = s.app := by rw [← hd]
        rw [hs]
        exact s.submitUpdate_does h hd hf
      · exact s.closeDetail_does h
      · refine ⟨.fillDetail (form.handleKey press).1,
          .of_core ⟨h, detail, form, press, hd, hf, rfl⟩ ?_ rfl⟩
        simp only [core, Core.enact, hd, Option.map_some]

theorem createKey_does (s : State) (h : s.core.Faces .create) (press : KeyPress) :
    ∃ deed, s.Does (s.createKey press) deed := by
  unfold createKey
  split
  · exact s.closeCreate_does h
  · rename_i form hf
    dsimp only
    split
    · rename_i ha
      rw [Form.handleKey_submit ha]
      have hs : { s.app with create := some form } = s.app := by rw [← hf]
      rw [hs]
      exact s.submitCreate_does h hf
    · exact s.closeCreate_does h
    · exact ⟨.fillCreate (form.handleKey press).1, .of_core ⟨h, form, press, hf, rfl⟩ rfl rfl⟩

/-! ### The dialog -/

/-- The dialog is closed, and its owner learns the answer. -/
theorem process_closing (s : State) (clipboard : Clipboard) (choice : Option Choice) :
    Core.of (s.process clipboard (Effect.closing choice)) = s.core.enact (.answer choice) := by
  cases choice with
  | none =>
    simp only [Effect.closing, dismiss]
    rw [process_navigation _ _ rfl, process_send]
    simp only [update, after, App.update, process_nil]
    rfl
  | some choice =>
    simp only [Effect.closing, choose]
    rw [process_navigation _ _ rfl, process_send]
    cases choice with
    | cancel =>
      simp only [update, after, App.update, process_nil]
      rfl
    | confirm =>
      have hp : (s.navigate .closeModal).app.pendingDelete = s.core.pendingDelete := rfl
      simp only [update, after, App.update, App.confirmDelete, Core.enact, hp]
      cases hk : s.core.pendingDelete with
      | none =>
        have hk : s.app.pendingDelete = none := hk
        simp only [process_nil, Core.of, core, navigate, closeModal, App.navigate, hk,
          Option.isSome_none]
      | some id =>
        simp only [process_call, issue_core]
        rfl

theorem closing_does (s : State) (hc : s.core.session.isComplete = true)
    (ha : s.core.isAsking = true) (choice : Option Choice) :
    ∃ deed, s.Does (s, Effect.closing choice) deed := by
  refine ⟨.answer choice, ⟨hc, ha⟩, (s.process_closing · choice), ?_, by simp⟩
  intro other
  rw [Deed.answer.injEq, Effect.closing_inj]

theorem dialogKey_does (s : State) (hc : s.core.session.isComplete = true)
    (ha : s.core.isAsking = true) (key : Key) : ∃ deed, s.Does (s.dialogKey key) deed := by
  unfold dialogKey
  dsimp only
  split
  · exact ⟨.rest, .rest rfl⟩
  · exact ⟨.rest, .rest rfl⟩
  · exact ⟨.rest, .rest rfl⟩
  · exact ⟨.rest, .rest rfl⟩
  · cases s.app.dialog.choice? with
    | none => exact ⟨.rest, .rest rfl⟩
    | some choice => exact s.closing_does hc ha (some choice)
  · exact s.closing_does hc ha (some .confirm)
  · exact s.closing_does hc ha (some .confirm)
  · exact s.closing_does hc ha none
  · exact s.closing_does hc ha none
  · exact s.closing_does hc ha none
  · exact ⟨.rest, .rest rfl⟩

theorem dialogMouse_does (s : State) (hc : s.core.session.isComplete = true)
    (ha : s.core.isAsking = true) (buttons : List Rect) (m : MouseEvent) :
    ∃ deed, s.Does (s.dialogMouse buttons m) deed := by
  unfold dialogMouse
  split
  · dsimp only
    generalize ((buttons.findIdx? _).bind fun i => s.app.dialog.buttons[i]?) = button
    cases button with
    | none => exact ⟨.rest, .rest rfl⟩
    | some button => exact s.closing_does hc ha (some button.choice)
  · exact ⟨.rest, .rest rfl⟩

/-! ### The terminal -/

theorem handleKey_does (s : State) (press : KeyPress) :
    ∃ deed, s.Does (s.handleKey press) deed := by
  unfold handleKey
  split
  · rename_i hc
    split
    · rename_i ha
      exact s.dialogKey_does hc ha press.key
    · rename_i ha
      have ha : s.core.isAsking = false := Bool.eq_false_iff.2 ha
      split
      · rename_i hv
        exact s.listKey_does ⟨hc, ha, by rw [core, hv]; rfl⟩ press.key
      · rename_i hv
        exact s.detailKey_does ⟨hc, ha, by rw [core, hv]; rfl⟩ press
      · rename_i hv
        exact s.createKey_does ⟨hc, ha, by rw [core, hv]; rfl⟩ press
  · split
    · exact s.quit_does
    · exact ⟨.rest, .rest rfl⟩

theorem handleMouse_does (s : State) (m : MouseEvent) :
    ∃ deed, s.Does (s.handleMouse m) deed := by
  unfold handleMouse
  split
  · rename_i hc
    split
    · rename_i buttons hv
      exact s.dialogMouse_does hc (by rw [core, hv]; rfl) buttons m
    · rename_i controls hd hv
      exact s.listMouse_does ⟨hc, by rw [core, hd]; rfl, by rw [core, hv]; rfl⟩ controls m
    · exact ⟨.rest, .rest rfl⟩
  · exact ⟨.rest, .rest rfl⟩

/-- **What the terminal reports** comes to a deed of the core. -/
theorem handle_does (s : State) (event : Event) : ∃ deed, s.Does (s.handle event) deed := by
  cases event with
  | key press => exact s.handleKey_does press
  | mouse event => exact s.handleMouse_does event
  | resize => exact ⟨.rest, .rest rfl⟩
  | focus => exact ⟨.rest, .rest rfl⟩
  | paste => exact ⟨.rest, .rest rfl⟩

end State

end McpConsole.Console
