import McpConsole.Proofs.Console.Deeds

/-!
# What events lead to

What keys and clicks ask for, in terms of the keys and of what is on the screen. `State.Asks` lists
the events that ask for a call of the management API, and `State.Answers` those that close the open
dialog. `State.handle_leads` says that there is nothing else: every other event leads to a change of
the screen or a copy at most.
-/

namespace McpConsole.Console

open McpConsole.Screen

/-! ### Forms -/

namespace Form

/-- Whether a key sends a form: `s` with the control key, and enter on the last field. -/
def IsSentBy (f : Form) (press : KeyPress) : Prop :=
  press = ⟨.char 's', true⟩ ∨ press.key = .enter ∧ f.focus = .auth

theorem handleKey_submit_iff (f : Form) (press : KeyPress) :
    (f.handleKey press).2 = .submit ↔ f.IsSentBy press := by
  obtain ⟨key, control⟩ := press
  unfold handleKey IsSentBy
  dsimp only
  split
  · cases control <;> simp
  case h_7 => split <;> simp_all
  all_goals simp_all

/-- A form says what a new server is once it has a name and an address. -/
theorem details_eq_ok_iff (f : Form) (details : Details) : f.details = .ok details ↔
    f.name.isBlank = false ∧ f.url.isBlank = false ∧ f.filled = details := by
  unfold Form.details blankFields
  cases f.name.isBlank <;> cases f.url.isBlank <;> simp

/-- A form says what a server is changed to once it has an address. -/
theorem revision_eq_ok_iff (f : Form) (id : String) (revision : Revision) :
    f.revision id = .ok revision ↔ f.url.isBlank = false ∧ ⟨id, f.filled⟩ = revision := by
  unfold Form.revision blankFields
  cases f.url.isBlank <;> simp

end Form

theorem App.submit_of_isFree {α : Type} {form : Form} {filled : Except (List Field) α} {payload : α}
    (hs : form.isSubmitting = false) (hp : filled = .ok payload) (call : α → Api.Call) :
    App.submit form filled call = (form.sent, [.call (call payload)]) := by
  rw [App.submit.eq_def, hs, hp]
  rfl

/-- Sending a form issues the call that it stands for, unless it was sent already or something is
missing. -/
theorem App.submit_snd {α : Type} (form : Form) (filled : Except (List Field) α)
    (call : α → Api.Call) : (App.submit form filled call).2 = [] ∨
      ∃ payload, form.isSubmitting = false ∧ filled = .ok payload ∧
        (App.submit form filled call).2 = [.call (call payload)] := by
  cases hs : form.isSubmitting with
  | true =>
    rw [App.submit.eq_def, hs]
    exact .inl rfl
  | false =>
    cases filled with
    | error missing =>
      rw [App.submit.eq_def, hs]
      exact .inl rfl
    | ok payload => exact .inr ⟨payload, rfl, rfl, by rw [App.submit_of_isFree hs rfl]⟩

/-! ### What events lead to -/

/-- Effects that issue no call: none at all, a change of the screen, or a copy. -/
inductive Effect.Quiet : List Effect → Prop
  | nothing : Quiet []
  | navigation {effect : Effect} (h : effect.isNavigation = true) : Quiet [effect]
  | copy {text : String} : Quiet [.copy text]

namespace State

/-- What an event asks of the management API: the list, by its key; a new server, by sending its
form; or a changed server, by an administrator who sends its form. A form that was sent already, or
that lacks something, asks for nothing. -/
inductive Asks (s : State) : Event → Api.Call → Prop
  | list {control : Bool} (faces : s.core.Faces .list) : s.Asks (.key ⟨.char 'r', control⟩) .list
  | create {press : KeyPress} {form : Form} (faces : s.core.Faces .create)
    (shows : s.app.create = some form) (isSent : form.IsSentBy press)
    (isFree : form.isSubmitting = false) (hasName : form.name.isBlank = false)
    (hasUrl : form.url.isBlank = false) : s.Asks (.key press) (.create form.filled)
  | update {press : KeyPress} {detail : Detail} {form : Form} (faces : s.core.Faces .detail)
    (isAdmin : s.app.session.isAdmin = true) (shows : s.app.detail = some detail)
    (edits : detail.form = some form) (isSent : form.IsSentBy press)
    (isFree : form.isSubmitting = false) (hasUrl : form.url.isBlank = false) :
    s.Asks (.key press) (.update ⟨detail.server.id, form.filled⟩)

/-- How an event closes the open dialog, with a choice or without one. -/
inductive Answers (s : State) : Event → Option Choice → Prop
  | yes {key : Key} {control : Bool} (isAsking : s.core.isAsking = true)
    (h : key = .char 'y' ∨ key = .char 'Y') : s.Answers (.key ⟨key, control⟩) (some .confirm)
  | no {key : Key} {control : Bool} (isAsking : s.core.isAsking = true)
    (h : key = .char 'n' ∨ key = .char 'N' ∨ key = .escape) : s.Answers (.key ⟨key, control⟩) none
  /-- The button that has the focus is pressed. -/
  | enter {control : Bool} {choice : Choice} (isAsking : s.core.isAsking = true)
    (h : s.app.dialog.choice? = some choice) : s.Answers (.key ⟨.enter, control⟩) (some choice)
  /-- A button is clicked. -/
  | click {column row place : Nat} {buttons : List Rect} {button : Button}
    (shows : s.view.dialog = some buttons)
    (hits : (buttons.findIdx? fun area => area.contains column row) = some place)
    (h : s.app.dialog.buttons[place]? = some button) :
    s.Answers (.mouse ⟨.leftDown, column, row⟩) (some button.choice)

/-- What an event leads to. -/
inductive Leads (s : State) (event : Event) : List Effect → Prop
  | quiet {effects : List Effect} (h : Effect.Quiet effects) : s.Leads event effects
  | call {call : Api.Call} (asks : s.Asks event call) : s.Leads event [.call call]
  | closing {choice : Option Choice} (answers : s.Answers event choice) :
    s.Leads event (Effect.closing choice)

variable {s : State}

theorem Leads.nothing {event : Event} : s.Leads event [] :=
  .quiet .nothing

/-- What a key does in the view of a route. -/
def viewKey (s : State) (press : KeyPress) : Route → State × List Effect
  | .list => s.listKey press.key
  | .detail => s.detailKey press
  | .create => s.createKey press

theorem handleKey_of_faces {route : Route} (h : s.core.Faces route) (press : KeyPress) :
    s.handleKey press = s.viewKey press route := by
  have hc : s.app.session.isComplete = true := h.isComplete
  have ha : s.view.dialog.isSome = false := h.isAsking
  obtain rfl : s.view.content.route = route := h.shown
  rw [handleKey, if_pos hc, ha]
  cases hv : s.view.content <;> rfl

theorem handleKey_of_isAsking (hc : s.app.session.isComplete = true) (ha : s.core.isAsking = true)
    (press : KeyPress) : s.handleKey press = s.dialogKey press.key := by
  have ha : s.view.dialog.isSome = true := ha
  rw [handleKey, if_pos hc, if_pos ha]

/-! ### The list -/

theorem openSelected_quiet (s : State) (editing : Bool) : Effect.Quiet (s.openSelected editing).2 := by
  unfold openSelected
  split
  · exact .navigation rfl
  · exact .nothing

theorem deleteSelected_quiet (s : State) : Effect.Quiet s.deleteSelected.2 := by
  unfold deleteSelected App.requestDelete
  split
  · dsimp only
    split
    · exact .navigation rfl
    · exact .nothing
  · exact .nothing

theorem openCreate_quiet (a : App) : Effect.Quiet a.openCreate.2 := by
  unfold App.openCreate
  split
  · exact .navigation rfl
  · exact .nothing

theorem listKey_leads (h : s.core.Faces .list) (press : KeyPress) :
    s.Leads (.key press) (s.listKey press.key).2 := by
  obtain ⟨key, control⟩ := press
  unfold listKey
  dsimp only
  split
  · exact .nothing
  · exact .nothing
  · exact .nothing
  · exact .nothing
  · exact .quiet (s.openSelected_quiet false)
  · split
    · exact .quiet (s.openSelected_quiet true)
    · exact .nothing
  · split
    · exact .quiet s.deleteSelected_quiet
    · exact .nothing
  · split
    · exact .quiet (openCreate_quiet s.app)
    · exact .nothing
  · have hr : s.app.refresh = [.call .list] := if_pos h.isComplete
    rw [hr]
    exact .call (.list h)
  · exact .quiet (.navigation rfl)
  · exact .nothing

theorem listMouse_quiet (s : State) (controls : List (Control × Rect)) (m : MouseEvent) :
    Effect.Quiet (s.listMouse controls m).2 := by
  unfold listMouse
  split
  · exact .nothing
  · exact .nothing
  · split
    · unfold clickRow
      split
      · exact .nothing
      · dsimp only
        split
        · exact openSelected_quiet _ false
        · exact .nothing
    · exact openCreate_quiet s.app
    · exact s.openSelected_quiet true
    · exact s.deleteSelected_quiet
    · exact .nothing
  · exact .nothing

/-! ### The views of one server -/

theorem viewingKey_quiet (s : State) (detail : Detail) (press : KeyPress) :
    Effect.Quiet (s.viewingKey detail press).2 := by
  unfold viewingKey
  dsimp only
  split
  · exact .navigation rfl
  · exact .navigation rfl
  · exact .navigation rfl
  · split <;> exact .nothing
  · split
    · exact .copy
    · exact .nothing
  · exact .navigation rfl
  · exact .nothing

/-- Sending the form of a server that is edited. Only an administrator can. -/
theorem detailKey_of_isSent {detail : Detail} {form : Form} {press : KeyPress}
    (hd : s.app.detail = some detail) (hf : detail.form = some form) (hs : form.IsSentBy press) :
    (s.detailKey press).2 =
      if s.app.session.isAdmin then
        (App.submit form (form.revision detail.server.id) .update).2 else [] := by
  have ha := (form.handleKey_submit_iff press).2 hs
  simp only [detailKey, hd, hf, ha, Form.handleKey_submit ha, after, App.submitUpdate]
  cases s.app.session.isAdmin <;> rfl

/-- Sending the form of a new server. -/
theorem createKey_of_isSent {form : Form} {press : KeyPress} (hf : s.app.create = some form)
    (hs : form.IsSentBy press) :
    (s.createKey press).2 = (App.submit form form.details .create).2 := by
  have ha := (form.handleKey_submit_iff press).2 hs
  simp only [createKey, hf, ha, Form.handleKey_submit ha, after, App.submitCreate]

theorem detailKey_leads (h : s.core.Faces .detail) (press : KeyPress) :
    s.Leads (.key press) (s.detailKey press).2 := by
  cases hd : s.app.detail with
  | none =>
    simp only [detailKey, hd]
    exact .quiet (.navigation rfl)
  | some detail =>
    cases hf : detail.form with
    | none =>
      simp only [detailKey, hd, hf]
      exact .quiet (s.viewingKey_quiet detail press)
    | some form =>
      cases ha : (form.handleKey press).2 with
      | submit =>
        have hs := (form.handleKey_submit_iff press).1 ha
        rw [detailKey_of_isSent hd hf hs]
        split
        · rename_i hadmin
          obtain he | ⟨payload, hfree, hp, he⟩ :=
            App.submit_snd form (form.revision detail.server.id) .update <;> rw [he]
          · exact .nothing
          · obtain ⟨hu, rfl⟩ := (form.revision_eq_ok_iff _ _).1 hp
            exact .call (.update h hadmin hd hf hs hfree hu)
        · exact .nothing
      | cancel =>
        simp only [detailKey, hd, hf, ha]
        exact .quiet (.navigation rfl)
      | none =>
        simp only [detailKey, hd, hf, ha]
        exact .nothing

theorem createKey_leads (h : s.core.Faces .create) (press : KeyPress) :
    s.Leads (.key press) (s.createKey press).2 := by
  cases hf : s.app.create with
  | none =>
    simp only [createKey, hf]
    exact .quiet (.navigation rfl)
  | some form =>
    cases ha : (form.handleKey press).2 with
    | submit =>
      have hs := (form.handleKey_submit_iff press).1 ha
      rw [createKey_of_isSent hf hs]
      obtain he | ⟨payload, hfree, hp, he⟩ := App.submit_snd form form.details .create <;> rw [he]
      · exact .nothing
      · obtain ⟨hn, hu, rfl⟩ := (form.details_eq_ok_iff _).1 hp
        exact .call (.create h hf hs hfree hn hu)
    | cancel =>
      simp only [createKey, hf, ha]
      exact .quiet (.navigation rfl)
    | none =>
      simp only [createKey, hf, ha]
      exact .nothing

/-! ### The dialog -/

theorem dialogKey_leads (ha : s.core.isAsking = true) (press : KeyPress) :
    s.Leads (.key press) (s.dialogKey press.key).2 := by
  obtain ⟨key, control⟩ := press
  unfold dialogKey
  dsimp only
  split
  · exact .nothing
  · exact .nothing
  · exact .nothing
  · exact .nothing
  · cases hd : s.app.dialog.choice? with
    | none => exact .nothing
    | some choice => exact .closing (.enter ha hd)
  · exact .closing (.yes ha (.inl rfl))
  · exact .closing (.yes ha (.inr rfl))
  · exact .closing (.no ha (.inl rfl))
  · exact .closing (.no ha (.inr (.inl rfl)))
  · exact .closing (.no ha (.inr (.inr rfl)))
  · exact .nothing

theorem dialogMouse_leads {buttons : List Rect} (hb : s.view.dialog = some buttons)
    (m : MouseEvent) : s.Leads (.mouse m) (s.dialogMouse buttons m).2 := by
  obtain ⟨action, column, row⟩ := m
  unfold dialogMouse
  split
  · rename_i hm
    obtain rfl : action = .leftDown := hm
    dsimp only
    cases hi : buttons.findIdx? fun area => area.contains column row with
    | none => exact .nothing
    | some place =>
      rw [Option.bind_some]
      cases hp : s.app.dialog.buttons[place]? with
      | none => exact .nothing
      | some button => exact .closing (.click hb hi hp)
  · exact .nothing

/-! ### The terminal -/

/-- **What an event leads to**: nothing that issues a call, or the call that it asks for, or the
closing of the dialog. -/
theorem handle_leads (hc : s.app.session.isComplete = true) (event : Event) :
    s.Leads event (s.handle event).2 := by
  cases event with
  | key press =>
    rw [handle]
    cases ha : s.core.isAsking with
    | true =>
      rw [handleKey_of_isAsking hc ha]
      exact dialogKey_leads ha press
    | false =>
      have hf : s.core.Faces s.view.content.route := ⟨hc, ha, rfl⟩
      rw [handleKey_of_faces hf]
      cases hr : s.view.content.route with
      | list => exact listKey_leads (hr ▸ hf) press
      | detail => exact detailKey_leads (hr ▸ hf) press
      | create => exact createKey_leads (hr ▸ hf) press
  | mouse m =>
    rw [handle, handleMouse, if_pos hc]
    split
    · rename_i buttons hb
      exact dialogMouse_leads hb m
    · exact .quiet (s.listMouse_quiet _ m)
    · exact .nothing
  | resize => exact .nothing
  | focus => exact .nothing
  | paste => exact .nothing

/-- What an event asks for is called. -/
theorem Asks.handle {event : Event} {call : Api.Call} (h : s.Asks event call) :
    (s.handle event).2 = [.call call] := by
  cases h with
  | list faces =>
    rw [State.handle, handleKey_of_faces faces]
    exact if_pos faces.isComplete
  | create faces shows isSent isFree hasName hasUrl =>
    rw [State.handle, handleKey_of_faces faces, viewKey, createKey_of_isSent shows isSent,
      App.submit_of_isFree isFree ((Form.details_eq_ok_iff _ _).2 ⟨hasName, hasUrl, rfl⟩)]
  | update faces isAdmin shows edits isSent isFree hasUrl =>
    rw [State.handle, handleKey_of_faces faces, viewKey, detailKey_of_isSent shows edits isSent,
      if_pos isAdmin,
      App.submit_of_isFree isFree ((Form.revision_eq_ok_iff _ _ _).2 ⟨hasUrl, rfl⟩)]

/-- An answer closes the dialog. -/
theorem Answers.handle (hc : s.app.session.isComplete = true) {event : Event}
    {choice : Option Choice} (h : s.Answers event choice) :
    (s.handle event).2 = Effect.closing choice := by
  cases h with
  | yes isAsking h =>
    rw [State.handle, handleKey_of_isAsking hc isAsking]
    rcases h with rfl | rfl <;> rfl
  | no isAsking h =>
    rw [State.handle, handleKey_of_isAsking hc isAsking]
    rcases h with rfl | rfl | rfl <;> rfl
  | enter isAsking h =>
    rw [State.handle, handleKey_of_isAsking hc isAsking]
    simp only [dialogKey, h]
    rfl
  | click shows hits h =>
    simp only [State.handle, handleMouse, if_pos hc, shows, dialogMouse, hits, Option.bind_some, h]
    rfl

end State

end McpConsole.Console
