import McpConsole.Proofs.Console.Deletion
import McpConsole.Proofs.Console.Events
import McpConsole.Proofs.Screen.Canvas

/-!
# The dialog does not confirm by accident

A server is deleted by one event of the dialog, and `Decides` lists the events that do it and those that
call it off. What an event decides depends on the history of the dialog in two ways only: the enter key
presses the button with the focus, which goes from one to the other by each of four keys
(`focusAfter`), and a click is on a button where the dialog was drawn last (`lastArea?`).

`State.asking` is the console after a history in which nothing was decided. One more event decides or
is one more event of such a history (`State.meet_asking`); `dialog_decides` follows the events from the
question to the first one that decides.
-/

namespace McpConsole.Console

open McpConsole.Screen
open McpConsole.Screen.Canvas

/-! ### What decides -/

/-- What can happen to the open dialog. -/
inductive DialogEvent where
  | key (press : KeyPress)
  | mouse (event : MouseEvent)
  /-- The dialog is drawn in an area. -/
  | drawn (area : Rect)
  deriving DecidableEq, Repr

namespace DialogEvent

/-- Whether a key moves the focus to the other button. -/
def isFocusKey : DialogEvent → Bool
  | .key press =>
    press.key == .tab || press.key == .backTab || press.key == .left || press.key == .right
  | _ => false

/-- Where the dialog is drawn. -/
def area? : DialogEvent → Option Rect
  | .drawn area => some area
  | _ => none

end DialogEvent

/-- The choice of the other button. -/
def Choice.other : Choice → Choice
  | .confirm => .cancel
  | .cancel => .confirm

/-- The button with the focus after a history: the one that refuses, unless the number of keys that
moved the focus is odd. -/
def focusAfter (history : List DialogEvent) : Choice :=
  if history.countP DialogEvent.isFocusKey % 2 = 1 then .confirm else .cancel

/-- Where the dialog was drawn last. -/
def lastArea? (history : List DialogEvent) : Option Rect :=
  (history.filterMap DialogEvent.area?).getLast?

/-- The place of the button of a choice. -/
def Choice.place : Choice → Nat
  | .confirm => 0
  | .cancel => 1

/-- Where the button of a choice is, in a dialog that is drawn in an area. -/
def buttonArea (area : Rect) (choice : Choice) : Rect :=
  part ((dialogAreas area true).buttonAreas 2) choice.place

/-- What an event decides after a history. -/
inductive Decides (history : List DialogEvent) : DialogEvent → Choice → Prop
  | yes {key : Key} {control : Bool} (h : key = .char 'y' ∨ key = .char 'Y') :
    Decides history (.key ⟨key, control⟩) .confirm
  | no {key : Key} {control : Bool} (h : key = .char 'n' ∨ key = .char 'N' ∨ key = .escape) :
    Decides history (.key ⟨key, control⟩) .cancel
  /-- The button with the focus is pressed. -/
  | enter {control : Bool} : Decides history (.key ⟨.enter, control⟩) (focusAfter history)
  /-- A button is clicked, where it was drawn last. -/
  | click {area : Rect} {column row : Nat} {choice : Choice} (isDrawn : lastArea? history = some area)
    (hits : (buttonArea area choice).contains column row = true) :
    Decides history (.mouse ⟨.leftDown, column, row⟩) choice

/-- None of the events that come after a history decides anything. -/
inductive Undecided : List DialogEvent → List DialogEvent → Prop
  | nil {history : List DialogEvent} : Undecided history []
  | cons {history events : List DialogEvent} {event : DialogEvent}
    (first : ∀ choice, ¬Decides history event choice)
    (later : Undecided (history ++ [event]) events) : Undecided history (event :: events)

/-! ### The buttons -/

theorem covers_intersect {r s : Rect} {x y : Nat} :
    Covers (r.intersect s) x y ↔ Covers r x y ∧ Covers s x y := by
  simp only [Covers, Rect.intersect, Rect.right, Rect.bottom]
  omega

theorem buttonArea_eq (area : Rect) (choice : Choice) :
    let buttons := (dialogAreas area true).buttons
    buttonArea area choice =
      (Rect.within (buttons.x + choice.place * (buttonWidth + buttonGap)) buttons.y buttonWidth
        buttons.height).intersect buttons := by
  cases choice <;> rfl

/-- A button lies among the buttons of the dialog. -/
theorem buttonArea_inside {area : Rect} {choice : Choice} {column row : Nat}
    (h : (buttonArea area choice).contains column row = true) :
    (dialogAreas area true).buttons.contains column row = true := by
  rw [contains_iff, buttonArea_eq, covers_intersect] at h
  exact (contains_iff _ _ _).2 h.2

/-- A button takes columns of its own. -/
theorem buttonArea_columns {area : Rect} {choice : Choice} {column row : Nat}
    (h : (buttonArea area choice).contains column row = true) :
    (dialogAreas area true).buttons.x + choice.place * (buttonWidth + buttonGap) ≤ column ∧
      column < (dialogAreas area true).buttons.x + choice.place * (buttonWidth + buttonGap) +
        buttonWidth := by
  rw [contains_iff, buttonArea_eq, covers_intersect] at h
  obtain ⟨⟨hcolumn, -⟩, -⟩ := h
  simp only [Rect.within, Rect.right] at hcolumn
  omega

/-- No cell belongs to both buttons. -/
theorem buttonArea_unique {area : Rect} {choice other : Choice} {column row : Nat}
    (h : (buttonArea area choice).contains column row = true)
    (ho : (buttonArea area other).contains column row = true) : choice = other := by
  have hcolumns := buttonArea_columns h
  have hcolumns' := buttonArea_columns ho
  simp only [buttonWidth, buttonGap] at hcolumns hcolumns'
  cases choice <;> cases other <;> simp only [Choice.place] at hcolumns hcolumns' <;>
    first | rfl | omega

/-! ### The focus -/

/-- The dialog that puts a question, with the focus on the button of a choice. -/
def Dialog.asking (q : Question) (focus : Choice) : Dialog where
  title := q.title
  message := q.message
  severity := q.severity.getD .info
  buttons := [⟨q.confirmLabel.getD "Confirm", .confirm, true, focus == .confirm⟩,
    ⟨q.cancelLabel.getD "Cancel", .cancel, false, focus == .cancel⟩]

namespace Dialog

variable (q : Question) (focus : Choice)

theorem focused_asking : (asking q focus).focused = some focus.place := by
  cases focus <;> rfl

theorem focus_asking (choice : Choice) : (asking q focus).focus choice.place = asking q choice := by
  cases choice <;> rfl

theorem focusNext_asking : (asking q focus).focusNext = asking q focus.other := by
  have hplace : (focus.place + 1) % 2 = focus.other.place := by
    cases focus <;> rfl
  rw [← focus_asking q focus focus.other, ← hplace, focusNext, focused_asking]
  rfl

theorem focusPrevious_asking : (asking q focus).focusPrevious = asking q focus.other := by
  have hplace : (focus.place + 2 - 1) % 2 = focus.other.place := by
    cases focus <;> rfl
  rw [← focus_asking q focus focus.other, ← hplace, focusPrevious, focused_asking]
  rfl

theorem choice?_asking : (asking q focus).choice? = some focus := by
  cases focus <;> rfl

/-- Exactly one button has the focus. -/
theorem countP_asking : (asking q focus).buttons.countP Button.isFocused = 1 := by
  cases focus <;> rfl

end Dialog

variable {history : List DialogEvent} {event : DialogEvent}

theorem focusAfter_append (h : event.isFocusKey = true) :
    focusAfter (history ++ [event]) = (focusAfter history).other := by
  simp only [focusAfter, List.countP_append, List.countP_singleton, h, if_true]
  split <;> split <;> first | rfl | omega

theorem focusAfter_append_of_not (h : event.isFocusKey = false) :
    focusAfter (history ++ [event]) = focusAfter history := by
  simp [focusAfter, List.countP_append, h]

theorem lastArea?_drawn (area : Rect) : lastArea? (history ++ [.drawn area]) = some area := by
  simp [lastArea?, DialogEvent.area?]

theorem lastArea?_append_of_none (h : event.area? = none) :
    lastArea? (history ++ [event]) = lastArea? history := by
  simp [lastArea?, h]

/-! ### The console that asks -/

/-- The buttons where the dialog was drawn last. -/
def buttonsAfter (history : List DialogEvent) : List Rect :=
  match lastArea? history with
  | some area => [buttonArea area .confirm, buttonArea area .cancel]
  | none => []

/-- Which button is hit. -/
theorem findIdx?_buttonsAfter (history : List DialogEvent) (column row : Nat) :
    (∃ choice, Decides history (.mouse ⟨.leftDown, column, row⟩) choice ∧
      (buttonsAfter history).findIdx? (fun area => area.contains column row) =
        some choice.place) ∨
    ((∀ choice, ¬Decides history (.mouse ⟨.leftDown, column, row⟩) choice) ∧
      (buttonsAfter history).findIdx? (fun area => area.contains column row) = none) := by
  unfold buttonsAfter
  cases harea : lastArea? history with
  | none =>
    right
    refine ⟨?_, rfl⟩
    rintro choice (_ | _ | _ | ⟨hdrawn, -⟩)
    rw [harea] at hdrawn
    cases hdrawn
  | some area =>
    cases hconfirm : (buttonArea area .confirm).contains column row with
    | true =>
      exact .inl ⟨.confirm, .click harea hconfirm,
        by simp [List.findIdx?_cons, hconfirm, Choice.place]⟩
    | false =>
      cases hcancel : (buttonArea area .cancel).contains column row with
      | true =>
        exact .inl ⟨.cancel, .click harea hcancel,
          by simp [List.findIdx?_cons, hconfirm, hcancel, Choice.place]⟩
      | false =>
        refine .inr ⟨?_, by simp [hconfirm, hcancel]⟩
        rintro choice (_ | _ | _ | ⟨hdrawn, hhits⟩)
        obtain rfl : area = _ := Option.some.inj (harea.symm.trans hdrawn)
        cases choice
        · exact absurd hhits (by simp [hconfirm])
        · exact absurd hhits (by simp [hcancel])

namespace State

/-- What an event does to the console that asks. -/
def meet (s : State) : DialogEvent → State × List Effect
  | .key press => s.dialogKey press.key
  | .mouse m => s.dialogMouse (s.view.dialog.getD []) m
  | .drawn area => (s.arrangeDialog area, [])

/-- The console that asks whether a server is to be deleted, after a history. -/
def asking (s : State) (id label : String) (history : List DialogEvent) : State where
  app := { s.app with
    pendingDelete := some id
    modal := some .confirmDelete
    dialog := .asking (App.deleteQuestion label) (focusAfter history) }
  view := { s.view with dialog := some (buttonsAfter history) }

variable {s : State} {id label : String}

/-- An event that neither moves the focus nor draws the dialog does not matter later. -/
theorem asking_append (hkey : event.isFocusKey = false) (harea : event.area? = none) :
    s.asking id label (history ++ [event]) = s.asking id label history := by
  rw [asking, asking, buttonsAfter, buttonsAfter, focusAfter_append_of_not hkey,
    lastArea?_append_of_none harea]

theorem asking_append_key {press : KeyPress}
    (h : (DialogEvent.key press).isFocusKey = true) :
    s.asking id label (history ++ [.key press]) =
      { s.asking id label history with
        app := { (s.asking id label history).app with
          dialog := .asking (App.deleteQuestion label) (focusAfter history).other } } := by
  rw [asking, asking, buttonsAfter, buttonsAfter, focusAfter_append h,
    lastArea?_append_of_none rfl]

theorem asking_append_drawn (area : Rect) :
    s.asking id label (history ++ [.drawn area]) =
      { s.asking id label history with
        view := { s.view with
          dialog := some [buttonArea area .confirm, buttonArea area .cancel] } } := by
  rw [asking, asking, buttonsAfter, lastArea?_drawn, focusAfter_append_of_not rfl]

/-- The other characters decide nothing. -/
theorem dialogKey_char {c : Char} (h : c ∉ ['y', 'Y', 'n', 'N']) (s : State) :
    s.dialogKey (.char c) = (s, []) := by
  unfold dialogKey
  split <;> simp_all

theorem meet_key (s : State) (id label : String) (history : List DialogEvent) (press : KeyPress) :
    (∃ answer, Decides history (.key press) (Option.getD answer .cancel) ∧
      (s.asking id label history).meet (.key press) =
        (s.asking id label history, Effect.closing answer)) ∨
    ((∀ choice, ¬Decides history (.key press) choice) ∧
      (s.asking id label history).meet (.key press) =
        (s.asking id label (history ++ [.key press]), [])) := by
  obtain ⟨key, control⟩ := press
  have idle (hkey : key ∉ [.char 'y', .char 'Y', .char 'n', .char 'N', .escape, .enter]) :
      ∀ choice, ¬Decides history (.key ⟨key, control⟩) choice := by
    rintro choice (h | h | _ | _)
    · rcases h with rfl | rfl <;> simp at hkey
    · rcases h with rfl | rfl | rfl <;> simp at hkey
    · simp at hkey
  cases key with
  | tab | right =>
    refine .inr ⟨idle (by decide), ?_⟩
    rw [asking_append_key rfl, ← Dialog.focusNext_asking]
    rfl
  | backTab | left =>
    refine .inr ⟨idle (by decide), ?_⟩
    rw [asking_append_key rfl, ← Dialog.focusPrevious_asking]
    rfl
  | enter =>
    refine .inl ⟨some (focusAfter history), .enter, ?_⟩
    have hchoice : (s.asking id label history).app.dialog.choice? = some (focusAfter history) :=
      Dialog.choice?_asking _ _
    simp only [meet, dialogKey, hchoice]
    rfl
  | escape => exact .inl ⟨none, .no (.inr (.inr rfl)), rfl⟩
  | char c =>
    by_cases hc : c ∈ ['y', 'Y', 'n', 'N']
    · simp only [List.mem_cons, List.not_mem_nil, or_false] at hc
      rcases hc with rfl | rfl | rfl | rfl
      · exact .inl ⟨some .confirm, .yes (.inl rfl), rfl⟩
      · exact .inl ⟨some .confirm, .yes (.inr rfl), rfl⟩
      · exact .inl ⟨none, .no (.inl rfl), rfl⟩
      · exact .inl ⟨none, .no (.inr (.inl rfl)), rfl⟩
    · refine .inr ⟨idle (by simpa using hc), ?_⟩
      rw [asking_append rfl rfl, meet, dialogKey_char hc]
  | _ =>
    refine .inr ⟨idle (by decide), ?_⟩
    rw [asking_append rfl rfl]
    rfl

theorem meet_mouse (s : State) (id label : String) (history : List DialogEvent) (m : MouseEvent) :
    (∃ answer, Decides history (.mouse m) (Option.getD answer .cancel) ∧
      (s.asking id label history).meet (.mouse m) =
        (s.asking id label history, Effect.closing answer)) ∨
    ((∀ choice, ¬Decides history (.mouse m) choice) ∧
      (s.asking id label history).meet (.mouse m) =
        (s.asking id label (history ++ [.mouse m]), [])) := by
  rw [asking_append rfl rfl]
  obtain ⟨action, column, row⟩ := m
  cases action with
  | leftDown =>
    have hmeet : (s.asking id label history).meet (.mouse ⟨.leftDown, column, row⟩) =
        (s.asking id label history,
          ((((buttonsAfter history).findIdx? fun area => area.contains column row).bind fun i =>
            (s.asking id label history).app.dialog.buttons[i]?).map fun b =>
              choose b.choice).getD []) := rfl
    obtain ⟨choice, hdecides, hhit⟩ | ⟨hidle, hhit⟩ := findIdx?_buttonsAfter history column row
    · refine .inl ⟨some choice, hdecides, ?_⟩
      rw [hmeet, hhit]
      cases choice <;> rfl
    · refine .inr ⟨hidle, ?_⟩
      rw [hmeet, hhit]
      rfl
  | _ =>
    refine .inr ⟨?_, rfl⟩
    rintro choice (_ | _ | _ | _)

/-- **One more event decides**, and then the dialog is closed, or it is one more event of a history
in which nothing was decided. -/
theorem meet_asking (s : State) (id label : String) (history : List DialogEvent)
    (event : DialogEvent) :
    (∃ answer, Decides history event (Option.getD answer .cancel) ∧
      (s.asking id label history).meet event =
        (s.asking id label history, Effect.closing answer)) ∨
    ((∀ choice, ¬Decides history event choice) ∧
      (s.asking id label history).meet event =
        (s.asking id label (history ++ [event]), [])) := by
  cases event with
  | key press => exact s.meet_key id label history press
  | mouse m => exact s.meet_mouse id label history m
  | drawn area =>
    refine .inr ⟨?_, ?_⟩
    · rintro choice (_ | _ | _ | _)
    · rw [asking_append_drawn]
      rfl

/-- In a session that lacks nothing, the console hands keys and the mouse to the open dialog, and
draws it last. -/
theorem handle_of_isAsking (hcomplete : s.app.session.isComplete = true)
    (hasking : s.core.isAsking = true) :
    (∀ press, s.handle (.key press) = s.meet (.key press)) ∧
      (∀ m, s.handle (.mouse m) = s.meet (.mouse m)) ∧
      ∀ screen, s.arrange screen =
        ((s.arrangeContent (screenAreas screen).content).meet (.drawn (dialogArea screen))).1 := by
  refine ⟨handleKey_of_isAsking hcomplete hasking, fun m => ?_, fun screen => ?_⟩
  · obtain ⟨buttons, hbuttons⟩ := Option.isSome_iff_exists.1 hasking
    rw [handle, handleMouse, if_pos hcomplete, hbuttons]
    simp only [meet, hbuttons, Option.getD_some]
  · rw [arrange, if_pos hcomplete]
    rfl

/-- Events meet the dialog until one of them closes it. -/
def play (s : State) : List DialogEvent → State × List Effect
  | [] => (s, [])
  | event :: events =>
    let (t, effects) := s.meet event
    if effects.isEmpty then t.play events else (t, effects)

theorem play_of_closing {t : State} {answer : Option Choice}
    (h : s.meet event = (t, Effect.closing answer)) (events : List DialogEvent) :
    s.play (event :: events) = (t, Effect.closing answer) := by
  rw [play, h]
  cases answer <;> rfl

theorem play_of_idle {t : State} (h : s.meet event = (t, [])) (events : List DialogEvent) :
    s.play (event :: events) = t.play events := by
  rw [play, h]
  rfl

theorem play_asking (s : State) (id label : String) (history events : List DialogEvent) :
    (Undecided history events ∧
      (s.asking id label history).play events = (s.asking id label (history ++ events), [])) ∨
    ∃ before event after answer, events = before ++ event :: after ∧ Undecided history before ∧
      Decides (history ++ before) event (Option.getD answer .cancel) ∧
      (s.asking id label history).play events =
        (s.asking id label (history ++ before), Effect.closing answer) := by
  induction events generalizing history with
  | nil => exact .inl ⟨.nil, by rw [List.append_nil]; rfl⟩
  | cons event events ih =>
    obtain ⟨answer, hdecides, hmeet⟩ | ⟨hidle, hmeet⟩ := s.meet_asking id label history event
    · refine .inr ⟨[], event, events, answer, rfl, .nil, ?_, ?_⟩
      · rwa [List.append_nil]
      · rw [play_of_closing hmeet, List.append_nil]
    · rw [play_of_idle hmeet]
      obtain ⟨hlater, hplay⟩ | ⟨before, other, after, answer, rfl, hlater, hdecides, hplay⟩ :=
        ih (history ++ [event])
      · refine .inl ⟨.cons hidle hlater, ?_⟩
        rw [hplay, List.append_assoc, List.singleton_append]
      · refine .inr ⟨event :: before, other, after, answer, rfl, .cons hidle hlater, ?_, ?_⟩
        · rwa [List.append_assoc, List.singleton_append] at hdecides
        · rw [hplay, List.append_assoc, List.singleton_append]

/-! ### From the question on -/

/-- The console once it was asked to delete a server. -/
def requestDelete (s : State) (clipboard : Clipboard) (id : String) : State :=
  let (s, effects) := s.after (s.app.requestDelete id)
  (s.process clipboard effects).1

/-- An administrator is asked, with the focus on the button that refuses. -/
theorem exists_asking (h : s.app.session.isAdmin = true) (clipboard : Clipboard) (id : String) :
    ∃ label, s.requestDelete clipboard id = s.asking id label [] := by
  simp only [requestDelete, App.requestDelete, h, if_true, after]
  rw [process_navigate _ _ rfl]
  exact ⟨_, rfl⟩

/-- The dialog asks whether a server is to be deleted, after a history. What happens to the console
happens to the dialog, unless the session lacks something. Exactly one button has the focus, and clicks
find the buttons where the dialog was drawn last. -/
structure StillAsks (s : State) (id : String) (history : List DialogEvent) : Prop where
  dialogue : s.core.dialogue = (true, some .confirmDelete, some id)
  handled : s.app.session.isComplete = true →
    (∀ press, s.handle (.key press) = s.meet (.key press)) ∧
      (∀ m, s.handle (.mouse m) = s.meet (.mouse m)) ∧
      ∀ screen, s.arrange screen =
        ((s.arrangeContent (screenAreas screen).content).meet (.drawn (dialogArea screen))).1
  focused : s.app.dialog.choice? = some (focusAfter history)
  single : s.app.dialog.buttons.countP Button.isFocused = 1
  buttons : ∀ area, lastArea? history = some area →
    s.view.dialog = some [buttonArea area .confirm, buttonArea area .cancel]

/-- Effects that close the dialog with a choice. The server is deleted if that was confirmed, and
nothing is asked of the management API otherwise. -/
structure IsClosed (s : State) (effects : List Effect) (id : String) (choice : Choice) : Prop where
  closing : ∃ answer, Option.getD answer .cancel = choice ∧ effects = Effect.closing answer
  dialogue : ∀ clipboard, (s.process clipboard effects).1.core.dialogue = (false, none, none)
  confirm : choice = .confirm → ∀ credential, s.app.session.credential = some credential →
    ∀ clipboard, (s.process clipboard effects).2 = [.delete credential id]
  cancel : choice = .cancel → ∀ clipboard, (s.process clipboard effects).2 = []

theorem asking_stillAsks (s : State) (id label : String) (history : List DialogEvent) :
    (s.asking id label history).StillAsks id history where
  dialogue := rfl
  handled hcomplete := handle_of_isAsking hcomplete rfl
  focused := Dialog.choice?_asking _ _
  single := Dialog.countP_asking _ _
  buttons area harea := by
    rw [asking, buttonsAfter, harea]

theorem asking_isClosed (s : State) (id label : String) (history : List DialogEvent)
    (answer : Option Choice) :
    (s.asking id label history).IsClosed (Effect.closing answer) id
      (Option.getD answer .cancel) := by
  have hprocess clipboard := (s.asking id label history).process_closing clipboard answer
  have hcore clipboard := congrArg Prod.fst (hprocess clipboard)
  have hissued clipboard := congrArg Prod.snd (hprocess clipboard)
  refine ⟨⟨answer, rfl, rfl⟩, fun clipboard => ?_, fun hconfirm credential hcredential clipboard => ?_,
    fun hcancel clipboard => ?_⟩
  · exact (congrArg Core.dialogue (hcore clipboard)).trans (Core.enact_answer_dialogue _ _)
  · obtain rfl : answer = some .confirm := by
      cases answer with
      | none => cases hconfirm
      | some choice => exact congrArg some hconfirm
    exact (hissued clipboard).trans (Core.enact_confirm hcredential rfl)
  · refine (hissued clipboard).trans ?_
    cases answer with
    | none => rfl
    | some choice =>
      obtain rfl : choice = .cancel := hcancel
      rfl

end State

/-- An event decides one thing. -/
theorem Decides.unique {choice other : Choice} (h : Decides history event choice)
    (ho : Decides history event other) : other = choice := by
  cases h with
  | yes h =>
    cases ho with
    | yes => rfl
    | no ho => rcases h with rfl | rfl <;> simp at ho
    | enter => simp at h
  | no h =>
    cases ho with
    | yes ho => rcases ho with rfl | rfl <;> simp at h
    | no => rfl
    | enter => simp at h
  | enter =>
    cases ho with
    | yes ho => simp at ho
    | no ho => simp at ho
    | enter => rfl
  | click harea h =>
    cases ho with
    | click harea' ho =>
      obtain rfl := Option.some.inj (harea.symm.trans harea')
      exact buttonArea_unique ho h

/-- **The dialog never confirms by accident.** An administrator is asked whether a server is to be
deleted, and presses keys, clicks, and sees the dialog drawn in areas of any size. As long as no event
decides, the dialog stays open for the server, with exactly one button in focus; and the first event
that decides closes it, with the one choice that it stands for. Only that of confirming deletes the
server, and then no other one. Wherever the dialog is drawn, its two buttons share no cell and lie
among the buttons of the dialog. -/
theorem dialog_decides (s : State) (clipboard : Clipboard) (id : String) (events : List DialogEvent)
    (hadmin : s.app.session.isAdmin = true) :
    let played := (s.requestDelete clipboard id).play events
    ((Undecided [] events ∧ played.2 = [] ∧ played.1.StillAsks id events) ∨
      ∃ before event after choice, events = before ++ event :: after ∧ Undecided [] before ∧
        Decides before event choice ∧ (∀ other, Decides before event other → other = choice) ∧
        played.1.IsClosed played.2 id choice) ∧
    ∀ area choice column row, (buttonArea area choice).contains column row = true →
      (dialogAreas area true).buttons.contains column row = true ∧
        ∀ other, (buttonArea area other).contains column row = true → other = choice := by
  refine ⟨?_, fun area choice column row h =>
    ⟨buttonArea_inside h, fun other ho => buttonArea_unique ho h⟩⟩
  obtain ⟨label, hasking⟩ := State.exists_asking hadmin clipboard id
  rw [hasking]
  obtain ⟨hundecided, hplay⟩ | ⟨before, event, after, answer, hsplit, hundecided, hdecides, hplay⟩ :=
    s.play_asking id label [] events
  · left
    rw [hplay]
    exact ⟨hundecided, rfl, s.asking_stillAsks id label events⟩
  · right
    refine ⟨before, event, after, answer.getD .cancel, hsplit, hundecided, hdecides,
      fun other ho => hdecides.unique ho, ?_⟩
    rw [hplay]
    exact s.asking_isClosed id label before answer

/-- After one key that moves the focus, the enter key deletes the server. -/
theorem dialog_decides_enter :
    let s := State.start .nord Course.administrator
    let played := (s.requestDelete noClipboard "a").play [.key ⟨.tab, false⟩, .key ⟨.enter, false⟩]
    s.app.session.isAdmin = true ∧ played.1.IsClosed played.2 "a" .confirm := by
  intro s played
  have hadmin : s.app.session.isAdmin = true := by decide
  obtain ⟨⟨hundecided, -⟩ | ⟨before, event, after, choice, hsplit, -, hdecides, -, hclosed⟩, -⟩ :=
    dialog_decides s noClipboard "a" [.key ⟨.tab, false⟩, .key ⟨.enter, false⟩] hadmin
  · obtain _ | ⟨-, _ | ⟨henter, -⟩⟩ := hundecided
    exact absurd .enter (henter _)
  · obtain _ | ⟨first, _ | ⟨second, rest⟩⟩ := before
    · obtain ⟨rfl, -⟩ := List.cons.inj hsplit
      rcases hdecides with h | h | _ | _ <;> simp at h
    · obtain ⟨rfl, hrest⟩ := List.cons.inj hsplit
      obtain ⟨rfl, -⟩ := List.cons.inj hrest
      cases hdecides with
      | yes h => simp at h
      | no h => simp at h
      | enter => exact ⟨hadmin, hclosed⟩
    · simp at hsplit

end McpConsole.Console
