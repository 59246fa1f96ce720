import McpConsole.Console.Input

/-!
# Keys change the field with the focus

A key has one meaning for a line of text, another for a choice, and some keys move the focus. What a
number of keys does to a form comes apart into what they do to its fields: each field changes as if it
stood alone and got only the keys that were pressed while it had the focus.

A `Stroke` is a key with the field that had the focus then, and `Form.strokes` those of a number of
keys. `Form.Becomes` says field by field what strokes make of a form. It holds of one key
(`Form.handleKey_becomes`) and of one thing after the other (`Form.Becomes.trans`), hence of any number
of keys (`Form.handleKeys_becomes`).
-/

namespace McpConsole.Console

/-! ### Strokes -/

/-- A change of a line of text. -/
inductive Edit where
  | left
  | right
  | home
  | toEnd
  | backspace
  | delete
  | insert (c : Char)
  deriving DecidableEq, Repr

/-- A line of text after a change. -/
def Edit.apply (t : TextInput) : Edit → TextInput
  | .left => t.left
  | .right => t.right
  | .home => t.home
  | .toEnd => t.toEnd
  | .backspace => t.backspace
  | .delete => t.delete
  | .insert c => t.insert c

/-- The change of a line of text that a key stands for. With the control key no character is
typed. -/
def KeyPress.edit? (press : KeyPress) : Option Edit :=
  match press.key with
  | .left => some .left
  | .right => some .right
  | .home => some .home
  | .toEnd => some .toEnd
  | .backspace => some .backspace
  | .delete => some .delete
  | .char c => if press.control then none else some (.insert c)
  | _ => none

/-- How far a key goes on in a choice. -/
def KeyPress.steps? (press : KeyPress) : Option Int :=
  match press.key with
  | .left => some (-1)
  | .right => some 1
  | .char ' ' => some 1
  | _ => none

/-- A key that was pressed, and the field that had the focus then. -/
structure Stroke where
  field : Field
  press : KeyPress
  deriving DecidableEq, Repr

namespace Stroke

/-- The change of a line of text, if it had the focus. -/
def edit? (field : Field) (s : Stroke) : Option Edit :=
  if s.field = field then s.press.edit? else none

/-- How far the stroke goes on in a choice, if it had the focus. -/
def steps? (field : Field) (s : Stroke) : Option Int :=
  if s.field = field then s.press.steps? else none

/-- Whether the focus moves down. In the last field the enter key sends the form instead. -/
def isForward (s : Stroke) : Bool :=
  match s.press.key with
  | .tab => true
  | .down => true
  | .enter => s.field != .auth
  | _ => false

/-- Whether the focus moves up. -/
def isBackward (s : Stroke) : Bool :=
  match s.press.key with
  | .backTab => true
  | .up => true
  | _ => false

end Stroke

/-- A line of text after a number of changes. -/
def TextInput.edited (t : TextInput) (edits : List Edit) : TextInput :=
  edits.foldl Edit.apply t

theorem TextInput.edited_append (t : TextInput) (first second : List Edit) :
    t.edited (first ++ second) = (t.edited first).edited second :=
  List.foldl_append

/-- A choice after going on in it a number of times. -/
def cycled {α : Type} [DecidableEq α] [Inhabited α] (choices : List α) (current : α)
    (steps : List Int) : α :=
  steps.foldl (cycle choices) current

theorem cycled_append {α : Type} [DecidableEq α] [Inhabited α] (choices : List α) (current : α)
    (first second : List Int) :
    cycled choices current (first ++ second) =
      cycled choices (cycled choices current first) second :=
  List.foldl_append

namespace Field

/-- The lines of the fields go round. -/
theorem line_emod (field : Field) : (field.line : Int) = field.line % 5 := by
  cases field <;> rfl

theorem line_next (field : Field) : (field.next.line : Int) = (field.line + 1) % 5 := by
  cases field <;> rfl

theorem line_previous (field : Field) : (field.previous.line : Int) = (field.line - 1) % 5 := by
  cases field <;> rfl

end Field

namespace Form

/-- A form after a number of keys. -/
def handleKeys (f : Form) (presses : List KeyPress) : Form :=
  presses.foldl (fun f press => (f.handleKey press).1) f

/-- The keys, each with the field that has the focus when it is pressed. -/
def strokes (f : Form) : List KeyPress → List Stroke
  | [] => []
  | press :: presses => ⟨f.focus, press⟩ :: (f.handleKey press).1.strokes presses

/-- What strokes make of a form: each field changes by the strokes that it got itself, and the focus
goes round by the moves down less the moves up. -/
structure Becomes (f g : Form) (strokes : List Stroke) : Prop where
  input? : ∀ field,
    g.input? field = (f.input? field).map (·.edited (strokes.filterMap (Stroke.edit? field)))
  transport : g.transport =
    cycled Transport.choices f.transport (strokes.filterMap (Stroke.steps? .transport))
  auth : g.auth = cycled Auth.choices f.auth (strokes.filterMap (Stroke.steps? .auth))
  focus : (g.focus.line : Int) =
    (f.focus.line + strokes.countP Stroke.isForward - strokes.countP Stroke.isBackward) % 5
  missing : g.missing = f.missing
  isSubmitting : g.isSubmitting = f.isSubmitting

variable {f g h : Form} {press : KeyPress}

theorem Becomes.refl (f : Form) : f.Becomes f [] := by
  constructor
  case input? => simp [TextInput.edited]
  case focus => simpa using f.focus.line_emod
  all_goals rfl

theorem Becomes.trans {first second : List Stroke} (hf : f.Becomes g first)
    (hg : g.Becomes h second) : f.Becomes h (first ++ second) := by
  constructor
  case input? =>
    intro field
    simp only [hg.input?, hf.input?, Option.map_map, List.filterMap_append,
      TextInput.edited_append]
    rfl
  case transport => rw [hg.transport, hf.transport, List.filterMap_append, cycled_append]
  case auth => rw [hg.auth, hf.auth, List.filterMap_append, cycled_append]
  case focus =>
    have hfirst := hf.focus
    have hsecond := hg.focus
    rw [List.countP_append, List.countP_append]
    omega
  case missing => rw [hg.missing, hf.missing]
  case isSubmitting => rw [hg.isSubmitting, hf.isSubmitting]

/-! ### One key -/

theorem editByKey_eq (press : KeyPress) (t : TextInput) :
    editByKey press t = t.edited press.edit?.toList := by
  obtain ⟨key, control⟩ := press
  cases key with
  | char c => cases control <;> rfl
  | _ => rfl

theorem chooseByKey_eq (f : Form) (press : KeyPress) :
    f.chooseByKey press.key = (press.steps?.map f.choose).getD f := by
  obtain ⟨key, control⟩ := press
  cases key with
  | char c =>
    simp only [chooseByKey, KeyPress.steps?]
    split <;> simp_all
  | _ => rfl

theorem edit_input? (f : Form) (change : TextInput → TextInput) (field : Field) :
    (f.edit change).input? field =
      if f.focus = field then (f.input? field).map change else f.input? field := by
  unfold edit
  cases f.focus <;> cases field <;> rfl

theorem choose_input? (f : Form) (steps : Int) (field : Field) :
    (f.choose steps).input? field = f.input? field := by
  unfold choose
  cases f.focus <;> cases field <;> rfl

theorem chooseByKey_input? (f : Form) (press : KeyPress) (field : Field) :
    (f.chooseByKey press.key).input? field = f.input? field := by
  rw [chooseByKey_eq]
  cases press.steps? with
  | none => rfl
  | some steps => exact f.choose_input? steps field

theorem input?_of_isChoice {field : Field} (f : Form) (h : field.isChoice = true) :
    f.input? field = none := by
  cases field <;> first | rfl | cases h

/-- The choice that has the focus goes on, and the other one does not. -/
theorem choose_transport (f : Form) (steps : Int) : (f.choose steps).transport =
    if f.focus = .transport then cycle Transport.choices f.transport steps else f.transport := by
  unfold choose
  cases f.focus <;> rfl

theorem choose_auth (f : Form) (steps : Int) : (f.choose steps).auth =
    if f.focus = .auth then cycle Auth.choices f.auth steps else f.auth := by
  unfold choose
  cases f.focus <;> rfl

/-- Besides its lines of text, the form stays as it is when one of them is changed. -/
theorem edit_rest (f : Form) (change : TextInput → TextInput) :
    (f.edit change).transport = f.transport ∧ (f.edit change).auth = f.auth ∧
      (f.edit change).focus = f.focus ∧ (f.edit change).missing = f.missing ∧
      (f.edit change).isSubmitting = f.isSubmitting := by
  unfold edit
  split <;> exact ⟨rfl, rfl, rfl, rfl, rfl⟩

/-- Besides its choices, the form stays as it is when one of them goes on. -/
theorem choose_rest (f : Form) (steps : Int) :
    (f.choose steps).focus = f.focus ∧ (f.choose steps).missing = f.missing ∧
      (f.choose steps).isSubmitting = f.isSubmitting := by
  unfold choose
  split <;> exact ⟨rfl, rfl, rfl⟩

theorem changeByKey_input? (f : Form) (press : KeyPress) (field : Field) :
    (f.changeByKey press).input? field =
      (f.input? field).map (·.edited (Stroke.edit? field ⟨f.focus, press⟩).toList) := by
  unfold changeByKey
  split
  · rename_i hchoice
    rw [chooseByKey_input?]
    by_cases hfield : f.focus = field
    · rw [f.input?_of_isChoice (hfield ▸ hchoice)]
      rfl
    · simp [Stroke.edit?, hfield, TextInput.edited]
  · rw [edit_input?]
    by_cases hfield : f.focus = field
    · simp only [hfield, if_true, Stroke.edit?, funext (editByKey_eq press)]
    · simp [Stroke.edit?, hfield, TextInput.edited]

/-- A choice of the form goes on by a key if it has the focus; `read` reads it from the form. -/
theorem changeByKey_choice {α : Type} [DecidableEq α] [Inhabited α] {choices : List α}
    {field : Field} {read : Form → α} (press : KeyPress) (hfield : field.isChoice = true)
    (hedit : ∀ change, read (f.edit change) = read f)
    (hchoose : ∀ steps, read (f.choose steps) =
      if f.focus = field then cycle choices (read f) steps else read f) :
    read (f.changeByKey press) =
      cycled choices (read f) (Stroke.steps? field ⟨f.focus, press⟩).toList := by
  unfold changeByKey
  by_cases hfocus : f.focus = field
  · rw [if_pos (hfocus ▸ hfield), chooseByKey_eq, Stroke.steps?, if_pos hfocus]
    cases press.steps? with
    | none => rfl
    | some steps => exact (hchoose steps).trans (if_pos hfocus)
  · rw [Stroke.steps?, if_neg hfocus]
    split
    · rw [chooseByKey_eq]
      cases press.steps? with
      | none => rfl
      | some steps => exact (hchoose steps).trans (if_neg hfocus)
    · exact hedit _

/-- Besides the fields, the key leaves the form as it is. -/
theorem changeByKey_rest (f : Form) (press : KeyPress) :
    (f.changeByKey press).focus = f.focus ∧ (f.changeByKey press).missing = f.missing ∧
      (f.changeByKey press).isSubmitting = f.isSubmitting := by
  unfold changeByKey
  split
  · rw [chooseByKey_eq]
    cases press.steps? with
    | none => exact ⟨rfl, rfl, rfl⟩
    | some steps => exact f.choose_rest steps
  · obtain ⟨-, -, hrest⟩ := f.edit_rest (editByKey press)
    exact hrest

/-- What a stroke makes of a form. -/
theorem Becomes.of_stroke {s : Stroke}
    (input? : ∀ field, g.input? field = (f.input? field).map (·.edited (s.edit? field).toList))
    (transport : g.transport = cycled Transport.choices f.transport (s.steps? .transport).toList)
    (auth : g.auth = cycled Auth.choices f.auth (s.steps? .auth).toList)
    (focus : (g.focus.line : Int) =
      (f.focus.line + s.isForward.toNat - s.isBackward.toNat) % 5)
    (missing : g.missing = f.missing) (isSubmitting : g.isSubmitting = f.isSubmitting) :
    f.Becomes g [s] := by
  have hfilter {α : Type} (select : Stroke → Option α) :
      [s].filterMap select = (select s).toList := by
    cases hs : select s <;> simp [hs]
  have hcount (counts : Stroke → Bool) : [s].countP counts = (counts s).toNat := by
    cases hs : counts s <;> simp [hs]
  constructor
  case input? => simpa only [hfilter] using input?
  case transport => rw [hfilter, transport]
  case auth => rw [hfilter, auth]
  case focus => rw [hcount, hcount, focus]
  case missing => exact missing
  case isSubmitting => exact isSubmitting

/-- A key that neither moves the focus nor sends or leaves the form changes the field with the
focus. -/
theorem changeByKey_becomes (hf : Stroke.isForward ⟨f.focus, press⟩ = false)
    (hb : Stroke.isBackward ⟨f.focus, press⟩ = false) :
    f.Becomes (f.changeByKey press) [⟨f.focus, press⟩] := by
  obtain ⟨hfocus, hmissing, hsubmitting⟩ := f.changeByKey_rest press
  refine .of_stroke (f.changeByKey_input? press)
    (changeByKey_choice press rfl (fun change => (f.edit_rest change).1) f.choose_transport)
    (changeByKey_choice press rfl (fun change => (f.edit_rest change).2.1) f.choose_auth)
    ?_ hmissing hsubmitting
  rw [hfocus, hf, hb]
  simpa using f.focus.line_emod

/-- A key that leaves the fields alone moves the focus at most. -/
theorem becomes_of_moved (focus : Field) (he : press.edit? = none) (hs : press.steps? = none)
    (hm : (focus.line : Int) = (f.focus.line + (Stroke.isForward ⟨f.focus, press⟩).toNat -
      (Stroke.isBackward ⟨f.focus, press⟩).toNat) % 5) :
    f.Becomes { f with focus } [⟨f.focus, press⟩] := by
  have hedit (field : Field) : Stroke.edit? field ⟨f.focus, press⟩ = none := by
    simp only [Stroke.edit?, he, ite_self]
  have hsteps (field : Field) : Stroke.steps? field ⟨f.focus, press⟩ = none := by
    simp only [Stroke.steps?, hs, ite_self]
  refine .of_stroke (fun field => ?_) ?_ ?_ hm rfl rfl
  · rw [hedit]
    cases field <;> rfl
  · rw [hsteps]
    rfl
  · rw [hsteps]
    rfl

/-- A character changes the field with the focus, unless it sends the form. -/
theorem handleKey_char {c : Char} {control : Bool} (h : ¬(c = 's' ∧ control = true)) :
    f.handleKey ⟨.char c, control⟩ = (f.changeByKey ⟨.char c, control⟩, .none) := by
  unfold handleKey
  split <;> simp_all

/-- **What a key makes of a form.** -/
theorem handleKey_becomes (f : Form) (press : KeyPress) :
    f.Becomes (f.handleKey press).1 [⟨f.focus, press⟩] := by
  obtain ⟨key, control⟩ := press
  cases key with
  | tab | down =>
    refine becomes_of_moved f.focus.next rfl rfl (f.focus.line_next.trans ?_)
    simp [Stroke.isForward, Stroke.isBackward]
  | backTab | up =>
    refine becomes_of_moved f.focus.previous rfl rfl (f.focus.line_previous.trans ?_)
    simp [Stroke.isForward, Stroke.isBackward]
  | enter =>
    unfold handleKey
    dsimp only
    split
    · rename_i hlast
      refine becomes_of_moved f.focus rfl rfl (f.focus.line_emod.trans ?_)
      simp [Stroke.isForward, Stroke.isBackward, hlast]
    · rename_i hlast
      have hforward : Stroke.isForward ⟨f.focus, ⟨.enter, control⟩⟩ = true := bne_iff_ne.2 hlast
      refine becomes_of_moved f.focus.next rfl rfl (f.focus.line_next.trans ?_)
      simp [hforward, Stroke.isBackward]
  | escape =>
    refine becomes_of_moved f.focus rfl rfl (f.focus.line_emod.trans ?_)
    simp [Stroke.isForward, Stroke.isBackward]
  | char c =>
    by_cases hsends : c = 's' ∧ control = true
    · obtain ⟨rfl, rfl⟩ := hsends
      refine becomes_of_moved f.focus rfl rfl (f.focus.line_emod.trans ?_)
      simp [Stroke.isForward, Stroke.isBackward]
    · rw [handleKey_char hsends]
      exact changeByKey_becomes rfl rfl
  | _ => exact changeByKey_becomes rfl rfl

theorem handleKeys_becomes (f : Form) (presses : List KeyPress) :
    f.Becomes (f.handleKeys presses) (f.strokes presses) := by
  induction presses generalizing f with
  | nil => exact .refl f
  | cons press presses ih => exact (f.handleKey_becomes press).trans (ih _)

/-- A key that sends or leaves the form changes nothing in it. -/
theorem handleKey_of_asks (h : (f.handleKey press).2 ≠ .none) : (f.handleKey press).1 = f := by
  unfold handleKey at h ⊢
  split at h
  case h_1 | h_7 =>
    split at h
    · rename_i hc
      rw [if_pos hc]
    · exact absurd rfl h
  case h_2 => rfl
  all_goals exact absurd rfl h

/-- **Keys change no other field than the one with the focus.** Whatever the form was and whatever
keys are pressed, each line of text is what it would be if it stood alone and got only the editing keys
that were pressed while it had the focus; so is each choice; the focus has gone round by the moves down
less the moves up; and a key that sends or leaves the form has changed nothing at all. -/
theorem keys_change_focused (f : Form) (presses : List KeyPress) :
    f.Becomes (f.handleKeys presses) (f.strokes presses) ∧
      ∀ press, ((f.handleKeys presses).handleKey press).2 ≠ .none →
        f.handleKeys (presses ++ [press]) = f.handleKeys presses := by
  refine ⟨f.handleKeys_becomes presses, fun press hasks => ?_⟩
  have hlast : f.handleKeys (presses ++ [press]) = ((f.handleKeys presses).handleKey press).1 := by
    simp only [handleKeys, List.foldl_append, List.foldl_cons, List.foldl_nil]
  rw [hlast, handleKey_of_asks hasks]

/-- The arrow to the left moves the cursor of the name, and further down it changes the transport. -/
example : (Form.empty.handleKeys [⟨.char 'a', false⟩, ⟨.left, false⟩, ⟨.down, false⟩,
    ⟨.down, false⟩, ⟨.enter, false⟩, ⟨.left, false⟩]) =
      { Form.empty with name := ⟨['a'], 0⟩, transport := .stdio, focus := .transport } := by decide

end Form

end McpConsole.Console
