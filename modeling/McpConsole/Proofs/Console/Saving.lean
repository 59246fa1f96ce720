import McpConsole.Proofs.Console.Events
import McpConsole.Proofs.Console.Fields
import McpConsole.Proofs.Text.Blank

/-!
# Saving what was not changed

A server that is edited goes through a form and back: its details are shown as texts and choices, the
user moves about in them, and what is sent is read from the form again. `Details.tidied` is all that
this does to the details of a server: blanks around the texts are lost, and so is a name or a
description that is blank.

Moves of the focus and of cursors change nothing that the form says (`Form.filled_of_moves`), and what
the form says is `Details.tidied` (`Form.filled_ofDetails`). `State.save_unchanged` puts these together,
with what the console does when such a form is sent.
-/

namespace McpConsole

open McpConsole.Text

/-! ### Tidy details -/

namespace Details

/-- The details without blanks around their texts, and without a name or a description that is
blank. -/
def tidied (d : Details) : Details :=
  { d with
    name := trimmedNonBlank d.name
    description := trimmedNonBlank d.description
    url := trimmed d.url }

/-- Details whose texts are not blank and have no blanks around them. -/
structure IsTidy (d : Details) : Prop where
  name : ∀ text, d.name = some text → Text.IsTidy text
  description : ∀ text, d.description = some text → Text.IsTidy text
  url : Text.IsTidy d.url

theorem tidied_eq_self_iff {d : Details} (h : isBlankText d.url = false) :
    d.tidied = d ↔ d.IsTidy := by
  have hurl : trimmed d.url = d.url ↔ Text.IsTidy d.url := by
    rw [trimmed_eq_self_iff, Text.IsTidy, h, eq_self, true_and]
  constructor
  · intro ht
    exact ⟨trimmedNonBlank_eq_self_iff.1 (congrArg name ht),
      trimmedNonBlank_eq_self_iff.1 (congrArg description ht), hurl.1 (congrArg url ht)⟩
  · rintro ⟨hn, hd, hu⟩
    rw [tidied, trimmedNonBlank_eq_self_iff.2 hn, trimmedNonBlank_eq_self_iff.2 hd, hurl.2 hu]

end Details

namespace Console

/-! ### Moves -/

/-- Whether a change of a line of text moves its cursor only. -/
def Edit.isMove : Edit → Bool
  | .left => true
  | .right => true
  | .home => true
  | .toEnd => true
  | _ => false

theorem Edit.apply_text {e : Edit} (h : e.isMove = true) (t : TextInput) :
    (e.apply t).text = t.text := by
  cases e with
  | left =>
    simp only [apply, TextInput.left]
    split <;> rfl
  | right =>
    simp only [apply, TextInput.right]
    split <;> rfl
  | home | toEnd => rfl
  | _ => cases h

theorem TextInput.edited_text {edits : List Edit} (h : ∀ e ∈ edits, e.isMove = true)
    (t : TextInput) : (t.edited edits).text = t.text := by
  induction edits generalizing t with
  | nil => rfl
  | cons e edits ih =>
    obtain ⟨hfirst, hrest⟩ := List.forall_mem_cons.1 h
    exact (ih hrest _).trans (Edit.apply_text hfirst t)

/-- Whether a stroke moves the focus, or the cursor of a line of text. In a choice the keys to the left
and to the right choose, and in the last field the enter key sends the form. -/
def Stroke.isMove (s : Stroke) : Bool :=
  match s.press.key with
  | .tab => true
  | .backTab => true
  | .up => true
  | .down => true
  | .enter => s.field != .auth
  | .left => !s.field.isChoice
  | .right => !s.field.isChoice
  | .home => true
  | .toEnd => true
  | _ => false

theorem Stroke.isMove_of_edit? {s : Stroke} (h : s.isMove = true) {field : Field} {e : Edit}
    (he : s.edit? field = some e) : e.isMove = true := by
  obtain ⟨focus, key, control⟩ := s
  have hkey : KeyPress.edit? ⟨key, control⟩ = some e := (Option.ite_none_right_eq_some.1 he).2
  cases key with
  | left | right | home | toEnd =>
    cases hkey
    rfl
  | char | backspace | delete => cases h
  | _ => cases hkey

theorem Stroke.steps?_of_isMove {s : Stroke} (h : s.isMove = true) {field : Field}
    (hf : field.isChoice = true) : s.steps? field = none := by
  obtain ⟨focus, key, control⟩ := s
  unfold Stroke.steps?
  split
  · rename_i hfocus
    obtain rfl : focus = field := hfocus
    cases key with
    | left | right => simp [isMove, hf] at h
    | char => cases h
    | _ => rfl
  · rfl

namespace Form

variable {f : Form} {presses : List KeyPress}

/-- A move neither sends the form nor leaves it. -/
theorem handleKey_of_isMove {press : KeyPress} (h : Stroke.isMove ⟨f.focus, press⟩ = true) :
    (f.handleKey press).2 = .none := by
  obtain ⟨key, control⟩ := press
  cases key with
  | enter =>
    have hlast : f.focus ≠ .auth := bne_iff_ne.1 h
    rw [handleKey, if_neg hlast]
  | char | escape | backspace | delete | other => cases h
  | _ => rfl

/-- Moves leave the texts of a form as they are. -/
theorem text_of_moves (h : ∀ stroke ∈ f.strokes presses, stroke.isMove = true) (field : Field) :
    ((f.handleKeys presses).input? field).map TextInput.text =
      (f.input? field).map TextInput.text := by
  rw [(f.handleKeys_becomes presses).input?, Option.map_map]
  congr 1
  funext t
  refine TextInput.edited_text (fun e he => ?_) t
  obtain ⟨stroke, hs, hedit⟩ := List.mem_filterMap.1 he
  exact Stroke.isMove_of_edit? (h stroke hs) hedit

theorem steps?_of_moves (h : ∀ stroke ∈ f.strokes presses, stroke.isMove = true) {field : Field}
    (hf : field.isChoice = true) : (f.strokes presses).filterMap (Stroke.steps? field) = [] := by
  rw [List.filterMap_eq_nil_iff]
  exact fun stroke hs => Stroke.steps?_of_isMove (h stroke hs) hf

/-- **Moves do not change what a form says.** -/
theorem filled_of_moves (h : ∀ stroke ∈ f.strokes presses, stroke.isMove = true) :
    (f.handleKeys presses).filled = f.filled ∧
      (f.handleKeys presses).url.isBlank = f.url.isBlank := by
  have hname : (f.handleKeys presses).name.text = f.name.text :=
    Option.some.inj (text_of_moves h .name)
  have hdescription : (f.handleKeys presses).description.text = f.description.text :=
    Option.some.inj (text_of_moves h .description)
  have hurl : (f.handleKeys presses).url.text = f.url.text := Option.some.inj (text_of_moves h .url)
  have htransport : (f.handleKeys presses).transport = f.transport := by
    rw [(f.handleKeys_becomes presses).transport, steps?_of_moves h rfl]
    rfl
  have hauth : (f.handleKeys presses).auth = f.auth := by
    rw [(f.handleKeys_becomes presses).auth, steps?_of_moves h rfl]
    rfl
  simp only [filled, TextInput.value?, TextInput.content, TextInput.isBlank, hname, hdescription,
    hurl, htransport, hauth, and_self]

/-- **What a form says that shows details** and was not changed. -/
theorem filled_ofDetails (d : Details) : (ofDetails d).filled = d.tidied := by
  have hvalue (text : String) : (TextInput.ofText text).value? = trimmedNonBlank (some text) := by
    rw [TextInput.value?, TextInput.content, TextInput.ofText, String.ofList_toList]
  have hoption (value : Option String) :
      trimmedNonBlank (some (value.getD "")) = trimmedNonBlank value := by
    cases value <;> rfl
  simp only [filled, ofDetails, hvalue, hoption, getD_trimmedNonBlank, Details.tidied]

/-- What is sent for a server with such a form. -/
theorem revision_of_moves {d : Details}
    (h : ∀ stroke ∈ (ofDetails d).strokes presses, stroke.isMove = true) (id : String) :
    ((ofDetails d).handleKeys presses).revision id =
      if isBlankText d.url then .error [.url] else .ok ⟨id, d.tidied⟩ := by
  obtain ⟨hfilled, hblank⟩ := filled_of_moves h
  have hurl : (ofDetails d).url.isBlank = isBlankText d.url := rfl
  rw [revision, blankFields, hblank, hurl, hfilled, filled_ofDetails]
  cases isBlankText d.url <;> rfl

end Form

/-! ### Sending -/

namespace State

/-- The console after a number of keys, and the calls that were issued. -/
def pressAll (s : State) (clipboard : Clipboard) : List KeyPress → State × List Issued
  | [] => (s, [])
  | press :: presses =>
    let (s, first) := s.respond clipboard (.key press)
    let (s, rest) := s.pressAll clipboard presses
    (s, first ++ rest)

/-- An administrator edits a server, in a form. At first this is the form of its details
(`Detail.editing`). -/
structure Edits (s : State) (server : Server) (form : Form) : Prop where
  faces : s.core.Faces .detail
  isAdmin : s.app.session.isAdmin = true
  shows : s.app.detail = some ⟨server, true, some form⟩

/-- The console with another state of the form of the server that is edited. -/
def withForm (s : State) (server : Server) (form : Form) : State :=
  { s with app := { s.app with detail := some ⟨server, true, some form⟩ } }

variable {s : State} {server : Server} {form : Form} {press : KeyPress} {presses : List KeyPress}

theorem Edits.withForm (h : s.Edits server form) (other : Form) :
    (s.withForm server other).Edits server other :=
  ⟨⟨h.faces.isComplete, h.faces.isAsking, h.faces.shown⟩, h.isAdmin, rfl⟩

theorem Edits.withForm_self (h : s.Edits server form) : s.withForm server form = s := by
  rw [State.withForm, ← h.shows]

/-- A key that neither sends the form nor leaves it. -/
theorem Edits.respond_fill (h : s.Edits server form) (ha : (form.handleKey press).2 = .none)
    (clipboard : Clipboard) :
    s.respond clipboard (.key press) = (s.withForm server (form.handleKey press).1, []) := by
  have hk : s.detailKey press = (s.withForm server (form.handleKey press).1, []) := by
    simp only [detailKey, h.shows, ha]
    rfl
  rw [respond, handle, handleKey_of_faces h.faces, viewKey, hk]
  exact process_nil _ _

/-- A key that sends the form. -/
theorem Edits.respond_sent (h : s.Edits server form) (hs : form.IsSentBy press)
    (clipboard : Clipboard) :
    s.respond clipboard (.key press) =
      (s.withForm server (App.submit form (form.revision server.id) .update).1).process clipboard
        (App.submit form (form.revision server.id) .update).2 := by
  have ha := (form.handleKey_submit_iff press).2 hs
  have hk : s.detailKey press =
      (s.withForm server (App.submit form (form.revision server.id) .update).1,
        (App.submit form (form.revision server.id) .update).2) := by
    simp only [detailKey, h.shows, ha, Form.handleKey_submit ha, after, App.submitUpdate, h.isAdmin]
    rfl
  rw [respond, handle, handleKey_of_faces h.faces, viewKey, hk]

/-- **Moves change nothing but the form**, and issue nothing. -/
theorem Edits.pressAll_moves (h : s.Edits server form)
    (hm : ∀ stroke ∈ form.strokes presses, stroke.isMove = true) (clipboard : Clipboard) :
    s.pressAll clipboard presses = (s.withForm server (form.handleKeys presses), []) := by
  induction presses generalizing s form with
  | nil => exact congrArg (·, []) h.withForm_self.symm
  | cons press presses ih =>
    obtain ⟨hfirst, hrest⟩ := List.forall_mem_cons.1 hm
    rw [pressAll, h.respond_fill (Form.handleKey_of_isMove hfirst) clipboard]
    dsimp only
    rw [ih (h.withForm _) hrest]
    rfl

/-- Keys one after the other. -/
theorem pressAll_append (s : State) (clipboard : Clipboard) (first second : List KeyPress) :
    s.pressAll clipboard (first ++ second) =
      (((s.pressAll clipboard first).1.pressAll clipboard second).1,
        (s.pressAll clipboard first).2 ++
          ((s.pressAll clipboard first).1.pressAll clipboard second).2) := by
  induction first generalizing s with
  | nil => rfl
  | cons press first ih => simp only [List.cons_append, pressAll, ih, List.append_assoc]

/-- A form that lacks nothing is sent. -/
theorem Edits.respond_ok (h : s.Edits server form) (hs : form.IsSentBy press)
    (hfree : form.isSubmitting = false) {revision : Revision}
    (hr : form.revision server.id = .ok revision) {credential : String}
    (hc : s.app.session.credential = some credential) (clipboard : Clipboard) :
    (s.respond clipboard (.key press)).2 = [.update credential revision] := by
  rw [h.respond_sent hs clipboard, App.submit_of_isFree hfree hr, process_call]
  have hkey : (s.withForm server form.sent).app.listKey? = some credential := hc
  simp only [State.issue, App.command, hkey]
  rfl

/-- A form that lacks something says so. -/
theorem Edits.respond_error (h : s.Edits server form) (hs : form.IsSentBy press)
    (hfree : form.isSubmitting = false) {missing : List Field}
    (hr : form.revision server.id = .error missing) (clipboard : Clipboard) :
    s.respond clipboard (.key press) = (s.withForm server { form with missing }, []) := by
  have hsubmit : App.submit form (form.revision server.id) .update = ({ form with missing }, []) := by
    rw [hr, App.submit, hfree]
    rfl
  rw [h.respond_sent hs clipboard, hsubmit, process_nil]

/-- **Saving what was not changed changes nothing but blanks.** However the focus and the cursors are
moved about in the form of a server that is edited: unless the address is blank, what is sent is the
identifier of the server, its transport and its kind of authentication, whatever they are, and its texts
without the blanks around them, where a name or a description that is blank is left out; this is the
server as it is just when its texts are tidy. If the address is blank, there is nothing to be sent: no
call is issued, and the form says what is missing. -/
theorem save_unchanged (clipboard : Clipboard) (server : Server) (presses : List KeyPress)
    (moves : ∀ stroke ∈ (Form.ofDetails server.details).strokes presses, stroke.isMove = true) :
    let form := (Form.ofDetails server.details).handleKeys presses
    let tidied : Revision := ⟨server.id, server.details.tidied⟩
    (isBlankText server.details.url = false →
      form.revision server.id = .ok tidied ∧
        (form.revision server.id = .ok server.revision ↔ server.details.IsTidy) ∧
        ∀ (s : State) (press : KeyPress), s.Edits server (.ofDetails server.details) →
          form.IsSentBy press → ∃ credential, s.app.session.credential = some credential ∧
            (s.pressAll clipboard (presses ++ [press])).2 = [.update credential tidied]) ∧
      (isBlankText server.details.url = true →
        form.revision server.id = .error [.url] ∧
          ∀ (s : State) (press : KeyPress), s.Edits server (.ofDetails server.details) →
            form.IsSentBy press →
              let saved := s.pressAll clipboard (presses ++ [press])
              saved.2 = [] ∧ saved.1.Edits server { form with missing := [.url] } ∧
                Form.error? { form with missing := [.url] } = some "Required: URL") := by
  intro form tidied
  have hrevision := Form.revision_of_moves moves server.id
  have hfree : form.isSubmitting = false := (Form.handleKeys_becomes _ presses).isSubmitting
  -- the last key is pressed where the moves have led to
  have hlast {s : State} (h : s.Edits server (.ofDetails server.details)) (press : KeyPress) :
      s.pressAll clipboard (presses ++ [press]) =
        (s.withForm server form).respond clipboard (.key press) := by
    rw [pressAll_append, h.pressAll_moves moves clipboard]
    simp only [pressAll, List.nil_append, List.append_nil]
    rfl
  refine ⟨fun hurl => ?_, fun hurl => ?_⟩ <;> rw [hurl] at hrevision
  · have hok : form.revision server.id = .ok tidied := hrevision
    refine ⟨hok, ?_, fun s press h hs => ?_⟩
    · rw [hok, ← Details.tidied_eq_self_iff hurl]
      simp [tidied, Server.revision]
    · obtain ⟨credential, hc⟩ := Session.exists_credential h.faces.isComplete
      refine ⟨credential, hc, ?_⟩
      rw [hlast h]
      exact (h.withForm form).respond_ok hs hfree hok hc clipboard
  · have herror : form.revision server.id = .error [.url] := hrevision
    refine ⟨herror, fun s press h hs => ?_⟩
    dsimp only
    rw [hlast h, (h.withForm form).respond_error hs hfree herror clipboard]
    exact ⟨rfl, h.withForm _, rfl⟩

/-- A server with blanks in its texts, and of kinds that are not known. -/
def untidy : Server :=
  { (default : Server) with
    id := "a"
    details := ⟨some " b ", some "\t", .other "ws", .other "sso", "c d\u3000"⟩ }

/-- It is sent without the blanks and as being of the same kinds. -/
theorem save_unchanged_untidy :
    let presses : List KeyPress := [⟨.left, false⟩, ⟨.home, false⟩, ⟨.down, true⟩, ⟨.toEnd, false⟩]
    let start := State.start .nord ⟨some "token", some "Admin", some "user"⟩
    let s := { start with view := ⟨.detail, none⟩ }.withForm untidy (.ofDetails untidy.details)
    (s.pressAll noClipboard (presses ++ [⟨.char 's', true⟩])).2 =
      [.update "token" ⟨"a", ⟨some "b", none, .other "ws", .other "sso", "c d"⟩⟩] := by
  intro presses start s
  have hmoves : ∀ stroke ∈ (Form.ofDetails untidy.details).strokes presses,
      stroke.isMove = true := by decide
  have hedits : s.Edits untidy (.ofDetails untidy.details) :=
    ⟨⟨by decide, rfl, rfl⟩, by decide, rfl⟩
  have htidied : untidy.details.tidied =
      ⟨some "b", none, .other "ws", .other "sso", "c d"⟩ := by decide +kernel
  obtain ⟨-, -, hsaves⟩ := (save_unchanged noClipboard untidy presses hmoves).1 (by decide +kernel)
  obtain ⟨credential, hc, hissued⟩ := hsaves s ⟨.char 's', true⟩ hedits (.inl rfl)
  rw [hissued, htidied]
  obtain rfl : credential = "token" := (Option.some.inj hc).symm
  rfl

end State

end Console

end McpConsole
