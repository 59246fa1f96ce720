import McpConsole.Console.TextInput
import McpConsole.Server.Basic

/-!
# The form of a server

The form in which a new server is described or an existing one is changed: three lines of text and
two choices, one of which has the focus. `Form.details` and `Form.revision` are what a filled form
says, unless a field that is needed is blank.
-/

namespace McpConsole.Console

/-- The fields of a form. -/
inductive Field where
  | name
  | description
  | url
  | transport
  | auth
  deriving DecidableEq, Repr, Inhabited

namespace Field

/-- All fields, from the top. -/
def all : List Field :=
  [.name, .description, .url, .transport, .auth]

/-- The label of a field. -/
def label : Field → String
  | .name => "Name"
  | .description => "Description"
  | .url => "URL"
  | .transport => "Transport"
  | .auth => "Auth Type"

/-- Whether a field is a choice and not a line of text. -/
def isChoice : Field → Bool
  | .transport => true
  | .auth => true
  | _ => false

/-- The line of a field, counted from the top. -/
def line : Field → Nat
  | .name => 0
  | .description => 1
  | .url => 2
  | .transport => 3
  | .auth => 4

/-- The field below, and the top one after the bottom one. -/
def next : Field → Field
  | .name => .description
  | .description => .url
  | .url => .transport
  | .transport => .auth
  | .auth => .name

/-- The field above, and the bottom one before the top one. -/
def previous : Field → Field
  | .name => .auth
  | .description => .name
  | .url => .description
  | .transport => .url
  | .auth => .transport

end Field

/-- The choice a number of steps after the current one, going round; the first one if the current
one is not among the choices. -/
def cycle {α : Type} [DecidableEq α] [Inhabited α] (choices : List α) (current : α) (steps : Int) :
    α :=
  let place : Int :=
    match choices.idxOf? current with
    | some place => (place + steps) % choices.length
    | none => 0
  choices.getD place.toNat default

/-- A form. -/
structure Form where
  name : TextInput
  description : TextInput
  url : TextInput
  transport : Transport
  auth : Auth
  focus : Field
  /-- The fields that were missing when the form was sent last. -/
  missing : List Field
  /-- Whether the form was sent and no answer has come yet. -/
  isSubmitting : Bool
  deriving DecidableEq, Repr, Inhabited

namespace Form

/-- An empty form. -/
def empty : Form := default

/-- The form that shows the details of a server. -/
def ofDetails (d : Details) : Form :=
  { empty with
    name := .ofText (d.name.getD "")
    description := .ofText (d.description.getD "")
    url := .ofText d.url
    transport := d.transport
    auth := d.auth }

/-- The line of text of a field. -/
def input? (f : Form) : Field → Option TextInput
  | .name => some f.name
  | .description => some f.description
  | .url => some f.url
  | .transport => none
  | .auth => none

/-- The form with the line of text of the focused field changed. -/
def edit (f : Form) (change : TextInput → TextInput) : Form :=
  match f.focus with
  | .name => { f with name := change f.name }
  | .description => { f with description := change f.description }
  | .url => { f with url := change f.url }
  | .transport => f
  | .auth => f

/-- Moves the focus down. -/
def focusNext (f : Form) : Form :=
  { f with focus := f.focus.next }

/-- Moves the focus up. -/
def focusPrevious (f : Form) : Form :=
  { f with focus := f.focus.previous }

/-- Goes a number of steps on in the choice that has the focus. -/
def choose (f : Form) (steps : Int) : Form :=
  match f.focus with
  | .transport => { f with transport := cycle Transport.choices f.transport steps }
  | .auth => { f with auth := cycle Auth.choices f.auth steps }
  | _ => f

/-- What is shown in a field. -/
def shown (f : Form) : Field → String
  | .name => f.name.content
  | .description => f.description.content
  | .url => f.url.content
  | .transport => f.transport.label
  | .auth => f.auth.label

/-- The fields that are needed and blank. -/
def blankFields (f : Form) (needsName : Bool) : List Field :=
  (if needsName && f.name.isBlank then [.name] else []) ++
    (if f.url.isBlank then [.url] else [])

/-- What the form says. -/
def filled (f : Form) : Details where
  name := f.name.value?
  description := f.description.value?
  transport := f.transport
  auth := f.auth
  url := f.url.value?.getD ""

/-- The details of a new server, or the fields that are missing. -/
def details (f : Form) : Except (List Field) Details :=
  match f.blankFields true with
  | [] => .ok f.filled
  | missing => .error missing

/-- The revision of an existing server, or the fields that are missing. -/
def revision (f : Form) (id : String) : Except (List Field) Revision :=
  match f.blankFields false with
  | [] => .ok ⟨id, f.filled⟩
  | missing => .error missing

/-- The complaint about missing fields. -/
def complaint (missing : List Field) : String :=
  "Required: " ++ ", ".intercalate (missing.map Field.label)

/-- The complaint that the form shows. -/
def error? (f : Form) : Option String :=
  if f.missing.isEmpty then none else some (complaint f.missing)

/-- The form once it was sent. -/
def sent (f : Form) : Form :=
  { f with missing := [], isSubmitting := true }

/-- The form once sending it has failed. -/
def released (f : Form) : Form :=
  { f with isSubmitting := false }

end Form

/-- A server that is shown alone, and perhaps edited. -/
structure Detail where
  server : Server
  isEditing : Bool
  /-- The form of a server that is edited. -/
  form : Option Form
  deriving DecidableEq, Repr, Inhabited

namespace Detail

/-- A server that is only shown. -/
def viewing (server : Server) : Detail :=
  ⟨server, false, none⟩

/-- A server that is edited. -/
def editing (server : Server) : Detail :=
  ⟨server, true, some (.ofDetails server.details)⟩

/-- Begins to edit, with a form that shows the server as it is. -/
def startEditing (d : Detail) : Detail :=
  editing d.server

/-- Leaves editing and shows another state of the server. -/
def finishEditing (_ : Detail) (server : Server) : Detail :=
  viewing server

/-- Changes the form, if there is one. -/
def mapForm (d : Detail) (change : Form → Form) : Detail :=
  { d with form := d.form.map change }

end Detail

end McpConsole.Console
