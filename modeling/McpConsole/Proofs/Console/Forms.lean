import McpConsole.Proofs.Console.Course

/-!
# The form on the screen

The form of a new server or of a server that is edited, as long as it is on the screen.
`Core.Turns` says what a deed does to it: the form leaves the screen, or it stays and is sent at
most, or what comes back releases it for being sent again. `Core.turns` says that there is nothing
else.

A form is opened only while none is on the screen (`Core.form?_of_opens`), and only an opened form
comes to the screen (`Core.isUntouched_of_form?`), so that a form that has left the screen does not
come back. What is on the screen without a break is one form (`Course.holdsForm_iff`).
-/

namespace McpConsole.Console

/-- The form on the screen. -/
def State.form? (s : State) : Option Form :=
  match s.view.content with
  | .list _ => none
  | .detail => s.app.detail.bind Detail.form
  | .create => s.app.create

/-- The view whose form a call sends. -/
def Issued.sentFrom (issued : Issued) : Option Route :=
  match issued.call with
  | .create _ => some .create
  | .update _ => some .detail
  | _ => none

/-- The view whose form can be sent again after an outcome, which is the failure of a call that has
sent such a form. -/
def Outcome.releases : Outcome → Option Route
  | .created (.error _) => some .create
  | .updated (.error _) => some .detail
  | _ => none

/-- Whether a deed opens a form. -/
def Deed.Opens : Deed → Prop
  | .draft => True
  | .startEditing => True
  | .visit _ detail => detail.form.isSome = true
  | _ => False

namespace Form

@[simp] theorem choose_isSubmitting (f : Form) (steps : Int) :
    (f.choose steps).isSubmitting = f.isSubmitting := by
  unfold choose
  split <;> rfl

@[simp] theorem edit_isSubmitting (f : Form) (change : TextInput → TextInput) :
    (f.edit change).isSubmitting = f.isSubmitting := by
  unfold edit
  split <;> rfl

@[simp] theorem changeByKey_isSubmitting (f : Form) (press : KeyPress) :
    (f.changeByKey press).isSubmitting = f.isSubmitting := by
  unfold changeByKey
  split
  · unfold chooseByKey
    split <;> simp
  · simp

/-- Keys do not change whether a form was sent. -/
theorem handleKey_isSubmitting (f : Form) (press : KeyPress) :
    (f.handleKey press).1.isSubmitting = f.isSubmitting := by
  unfold handleKey
  split
  case h_1 => split <;> simp
  case h_7 => split <;> rfl
  case h_8 => simp
  all_goals rfl

/-- A form that was just made: the empty one, or one that shows a server as it is. -/
def IsUntouched (f : Form) : Prop :=
  f = .empty ∨ ∃ details, f = .ofDetails details

/-- A revision is one of the server that it was asked for. -/
theorem id_of_revision {f : Form} {id : String} {r : Revision} (h : f.revision id = .ok r) :
    r.id = id := by
  unfold Form.revision at h
  split at h
  · cases h
    rfl
  · cases h

end Form

namespace Core

/-- The form on the screen. -/
def form? (k : Core) : Option Form :=
  match k.shown with
  | .list => none
  | .detail => k.detail.bind Detail.form
  | .create => k.create

/-- The server whose form is on the screen, unless it is a new one. -/
def edited? (k : Core) : Option Server :=
  match k.shown with
  | .detail => k.detail.map Detail.server
  | _ => none

variable {k l : Core} {view : Route} {form : Form}

theorem form?_of_list (h : k.shown = .list) : k.form? = none := by
  rw [form?, h]

theorem form?_of_detail (h : k.shown = .detail) : k.form? = k.detail.bind Detail.form := by
  rw [form?, h]

theorem form?_of_create (h : k.shown = .create) : k.form? = k.create := by
  rw [form?, h]

/-- **A form is opened only while none is on the screen.** -/
theorem form?_of_opens {deed : Deed} (hp : k.Permits deed) (ho : deed.Opens) : k.form? = none := by
  cases deed with
  | draft => exact form?_of_list hp.1.shown
  | visit cursor detail => exact form?_of_list hp.1.shown
  | startEditing =>
    obtain ⟨hf, -, detail, hd, hn, -⟩ := hp
    rw [form?_of_detail hf.shown, hd, Option.bind_some, hn]
  | _ => cases ho

theorem form?_of_place (h : l.place = k.place) : l.form? = k.form? := by
  obtain ⟨-, hs, hd, hc⟩ := place_eq_iff.1 h
  simp only [form?, hs, hd, hc]

/-- Two cores with the same view on the screen, and the same server in it. -/
structure SameView (k l : Core) : Prop where
  shown : l.shown = k.shown
  edited : l.edited? = k.edited?

theorem SameView.of_place (h : l.place = k.place) : k.SameView l := by
  obtain ⟨-, hs, hd, -⟩ := place_eq_iff.1 h
  exact ⟨hs, by simp only [edited?, hs, hd]⟩

theorem SameView.trans {m : Core} (h : k.SameView l) (h' : l.SameView m) : k.SameView m :=
  ⟨h'.shown.trans h.shown, h'.edited.trans h.edited⟩

/-- What a deed does to the form on the screen. -/
inductive Turns (k : Core) (form : Form) (deed : Deed) : Prop
  /-- The form leaves the screen. -/
  | leaves (left : (k.enact deed).1.form? = none)
    (silent : ∀ issued ∈ (k.enact deed).2, issued.sentFrom = none)
  /-- The form stays, perhaps filled in further. -/
  | stays (new : Form) (shows : (k.enact deed).1.form? = some new)
    (view : k.SameView (k.enact deed).1)
    (isSubmitting : new.isSubmitting = form.isSubmitting)
    (silent : ∀ issued ∈ (k.enact deed).2, issued.sentFrom = none)
    (quiet : ∀ outcome, deed = .come outcome → outcome.releases ≠ some k.shown)
  /-- The form is sent, if it was not sent before. -/
  | sends (request : Issued) (shows : (k.enact deed).1.form? = some form.sent)
    (view : k.SameView (k.enact deed).1)
    (isFree : form.isSubmitting = false)
    (issued : (k.enact deed).2 = [request])
    (sentFrom : request.sentFrom = some k.shown)
    (about : ∀ revision, request.call = .update revision →
      k.edited?.map Server.id = some revision.id)
    (isNew : ∀ outcome, deed ≠ .come outcome)
  /-- The form is released, since it could not be sent. -/
  | releases (outcome : Outcome) (come : deed = .come outcome)
    (releases : outcome.releases = some k.shown)
    (shows : (k.enact deed).1.form? = some form.released)
    (view : k.SameView (k.enact deed).1)
    (issued : (k.enact deed).2 = [])

/-- A deed that changes nothing on the screen. -/
theorem Turns.of_place {deed : Deed} (h : k.form? = some form)
    (place : (k.enact deed).1.place = k.place)
    (silent : ∀ issued ∈ (k.enact deed).2, issued.sentFrom = none)
    (quiet : ∀ outcome, deed = .come outcome → outcome.releases ≠ some k.shown) :
    k.Turns form deed :=
  .stays form ((form?_of_place place).trans h) (.of_place place) rfl silent quiet

/-- A form is sent that `put` keeps on the screen. -/
theorem Turns.of_submit {α : Type} {deed : Deed} {put : Form → Core}
    {filled : Except (List Field) α} {call : α → Api.Call} (h : k.form? = some form)
    (faces : k.Faces view) (enact : k.enact deed = k.submit put form filled call)
    (shows : ∀ f, (put f).form? = some f) (same : ∀ f, k.SameView (put f))
    (session : ∀ f, (put f).session = k.session)
    (sentFrom : ∀ payload (issued : Issued), issued.call = call payload →
      issued.sentFrom = some view)
    (about : ∀ payload revision, filled = .ok payload → call payload = .update revision →
      k.edited?.map Server.id = some revision.id)
    (isNew : ∀ outcome, deed ≠ .come outcome) : k.Turns form deed := by
  unfold submit at enact
  split at enact
  · exact .of_place h (by rw [enact]) (by simp [enact]) fun outcome ho => absurd ho (isNew outcome)
  · rename_i hs
    cases filled with
    | error missing =>
      refine .stays { form with missing } ?_ ?_ rfl (by simp [enact]) fun outcome ho =>
        absurd ho (isNew outcome)
      · rw [enact]
        exact shows _
      · rw [enact]
        exact same _
    | ok payload =>
      obtain ⟨credential, hc⟩ := Session.exists_credential faces.isComplete
      obtain ⟨request, hr, hcall⟩ := issue_snd ((congrArg _ (session form.sent)).trans hc)
        (call payload)
      have place : ((k.enact deed).1).place = (put form.sent).place := by
        rw [enact]
        exact issue_place _ _
      refine .sends request ?_ ((same _).trans (.of_place place)) (Bool.eq_false_iff.2 hs)
        (by rw [enact]; exact hr) ?_ ?_ isNew
      · rw [form?_of_place place, shows]
      · rw [sentFrom payload request hcall, faces.shown]
      · intro revision hu
        exact about payload revision rfl (hcall.symm.trans hu)

/-- Only sending a form issues a call that sends one. -/
theorem silent {deed : Deed} (hd : deed ≠ .sendDetail) (hc : deed ≠ .sendCreate) :
    ∀ issued ∈ (k.enact deed).2, issued.sentFrom = none := by
  intro issued hi
  have cause := (enact_snd_of_mem hi).2
  unfold Issued.sentFrom
  cases hcall : issued.call with
  | list => rfl
  | delete => rfl
  | create => exact absurd (by simpa only [hcall, Causes] using cause) hc
  | update => exact absurd (by simpa only [hcall, Causes] using cause) hd

/-- A detail that is no longer edited shows no form. -/
theorem form?_finishEditing (h : k.shown = .detail) (server : Server) :
    { k with detail := k.detail.map fun d => Detail.finishEditing d server }.form? = none := by
  rw [form?_of_detail (by exact h)]
  cases k.detail <;> rfl

/-- What comes back leaves the form as it is, takes it from the screen, or releases it. -/
theorem turns_of_come (h : k.form? = some form) (outcome : Outcome) :
    k.Turns form (.come outcome) := by
  have silent : ∀ issued ∈ (k.enact (.come outcome)).2, issued.sentFrom = none :=
    silent (by simp) (by simp)
  -- an outcome that is not about the form, whatever it does elsewhere
  have elsewhere (same : (k.receive outcome).1.form? = k.form?)
      (view : k.SameView (k.receive outcome).1) (quiet : outcome.releases ≠ some k.shown) :
      k.Turns form (.come outcome) :=
    .stays form (same.trans h) view rfl silent fun other ho => by
      cases ho
      exact quiet
  have still (place : (k.receive outcome).1.place = k.place)
      (quiet : outcome.releases ≠ some k.shown) : k.Turns form (.come outcome) :=
    elsewhere (form?_of_place place) (.of_place place) quiet
  cases outcome with
  | fetched generation result =>
    exact still (k.receive_fetched_place generation result) (by simp [Outcome.releases])
  | deleted id result =>
    cases result with
    | error => exact still rfl (by simp [Outcome.releases])
    | ok => exact still (refetch_place k) (by simp [Outcome.releases])
  | created result =>
    cases result with
    | ok server => exact .leaves (form?_of_place (refetch_place _)) silent
    | error reason =>
      cases hs : k.shown with
      | list =>
        rw [form?_of_list hs] at h
        cases h
      | detail =>
        refine elsewhere ?_ ⟨rfl, rfl⟩ (by simp [Outcome.releases, hs])
        simp [form?, receive, hs]
      | create =>
        rw [form?_of_create hs] at h
        refine .releases _ rfl (by rw [hs]; rfl) ?_ ⟨rfl, rfl⟩ rfl
        simp [form?, enact, receive, hs, h]
  | updated result =>
    cases hs : k.shown with
    | list =>
      rw [form?_of_list hs] at h
      cases h
    | detail =>
      cases result with
      | ok server =>
        refine .leaves ?_ silent
        simp only [enact, receive]
        rw [form?_of_place (refetch_place _), form?_finishEditing hs]
      | error reason =>
        rw [form?_of_detail hs] at h
        obtain ⟨detail, hd, hf⟩ := Option.bind_eq_some_iff.1 h
        refine .releases _ rfl (by rw [hs]; rfl) ?_ ⟨rfl, ?_⟩ rfl
        · simp [form?, enact, receive, hs, hd, hf, Detail.mapForm]
        · simp [edited?, enact, receive, hs, hd, Detail.mapForm]
    | create =>
      cases result with
      | ok server =>
        have place : (k.receive (.updated (.ok server))).1.place = _ := refetch_place _
        have view : k.SameView { k with detail := k.detail.map fun d => d.finishEditing server } :=
          ⟨rfl, by simp [edited?, hs]⟩
        refine elsewhere ?_ (view.trans (.of_place place)) (by simp [Outcome.releases])
        rw [form?_of_place place]
        simp [form?, hs]
      | error reason =>
        refine elsewhere ?_ ⟨rfl, ?_⟩ (by simp [Outcome.releases, hs])
        · simp [form?, receive, hs]
        · simp [edited?, receive, hs]
  | remark text => exact still rfl (by simp [Outcome.releases])

/-- **What a deed does to the form on the screen.** -/
theorem turns {deed : Deed} (h : k.form? = some form) (hp : k.Permits deed) :
    k.Turns form deed := by
  have notList : k.shown ≠ .list := by
    intro hs
    rw [form?_of_list hs] at h
    cases h
  cases deed with
  | rest => exact .of_place h rfl (by simp [enact]) (by simp)
  | point cursor => exact absurd hp.1 notList
  | refresh => exact absurd hp.shown notList
  | visit cursor detail => exact absurd hp.1.shown notList
  | ask id => exact absurd hp.1.shown notList
  | draft => exact absurd hp.1.shown notList
  | startEditing =>
    rw [form?_of_opens hp trivial] at h
    cases h
  | leaveDetail => exact .leaves rfl (by simp [enact])
  | leaveCreate => exact .leaves rfl (by simp [enact])
  | answer choice =>
    exact .of_place h (k.enact_answer_place choice) (silent (by simp) (by simp)) (by simp)
  | fillDetail new =>
    obtain ⟨hf, detail, old, press, hd, ho, rfl⟩ := hp
    obtain rfl : old = form := by
      rw [form?_of_detail hf.shown, hd, Option.bind_some, ho] at h
      exact Option.some.inj h
    refine .stays _ ?_ ⟨rfl, ?_⟩ (Form.handleKey_isSubmitting _ press) (by simp [enact]) (by simp)
    · simp [form?, enact, hf.shown, hd]
    · simp [edited?, enact, hd]
  | fillCreate new =>
    obtain ⟨hf, old, press, ho, rfl⟩ := hp
    obtain rfl : old = form := by
      rw [form?_of_create hf.shown, ho] at h
      exact Option.some.inj h
    refine .stays _ ?_ ⟨rfl, rfl⟩ (Form.handleKey_isSubmitting _ press) (by simp [enact]) (by simp)
    simp [form?, enact, hf.shown]
  | sendDetail =>
    obtain ⟨hf, ⟨server, isEditing, kept⟩, old, hd, ho⟩ := hp
    obtain rfl : kept = some old := ho
    obtain rfl : old = form := by
      rw [form?_of_detail hf.shown, hd] at h
      exact Option.some.inj h
    cases ha : k.session.isAdmin with
    | false =>
      have he : k.enact .sendDetail = (k, []) := by simp [enact, ha]
      exact .of_place h (by rw [he]) (by simp [he]) (by simp)
    | true =>
      have he : k.enact .sendDetail =
          k.submit (fun f => { k with detail := some ⟨server, isEditing, some f⟩ }) old
            (old.revision server.id) .update := by simp [enact, ha, hd]
      refine .of_submit h hf he (fun f => form?_of_detail hf.shown) (fun f => ⟨rfl, ?_⟩)
        (fun f => rfl) ?_ ?_ (by simp)
      · simp [edited?, hd]
      · intro revision issued hi
        rw [Issued.sentFrom, hi]
      · intro revision other hr hu
        cases hu
        rw [edited?, hf.shown, hd]
        exact congrArg some (Form.id_of_revision hr).symm
  | sendCreate =>
    obtain ⟨hf, old, ho⟩ := hp
    obtain rfl : old = form := by
      rw [form?_of_create hf.shown, ho] at h
      exact Option.some.inj h
    have he : k.enact .sendCreate =
        k.submit (fun f => { k with create := some f }) old old.details .create := by
      simp only [enact, ho]
    refine .of_submit h hf he (fun f => form?_of_create hf.shown) (fun f => ⟨rfl, rfl⟩)
      (fun f => rfl) ?_ ?_ (by simp)
    · intro details issued hi
      rw [Issued.sentFrom, hi]
    · intro details revision _ hu
      cases hu
  | come outcome => exact turns_of_come h outcome

/-- What comes back brings no form to the screen. -/
theorem receive_form?_eq_none (h : k.form? = none) (outcome : Outcome) :
    (k.receive outcome).1.form? = none := by
  cases outcome with
  | fetched generation result => rwa [form?_of_place (k.receive_fetched_place generation result)]
  | deleted id result =>
    cases result with
    | ok => exact (form?_of_place (refetch_place k)).trans h
    | error => exact h
  | created result =>
    cases result with
    | ok server => exact form?_of_place (refetch_place _)
    | error reason => cases hs : k.shown <;> simp_all [form?, receive]
  | updated result =>
    have finished (server : Server) :
        { k with detail := k.detail.map fun d => Detail.finishEditing d server }.form? = none := by
      by_cases hs : k.shown = .detail
      · exact form?_finishEditing hs server
      · cases hk : k.shown <;> simp_all [form?]
    cases result with
    | ok server => exact (form?_of_place (refetch_place _)).trans (finished server)
    | error reason =>
      cases hs : k.shown <;> cases hd : k.detail <;> simp_all [form?, receive, Detail.mapForm]
  | remark text => exact h

/-- **A form that comes to the screen is a new one**: it was just opened, and nothing of an earlier
form is left in it. -/
theorem isUntouched_of_form? {deed : Deed} (hp : k.Permits deed) (h : k.form? = none)
    (hn : (k.enact deed).1.form? = some form) : deed.Opens ∧ form.IsUntouched := by
  have still (place : (k.enact deed).1.place = k.place) : False := by
    rw [form?_of_place place, h] at hn
    cases hn
  cases deed with
  | rest => exact (still rfl).elim
  | point cursor => exact (still rfl).elim
  | ask id => exact (still rfl).elim
  | refresh => exact (still (issue_place k .list)).elim
  | answer choice => exact (still (k.enact_answer_place choice)).elim
  | leaveDetail => cases hn
  | leaveCreate => cases hn
  | draft =>
    cases hn
    exact ⟨trivial, .inl rfl⟩
  | visit cursor detail =>
    obtain ⟨-, -, server, editing, -, rfl⟩ := hp
    have hn : (k.opened server.id editing).form = some form := hn
    refine ⟨by rw [Deed.Opens, hn]; rfl, .inr ?_⟩
    unfold opened at hn
    split at hn
    · cases hn
      exact ⟨_, rfl⟩
    · cases hn
  | startEditing =>
    obtain ⟨hf, -, detail, hd, -⟩ := hp
    rw [form?_of_detail (by exact hf.shown), enact, hd] at hn
    cases hn
    exact ⟨trivial, .inr ⟨_, rfl⟩⟩
  | fillDetail new =>
    obtain ⟨hf, detail, old, -, hd, ho, -⟩ := hp
    simp [form?_of_detail hf.shown, hd, ho] at h
  | fillCreate new =>
    obtain ⟨hf, old, -, ho, -⟩ := hp
    simp [form?_of_create hf.shown, ho] at h
  | sendDetail =>
    obtain ⟨hf, detail, old, hd, ho⟩ := hp
    simp [form?_of_detail hf.shown, hd, ho] at h
  | sendCreate =>
    obtain ⟨hf, old, ho⟩ := hp
    simp [form?_of_create hf.shown, ho] at h
  | come outcome =>
    rw [enact, receive_form?_eq_none h outcome] at hn
    cases hn

end Core

theorem State.core_form? (s : State) : s.core.form? = s.form? := by
  cases hv : s.view.content <;> simp only [Core.form?, State.form?, core, hv, Content.route]

namespace Course

/-- A form is on the screen from one moment to another, without a break. -/
def HoldsForm (c : Course) (m n : Nat) : Prop :=
  ∀ k, m ≤ k → k ≤ n → (c.state k).form?.isSome = true

/-- A step sends the form on the screen. -/
structure Sends (c : Course) (n : Nat) (form : Form) (request : Issued) : Prop where
  before : (c.state n).form? = some form
  isFree : form.isSubmitting = false
  after : (c.state (n + 1)).form? = some form.sent
  issued : c.issued (n + 1) = [request]
  sentFrom : request.sentFrom = some (c.core n).shown
  about : ∀ revision, request.call = .update revision →
    (c.core n).edited?.map Server.id = some revision.id

variable {c : Course} {m n : Nat} {form : Form} {request : Issued}

theorem core_form? (c : Course) (n : Nat) : (c.core n).form? = (c.state n).form? :=
  State.core_form? _

/-- What is on the screen after a deed. -/
theorem Takes.form? {deed : Deed} (h : c.Takes n deed) :
    (c.state (n + 1)).form? = ((c.core n).enact deed).1.form? := by
  rw [← core_form?, h.core]

theorem turns (h : (c.state n).form? = some form) :
    ∃ deed, c.Takes n deed ∧ (c.core n).Turns form deed := by
  obtain ⟨deed, hd⟩ := c.step n
  exact ⟨deed, hd, Core.turns ((core_form? c n).trans h) hd.permits⟩

/-- A call that sends a form sends the one on the screen. -/
theorem exists_sends (hi : request ∈ c.issued (n + 1)) (hs : request.sentFrom ≠ none) :
    ∃ form, c.Sends n form request := by
  obtain ⟨deed, hd⟩ := c.step n
  rw [hd.issued] at hi
  have hf : ∃ form, (c.core n).form? = some form := by
    by_cases hdetail : deed = .sendDetail
    · subst hdetail
      obtain ⟨hf, detail, form, hk, ho⟩ := hd.permits
      exact ⟨form, by rw [Core.form?_of_detail hf.shown, hk, Option.bind_some, ho]⟩
    by_cases hcreate : deed = .sendCreate
    · subst hcreate
      obtain ⟨hf, form, ho⟩ := hd.permits
      exact ⟨form, (Core.form?_of_create hf.shown).trans ho⟩
    exact absurd (Core.silent hdetail hcreate request hi) hs
  obtain ⟨form, hf⟩ := hf
  cases Core.turns hf hd.permits with
  | leaves left silent => exact absurd (silent request hi) hs
  | stays new shows view isSubmitting silent quiet => exact absurd (silent request hi) hs
  | releases outcome come releases shows view issued => simp [issued] at hi
  | sends other shows view isFree issued sentFrom about isNew =>
    rw [issued, List.mem_singleton] at hi
    subst hi
    exact ⟨form, (core_form? c n).symm.trans hf, isFree, hd.form?.trans shows,
      hd.issued.trans issued, sentFrom, about⟩

/-- A step opens a form. -/
def OpensForm (c : Course) (n : Nat) : Prop :=
  ∃ deed, c.Takes n deed ∧ deed.Opens

/-- **What is on the screen without a break is one form**: it is the one that was opened last. -/
theorem holdsForm_iff (hmn : m ≤ n) : c.HoldsForm m n ↔
    (c.state n).form?.isSome = true ∧ ∀ k, m ≤ k → k < n → ¬c.OpensForm k := by
  constructor
  · intro h
    refine ⟨h n hmn (Nat.le_refl n), fun k hm hk => ?_⟩
    rintro ⟨deed, hd, ho⟩
    have hf := h k hm (Nat.le_of_lt hk)
    rw [← core_form?, Core.form?_of_opens hd.permits ho] at hf
    cases hf
  · rintro ⟨hn, quiet⟩
    induction hmn with
    | refl =>
      intro k hm hk
      rwa [Nat.le_antisymm hk hm]
    | @step n hmn ih =>
      have before : (c.state n).form?.isSome = true := by
        by_cases hb : (c.state n).form?.isSome = true
        · exact hb
        · rw [← core_form?, Option.not_isSome_iff_eq_none] at hb
          obtain ⟨form, hf⟩ := Option.isSome_iff_exists.1 hn
          obtain ⟨deed, hd⟩ := c.step n
          rw [hd.form?] at hf
          exact absurd ⟨deed, hd, (Core.isUntouched_of_form? hd.permits hb hf).1⟩
            (quiet n hmn (Nat.lt_succ_self n))
      intro k hm hk
      rcases Nat.le_succ_iff.1 hk with hk | rfl
      · exact ih before (fun j hj hjn => quiet j hj (Nat.lt_succ_of_lt hjn)) k hm hk
      · exact hn

/-- As long as a form is on the screen, the view stays the same. -/
theorem HoldsForm.sameView (h : c.HoldsForm m n) (hmn : m ≤ n) :
    (c.core m).SameView (c.core n) := by
  induction hmn with
  | refl => exact ⟨rfl, rfl⟩
  | @step n hmn ih =>
    refine (ih fun k hm hn => h k hm (Nat.le_succ_of_le hn)).trans ?_
    obtain ⟨form, hf⟩ := Option.isSome_iff_exists.1 (h n hmn (Nat.le_succ n))
    obtain ⟨deed, hd, ht⟩ := turns hf
    have hnext := h (n + 1) (Nat.le_succ_of_le hmn) (Nat.le_refl _)
    rw [hd.form?] at hnext
    rw [hd.core]
    cases ht with
    | leaves left => simp [left] at hnext
    | stays _ _ view => exact view
    | sends _ _ view => exact view
    | releases _ _ _ _ view => exact view

/-- A break is a moment without a form on the screen. -/
theorem exists_of_not_holdsForm (h : ¬c.HoldsForm m n) :
    ∃ k, m ≤ k ∧ k ≤ n ∧ (c.state k).form? = none := by
  simp only [HoldsForm, Classical.not_forall, Bool.not_eq_true, Option.isSome_eq_false_iff,
    Option.isNone_iff_eq_none] at h
  obtain ⟨k, hm, hn, hk⟩ := h
  exact ⟨k, hm, hn, hk⟩

/-- An administrator edits a server, sends the form and leaves it, and then edits another server. -/
def turningAway : List Happening :=
  [.arrival 0 (.fetched 1 (.ok [sample "a", sample "b"])), .press (.char 'e'), .save,
    .press .escape, .press .down, .press (.char 'e')]

/-- The request of a sample that is sent as it is. -/
def sampleUpdate (id : String) : Issued :=
  .update "token" ⟨id, (sample id).details⟩

end Course

end McpConsole.Console
