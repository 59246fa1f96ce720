import McpConsole.Proofs.Console.Course

/-!
# Where the user is

The route, the view on the screen, the server that is shown alone and the form of a new server
belong together: the view is that of the route, and what a route shows is there as long as the user
is on it. `Core.RouteAgrees` says so, and every deed keeps it. What was shown is gone once the user
has left the route, with one exception. The answer to the form of a new server takes the user to the
list from wherever they are by then, and a server that was shown alone is kept behind.
`Course.route_agrees_iff` says that it is the only one.
-/

namespace McpConsole.Console

namespace Detail

/-- A server is edited just when there is a form of it. -/
def FormAgrees (d : Detail) : Prop :=
  d.isEditing = d.form.isSome

theorem formAgrees_viewing (server : Server) : (viewing server).FormAgrees := rfl

theorem formAgrees_editing (server : Server) : (editing server).FormAgrees := rfl

theorem FormAgrees.mapForm {d : Detail} (h : d.FormAgrees) (change : Form → Form) :
    (d.mapForm change).FormAgrees := by
  rw [FormAgrees, Detail.mapForm, Option.isSome_map]
  exact h

end Detail

/-- Whether a deed takes the user to another route. -/
def Deed.isMove : Deed → Bool
  | .visit _ _ => true
  | .draft => true
  | .leaveDetail => true
  | .leaveCreate => true
  | .come (.created (.ok _)) => true
  | _ => false

namespace Core

/-- A core in which the user is where they were in another one. -/
structure StaysAt (k l : Core) : Prop where
  route : l.route = k.route
  shown : l.shown = k.shown
  create : l.create.isSome = k.create.isSome
  detail : l.detail.isSome = k.detail.isSome
  form : (∀ d, k.detail = some d → d.FormAgrees) → ∀ d, l.detail = some d → d.FormAgrees

/-- The view is that of the route, and what the route shows is there. -/
structure RouteAgrees (k : Core) : Prop where
  shown : k.shown = k.route
  create : k.route = .create ↔ k.create.isSome = true
  detail : k.route = .detail → k.detail.isSome = true
  form : ∀ d, k.detail = some d → d.FormAgrees

/-- A server that was shown alone is kept behind. -/
def KeepsBehind (k : Core) : Prop :=
  k.detail.isSome = true ∧ k.route ≠ .detail

variable {k l m : Core} {deed : Deed}

/-! ### Staying on a route -/

theorem StaysAt.of_place (h : l.place = k.place) : k.StaysAt l := by
  obtain ⟨hr, hs, hd, hc⟩ := place_eq_iff.1 h
  exact ⟨hr, hs, by rw [hc], by rw [hd], fun hf d hl => hf d (hd ▸ hl)⟩

theorem StaysAt.trans (h : k.StaysAt l) (h' : l.StaysAt m) : k.StaysAt m where
  route := h'.route.trans h.route
  shown := h'.shown.trans h.shown
  create := h'.create.trans h.create
  detail := h'.detail.trans h.detail
  form hf := h'.form (h.form hf)

/-- Changing the server that is shown alone. -/
theorem StaysAt.of_map {change : Detail → Detail} (h : ∀ d, d.FormAgrees → (change d).FormAgrees) :
    k.StaysAt { k with detail := k.detail.map change } where
  route := rfl
  shown := rfl
  create := rfl
  detail := Option.isSome_map
  form hf d hd := by
    obtain ⟨old, ho, rfl⟩ := Option.map_eq_some_iff.1 hd
    exact h old (hf old ho)

/-- Filling in the form of a new server. -/
theorem StaysAt.of_create {form : Option Form} (h : form.isSome = k.create.isSome) :
    k.StaysAt { k with create := form } :=
  ⟨rfl, rfl, h, rfl, id⟩

/-- Filling in the form of a server that is edited. -/
theorem StaysAt.of_detail {d : Detail} {old : Form} (hd : k.detail = some d)
    (ho : d.form = some old) (new : Form) :
    k.StaysAt { k with detail := some { d with form := some new } } where
  route := rfl
  shown := rfl
  create := rfl
  detail := by rw [hd]; rfl
  form hf other he := by
    cases he
    have hold := hf d hd
    rw [Detail.FormAgrees, ho] at hold
    exact hold

/-- Sending a form leaves the user where they are, if keeping the form does. -/
theorem StaysAt.submit {α : Type} {put : Form → Core} (h : ∀ form, k.StaysAt (put form))
    (form : Form) (filled : Except (List Field) α) (call : α → Api.Call) :
    k.StaysAt (k.submit put form filled call).1 := by
  unfold Core.submit
  split
  · exact .of_place rfl
  · cases filled with
    | ok payload => exact (h _).trans (.of_place (issue_place _ _))
    | error missing => exact h _

theorem receive_staysAt {outcome : Outcome} (h : Deed.isMove (.come outcome) = false) :
    k.StaysAt (k.receive outcome).1 := by
  cases outcome with
  | fetched generation result => exact .of_place (k.receive_fetched_place generation result)
  | deleted id result =>
    cases result with
    | ok => exact .of_place (refetch_place k)
    | error => exact .of_place rfl
  | created result =>
    cases result with
    | ok server => cases h
    | error reason => exact .of_create Option.isSome_map
  | updated result =>
    cases result with
    | ok server =>
      exact (StaysAt.of_map fun _ _ => Detail.formAgrees_viewing server).trans (.of_place (refetch_place _))
    | error reason => exact .of_map fun _ hd => hd.mapForm _
  | remark text => exact .of_place rfl

/-- **Only few deeds take the user to another route.** -/
theorem enact_staysAt (hp : k.Permits deed) (h : deed.isMove = false) :
    k.StaysAt (k.enact deed).1 := by
  cases deed with
  | visit => cases h
  | draft => cases h
  | leaveDetail => cases h
  | leaveCreate => cases h
  | rest => exact .of_place rfl
  | point => exact .of_place rfl
  | ask => exact .of_place rfl
  | refresh => exact .of_place (issue_place k .list)
  | answer choice => exact .of_place (k.enact_answer_place choice)
  | startEditing => exact .of_map fun d _ => Detail.formAgrees_editing d.server
  | fillDetail form =>
    obtain ⟨-, d, old, -, hd, ho, -⟩ := hp
    have he : (k.enact (.fillDetail form)).1 =
        { k with detail := some { d with form := some form } } := by
      simp only [enact, hd, Option.map_some]
    rw [he]
    exact .of_detail hd ho form
  | fillCreate form =>
    obtain ⟨-, old, -, ho, -⟩ := hp
    exact .of_create (by rw [ho]; rfl)
  | sendDetail =>
    obtain ⟨-, d, form, hd, hf⟩ := hp
    simp only [enact, hd]
    split
    · rename_i he
      cases he
      simp only [hf]
      exact .submit (.of_detail hd hf) _ _ _
    · exact .of_place rfl
  | sendCreate =>
    obtain ⟨-, form, hf⟩ := hp
    simp only [enact, hf]
    exact .submit (fun _ => .of_create (by rw [hf]; rfl)) _ _ _
  | come outcome => exact receive_staysAt h

/-! ### Changing the route -/

/-- After a new server was made, the list is shown. What is shown alone stays behind. -/
theorem receive_created_place (k : Core) (server : Server) :
    (k.receive (.created (.ok server))).1.place = (.list, .list, k.detail, none) :=
  refetch_place _

/-- What takes the user elsewhere is their own doing, or a new server. -/
theorem cases_of_isMove (h : deed.isMove = true) :
    (∃ cursor detail, deed = .visit cursor detail) ∨ deed = .draft ∨ deed = .leaveDetail ∨
      deed = .leaveCreate ∨ ∃ server, deed = .come (.created (.ok server)) := by
  cases deed with
  | visit cursor detail => exact .inl ⟨cursor, detail, rfl⟩
  | draft => exact .inr (.inl rfl)
  | leaveDetail => exact .inr (.inr (.inl rfl))
  | leaveCreate => exact .inr (.inr (.inr (.inl rfl)))
  | come outcome =>
    cases outcome with
    | created result =>
      cases result with
      | ok server => exact .inr (.inr (.inr (.inr ⟨server, rfl⟩)))
      | error => cases h
    | _ => cases h
  | _ => cases h

namespace RouteAgrees

theorem of_staysAt (h : k.RouteAgrees) (hl : k.StaysAt l) : l.RouteAgrees where
  shown := by rw [hl.shown, hl.route, h.shown]
  create := by rw [hl.route, hl.create, h.create]
  detail := by
    rw [hl.route, hl.detail]
    exact h.detail
  form := hl.form h.form

/-- There is no form of a new server on another route. -/
theorem create_eq_none (h : k.RouteAgrees) (hr : k.shown ≠ .create) : k.create = none := by
  rw [← Option.not_isSome_iff_eq_none, ← h.create, ← h.shown]
  exact hr

/-- On the list, no server is shown alone. -/
theorem of_list (h : k.RouteAgrees) (hl : l.place = (.list, .list, k.detail, none)) :
    l.RouteAgrees := by
  obtain ⟨hr, hs, hd, hc⟩ := place_eq_iff.1 hl
  refine ⟨hs.trans hr.symm, by simp [hr, hc], fun he => ?_, fun d hl => h.form d (hd ▸ hl)⟩
  cases hr.symm.trans he

/-- **Every deed keeps the view with the route.** -/
theorem enact (h : k.RouteAgrees) (hp : k.Permits deed) : (k.enact deed).1.RouteAgrees := by
  cases hm : deed.isMove with
  | false => exact h.of_staysAt (enact_staysAt hp hm)
  | true =>
    obtain ⟨cursor, d, rfl⟩ | rfl | rfl | rfl | ⟨server, rfl⟩ := cases_of_isMove hm
    · -- visit
      obtain ⟨hf, -, server, editing, -, rfl⟩ := hp
      have hc := h.create_eq_none (by simp [hf.shown])
      refine ⟨rfl, by simp [Core.enact, turnedTo, hc], fun _ => rfl, ?_⟩
      rintro d ⟨⟩
      unfold opened
      split
      · exact Detail.formAgrees_editing _
      · exact Detail.formAgrees_viewing _
    · -- draft
      refine ⟨rfl, by simp [Core.enact, turnedTo], fun he => ?_, h.form⟩
      cases he
    · -- leaveDetail
      have hc := h.create_eq_none (by simp [hp.shown])
      refine ⟨rfl, by simp [Core.enact, turnedTo, hc], fun he => ?_, fun d hd => ?_⟩
      · cases he
      · cases hd
    · -- leaveCreate
      exact h.of_list rfl
    · -- a new server
      exact h.of_list (k.receive_created_place server)

end RouteAgrees

/-- **Only the answer about a new server leaves one behind** that was shown alone, until a server is
shown alone again. -/
theorem keepsBehind_enact (h : k.RouteAgrees) (hp : k.Permits deed) :
    (k.enact deed).1.KeepsBehind ↔ (k.enact deed).1.route ≠ .detail ∧
      (k.KeepsBehind ∨ k.route = .detail ∧ ∃ server, deed = .come (.created (.ok server))) := by
  unfold KeepsBehind
  cases hm : deed.isMove with
  | false =>
    have hs := enact_staysAt hp hm
    have hn : ∀ server, deed ≠ .come (.created (.ok server)) := by
      rintro server rfl
      cases hm
    rw [hs.route, hs.detail]
    simp only [hn, exists_false, and_false, or_false]
    exact ⟨fun hb => ⟨hb.2, hb⟩, fun hb => hb.2⟩
  | true =>
    obtain ⟨cursor, d, rfl⟩ | rfl | rfl | rfl | ⟨server, rfl⟩ := cases_of_isMove hm
    · -- visit
      simp [Core.enact, turnedTo]
    · -- draft
      have hr : k.route = .list := h.shown ▸ hp.1.shown
      simp [Core.enact, turnedTo, hr]
    · -- leaveDetail
      have hr : k.route = .detail := h.shown ▸ hp.shown
      simp [Core.enact, turnedTo, hr]
    · -- leaveCreate
      have hr : k.route = .create := h.shown ▸ hp.shown
      simp [Core.enact, turnedTo, hr]
    · -- a new server
      obtain ⟨hr, -, hd, -⟩ := place_eq_iff.1 (k.receive_created_place server)
      rw [Core.enact, hr, hd]
      by_cases hk : k.route = .detail
      · simp [hk, h.detail hk]
      · simp [hk]

end Core

namespace Course

/-- The answer to the form of a new server came while a server was shown alone, and none was shown
alone since. -/
structure Strays (c : Course) (m n : Nat) : Prop where
  earlier : m < n
  created : ∃ place server, c.happening m = .arrival place (.created (.ok server))
  before : (c.state m).app.route = .detail
  since : ∀ k, m < k → k ≤ n → (c.state k).app.route ≠ .detail

variable (c : Course)

theorem core_zero_place : (c.core 0).place = (.list, .list, none, none) := by
  obtain ⟨queries, h⟩ := c.exists_core_zero
  rw [h]
  rfl

theorem routeAgrees (n : Nat) : (c.core n).RouteAgrees := by
  induction n with
  | zero =>
    obtain ⟨hr, hs, hd, hc⟩ := Core.place_eq_iff.1 c.core_zero_place
    exact ⟨hs.trans hr.symm, by simp [hr, hc], by simp [hr], by simp [hd]⟩
  | succ n ih =>
    obtain ⟨deed, hd⟩ := c.step n
    rw [hd.core]
    exact ih.enact hd.permits

variable {c} {m n : Nat}

theorem Strays.succ (h : c.Strays m n) (hr : (c.state (n + 1)).app.route ≠ .detail) :
    c.Strays m (n + 1) where
  earlier := Nat.lt_succ_of_lt h.earlier
  created := h.created
  before := h.before
  since k hm hk := by
    rcases Nat.le_succ_iff.1 hk with hk | rfl
    · exact h.since k hm hk
    · exact hr

/-- A server is kept behind just when the user has strayed from it. -/
theorem keepsBehind_iff : (c.core n).KeepsBehind ↔ ∃ m, c.Strays m n := by
  induction n with
  | zero =>
    obtain ⟨-, -, hd, -⟩ := Core.place_eq_iff.1 c.core_zero_place
    refine ⟨fun h => ?_, fun ⟨m, hm⟩ => absurd hm.earlier (Nat.not_lt_zero m)⟩
    rw [Core.KeepsBehind, hd] at h
    cases h.1
  | succ n ih =>
    obtain ⟨deed, hd⟩ := c.step n
    have hs := Core.keepsBehind_enact (c.routeAgrees n) hd.permits
    rw [← hd.core, ih] at hs
    refine hs.trans ⟨fun ⟨hr, hb⟩ => ?_, fun ⟨m, hm⟩ => ?_⟩
    · rcases hb with ⟨m, hm⟩ | ⟨hk, server, rfl⟩
      · exact ⟨m, hm.succ hr⟩
      · obtain ⟨place, he⟩ := (hd.comes _).1 rfl
        refine ⟨n, Nat.lt_succ_self n, ⟨place, server, he⟩, hk, fun k hn hk => ?_⟩
        rw [Nat.le_antisymm hk hn]
        exact hr
    · refine ⟨hm.since (n + 1) hm.earlier (Nat.le_refl _), ?_⟩
      rcases Nat.lt_succ_iff_lt_or_eq.1 hm.earlier with hlt | rfl
      · exact .inl ⟨m, hlt, hm.created, hm.before, fun k hk hn => hm.since k hk (by omega)⟩
      · obtain ⟨place, server, he⟩ := hm.created
        exact .inr ⟨hm.before, server, (hd.comes _).2 ⟨place, he⟩⟩

/-- **The route and the views agree** in every course, but for one thing: the view on the screen is
that of the route, the form of a new server is there just on its route, a server is edited just when
there is a form of it, and on its route there is a server to be shown alone. It is there on no
other route, unless the answer to the form of a new server has taken the user away from it. -/
theorem route_agrees_iff (c : Course) (n : Nat) :
    (c.state n).view.content.route = (c.state n).app.route ∧
    ((c.state n).app.route = .create ↔ (c.state n).app.create.isSome = true) ∧
    (∀ detail, (c.state n).app.detail = some detail →
      (detail.isEditing = true ↔ detail.form.isSome = true)) ∧
    ((c.state n).app.route = .detail → (c.state n).app.detail.isSome = true) ∧
    (((c.state n).app.detail.isSome = true → (c.state n).app.route = .detail) ↔
      ¬∃ m, c.Strays m n) := by
  have h := c.routeAgrees n
  refine ⟨h.shown, h.create, fun d hd => by rw [h.form d hd], h.detail, ?_⟩
  rw [← keepsBehind_iff]
  simp only [Core.KeepsBehind, ne_eq, not_and, Decidable.not_not]
  rfl

/-- An administrator sends the form of a new server and leaves it, and opens a server. Then the
answer to the form comes. -/
def astray : Course :=
  ofList administrator
    [.arrival 0 (.fetched 1 (.ok [sample "a"])), .press (.char 'n'), .press (.char 'x'),
      .press .tab, .press .tab, .press (.char 'u'), .save, .press .escape, .press .enter,
      .arrival 0 (.created (.ok (sample "b")))]

/-- The list is shown, and the server is kept behind. -/
theorem route_disagrees_astray :
    astray.IsFaithful ∧ astray.session.isComplete = true ∧
      (astray.state 9).app.route = .detail ∧ (astray.state 10).app.route = .list ∧
      (astray.state 10).app.detail = some (.viewing (sample "a")) :=
  ⟨isFaithful_ofList (by decide +kernel), by decide +kernel, by decide +kernel, by decide +kernel,
    by decide +kernel⟩

end Course

end McpConsole.Console
