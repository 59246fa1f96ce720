import Mathlib.Data.Nat.Dist
import McpConsole.Proofs.Console.Course
import McpConsole.Proofs.Query.Store

/-!
# The cursor stays in the list

The list is replaced whenever a fetch comes back, and may have grown, shrunk or vanished; keys, the
wheel and clicks move the cursor; and the number of rows follows the size of the screen. `Cursor.IsIn`
says what survives all of that: a row is selected unless there is none, and it is a row of the list, as
is the first one that is shown.

To the list and its cursor a deed does one of three things (`Core.enact_listing`): none, a move within
the same list, or another list with the cursor brought into it. Each keeps `Cursor.IsIn`, so that it
holds at every moment of every course (`Course.cursor_isIn`). Drawing finds the cursor in the list
therefore, and has only to scroll; `Course.cursor_isInView` says how far.
-/

namespace McpConsole.Console

open McpConsole.Query McpConsole.Screen

/-! ### The cursor -/

namespace Cursor

/-- The cursor is in a list of a length. -/
structure IsIn (c : Cursor) (length : Nat) : Prop where
  selected : c.selected = none ↔ length = 0
  row : ∀ row, c.selected = some row → row < length
  /-- What is shown first is a row of the list too, if there is one. -/
  offset : c.offset ≤ length - 1

variable {c d : Cursor} {length : Nat}

theorem normalize_isIn (c : Cursor) (length : Nat) : (c.normalize length).IsIn length := by
  by_cases hlength : length = 0
  · constructor <;> simp [normalize, hlength]
  · constructor
    · simp [normalize, hlength]
    · intro row hrow
      simp only [normalize, hlength, if_false, Option.some.injEq] at hrow
      omega
    · simp only [normalize]
      split <;> omega

/-- A cursor that is in the list needs not be brought into it. -/
theorem IsIn.normalize_eq (h : c.IsIn length) : c.normalize length = c := by
  have hselected : (c.normalize length).selected = c.selected := by
    cases hc : c.selected with
    | none => simp [normalize, h.selected.1 hc]
    | some row =>
      have hrow := h.row row hc
      have hlength : length ≠ 0 := by omega
      simp only [normalize, hlength, if_false, hc, Option.getD_some, Option.some.injEq]
      omega
  have hoffset : (c.normalize length).offset = c.offset := by
    have := h.offset
    simp only [normalize]
    split <;> omega
  rw [normalize, Cursor.mk.injEq]
  exact ⟨hselected, hoffset, rfl, rfl⟩

/-- Scrolling shows a row of the list first if it did before and the selected row is one. -/
theorem scrolled_le {offset row height last : Nat} (hoffset : offset ≤ last) (hrow : row ≤ last)
    (hheight : height ≠ 0) : scrolled offset row height ≤ last := by
  unfold scrolled
  split
  · exact hrow
  · split <;> omega

theorem IsIn.ensureVisible (h : c.IsIn length) (height : Nat) :
    (c.ensureVisible height).IsIn length := by
  unfold Cursor.ensureVisible
  split
  · rename_i row hrow
    split
    · exact h
    · rename_i hheight
      have hlast : row ≤ length - 1 := Nat.le_sub_one_of_lt (h.row row hrow)
      exact ⟨h.selected, h.row, scrolled_le h.offset hlast hheight⟩
  · exact h

/-- Another row is selected in the place of the one that is, by a step that stays in the list. -/
theorem IsIn.select (h : c.IsIn length) {step : Nat → Nat}
    (hstep : ∀ row, row < length → step row < length) :
    ({ c with
      selected := if length = 0 then none else some ((c.selected.map step).getD 0) } :
        Cursor).IsIn length := by
  refine ⟨by simp, fun row hrow => ?_, h.offset⟩
  have hlength : length ≠ 0 := by
    rintro rfl
    cases hrow
  simp only [hlength, if_false, Option.some.injEq] at hrow
  subst hrow
  cases hc : c.selected with
  | none => exact Nat.pos_of_ne_zero hlength
  | some old => exact hstep old (h.row old hc)

/-- However the cursor is moved, it stays in the list. -/
theorem Moves.isIn (hm : c.Moves length d) (h : c.IsIn length) : d.IsIn length := by
  cases hm with
  | previous => exact h.select fun row hrow => by omega
  | next => exact h.select fun row hrow => by omega
  | @row index hindex =>
    refine ⟨?_, ?_, h.offset⟩
    · have hlength : length ≠ 0 := by omega
      simp [hlength]
    · rintro row ⟨⟩
      exact hindex
  | arrange rows =>
    have hv := (c.normalize_isIn length).ensureVisible rows.height
    exact ⟨hv.selected, hv.row, hv.offset⟩

/-- Of the numbers from `low` to `high`, `near` is the nearest to `aim`. -/
structure IsNearest (low high aim near : Nat) : Prop where
  low_le : low ≤ near
  le_high : near ≤ high
  dist_le : ∀ other, low ≤ other → other ≤ high → Nat.dist near aim ≤ Nat.dist other aim

/-- The rows that can be shown first so that a row is seen go from the one `height - 1` rows above
to the row itself; scrolling takes the nearest. -/
theorem scrolled_isNearest (offset row : Nat) {height : Nat} (h : 0 < height) :
    IsNearest (row + 1 - height) row offset (scrolled offset row height) := by
  unfold scrolled
  split
  · exact ⟨by omega, by omega, fun other _ _ => by unfold Nat.dist; omega⟩
  · split
    · exact ⟨by omega, by omega, fun other _ _ => by unfold Nat.dist; omega⟩
    · exact ⟨by omega, by omega, fun other _ _ => by unfold Nat.dist; omega⟩

/-- From one drawing of a list to the next, among `height` rows: the selected row is the same and
is shown, and as little was scrolled as could be. -/
structure ScrollsTo (c d : Cursor) (height length : Nat) : Prop where
  selected : d.selected = c.selected
  isShown : ∃ row, d.selected = some row ∧ d.offset ≤ row ∧ row < d.offset + height ∧
    IsNearest (row + 1 - height) row c.offset d.offset
  offset : d.offset < length

theorem IsIn.scrollsTo (h : c.IsIn length) {rows : Rect} (hrows : 0 < rows.height)
    (hlength : length ≠ 0) : c.ScrollsTo (c.arrange rows length) rows.height length := by
  obtain ⟨row, hrow⟩ : ∃ row, c.selected = some row :=
    Option.ne_none_iff_exists'.1 fun hc => hlength (h.selected.1 hc)
  have hdrawn : c.arrange rows length =
      { c with
        offset := scrolled c.offset row rows.height, rows, idColumn := (rows.x, idWidth) } := by
    simp only [arrange, h.normalize_eq, Cursor.ensureVisible, hrow, Nat.ne_of_gt hrows, if_false]
  have hnear := scrolled_isNearest c.offset row hrows
  have hlow := hnear.low_le
  have hhigh := hnear.le_high
  have hlast := h.row row hrow
  rw [hdrawn]
  exact ⟨rfl, ⟨row, hrow, hhigh, by dsimp only; omega, hnear⟩, by dsimp only; omega⟩

end Cursor

/-! ### The list and its cursor -/

namespace Core

/-- The servers that were fetched last, and the cursor among them. -/
def listing (k : Core) : List Server × Cursor :=
  (k.servers, k.cursor)

theorem listing_eq_iff {k : Core} {servers : List Server} {cursor : Cursor} :
    k.listing = (servers, cursor) ↔ k.servers = servers ∧ k.cursor = cursor := by
  simp only [listing, Prod.mk.injEq]

/-- The list stays what it is under another store with the same data. -/
theorem listing_of_data? {k : Core} {queries : Store (List Server)}
    (h : ∀ key, queries.data? key = k.queries.data? key) :
    { k with queries }.listing = k.listing := by
  have hdata : queries.data? = k.queries.data? := funext h
  simp only [listing, servers, hdata]

@[simp] theorem issue_listing (k : Core) (call : Api.Call) :
    (k.issue call).1.listing = k.listing := by
  unfold issue
  split
  · rfl
  · cases call with
    | list => exact listing_of_data? (Store.data?_begin _ _)
    | _ => rfl

@[simp] theorem refetch_listing (k : Core) : k.refetch.1.listing = k.listing := by
  unfold refetch
  split
  · rfl
  · rename_i key _
    have hstale : { k with queries := (k.queries.invalidate key).1 }.listing = k.listing :=
      listing_of_data? (Store.data?_invalidate k.queries key)
    dsimp only
    split
    · rw [issue_listing, hstale]
    · exact hstale

theorem Alike.listing {k l : Core} (h : k.Alike l) : l.listing = k.listing := by
  simp only [Core.listing, servers, h.session, h.queries, h.cursor]

/-- What comes back changes the list only if it is one, and brings the cursor into it then. -/
theorem receive_listing (k : Core) (outcome : Outcome) :
    (k.receive outcome).1.listing = k.listing ∨
      ∃ servers, (k.receive outcome).1.listing = (servers, k.cursor.normalize servers.length) := by
  obtain ⟨generation, result, _, _, rfl, -⟩ | ⟨-, l, he, hl⟩ | ⟨-, -, l, he, hl⟩ :=
    k.receive_cases outcome
  · simp only [receive]
    split
    · exact .inl rfl
    · split
      · exact .inr ⟨_, rfl⟩
      · exact .inl rfl
  · rw [he, refetch_listing]
    exact .inl hl.listing
  · rw [he]
    exact .inl hl.listing

/-- **What a deed does to the list and its cursor**: nothing, a move of the cursor within the list,
or another list with the cursor brought into it. -/
theorem enact_listing {k : Core} {deed : Deed} (hp : k.Permits deed) :
    (k.enact deed).1.listing = k.listing ∨
      (∃ cursor, k.cursor.Moves k.servers.length cursor ∧
        (k.enact deed).1.listing = (k.servers, cursor)) ∨
      ∃ servers, (k.enact deed).1.listing = (servers, k.cursor.normalize servers.length) := by
  cases deed with
  | point cursor => exact .inr (.inl ⟨cursor, hp.2, rfl⟩)
  | visit cursor detail =>
    obtain ⟨-, rfl | hm, -⟩ := hp
    · exact .inl rfl
    · exact .inr (.inl ⟨cursor, hm, rfl⟩)
  | come outcome => exact (k.receive_listing outcome).imp_right .inr
  | refresh => exact .inl (issue_listing k .list)
  | answer choice =>
    left
    simp only [enact]
    split
    · exact issue_listing _ _
    · rfl
  | sendDetail =>
    left
    obtain ⟨l, he | ⟨_, he⟩, hl⟩ := k.enact_sendDetail <;> rw [he]
    · exact hl.listing
    · exact (issue_listing _ _).trans hl.listing
  | sendCreate =>
    left
    obtain ⟨l, he | ⟨_, he⟩, hl⟩ := k.enact_sendCreate <;> rw [he]
    · exact hl.listing
    · exact (issue_listing _ _).trans hl.listing
  | _ => exact .inl rfl

/-- A deed leaves the cursor in the list. -/
theorem enact_isIn {k : Core} {deed : Deed} (h : k.cursor.IsIn k.servers.length)
    (hp : k.Permits deed) :
    (k.enact deed).1.cursor.IsIn (k.enact deed).1.servers.length := by
  obtain hl | ⟨cursor, hm, hl⟩ | ⟨servers, hl⟩ := enact_listing hp <;>
    obtain ⟨hservers, hcursor⟩ := listing_eq_iff.1 hl <;> rw [hservers, hcursor]
  · exact h
  · exact hm.isIn h
  · exact Cursor.normalize_isIn _ _

end Core

/-! ### Courses -/

/-- Drawing the list does no more to the list than to bring the cursor into view. -/
theorem State.arrange_listing {s : State} (screen : Rect)
    (hcomplete : s.app.session.isComplete = true) (hlist : s.view.content.route = .list) :
    (s.arrange screen).app.servers = s.app.servers ∧
      (s.arrange screen).app.cursor = s.app.cursor.arrange
        (listAreas (screenAreas screen).content s.app.session.isAdmin).rows
        s.app.servers.length := by
  rw [State.arrange, if_pos hcomplete, State.arrangeContent]
  split
  · exact ⟨rfl, rfl⟩
  · rename_i hview
    cases hc : s.view.content with
    | list controls => exact absurd hc (hview controls)
    | detail | create =>
      rw [hc] at hlist
      cases hlist

namespace Course

/-- **The cursor is in the list at every moment** of every course. -/
theorem cursor_isIn (c : Course) (n : Nat) : (c.core n).cursor.IsIn (c.core n).servers.length := by
  induction n with
  | zero =>
    -- nothing is known under any key until the first fetch comes back
    have hl : (c.core 0).listing = (State.start c.theme c.session).core.listing := by
      have h := congrArg Prod.fst c.core_zero
      dsimp only at h
      rw [h]
      split
      · exact Core.issue_listing _ _
      · rfl
    have hs : (State.start c.theme c.session).core.servers = [] := by
      rw [Core.servers]
      cases (State.start c.theme c.session).core.session.credential <;> rfl
    obtain ⟨hservers, hcursor⟩ := Core.listing_eq_iff.1 hl
    rw [hservers, hcursor, hs]
    exact ⟨by simp; rfl, by rintro _ ⟨⟩, Nat.zero_le _⟩
  | succ n ih =>
    obtain ⟨deed, hd⟩ := c.step n
    rw [hd.core]
    exact Core.enact_isIn ih hd.permits

/-- **The cursor is in the list, and in view once it is drawn.** At every moment of every course,
whatever lists have come back and however the cursor was moved, a row is selected unless the list is
empty, and it is a row of the list. When the list is drawn then, on a screen of any size, it stays the
selected row; and if the screen has room for any row at all, the selected one is shown, and what is
shown first is a row of the list and, of those that can be shown first so that the selected row is
seen, the nearest to the one before. This does not depend on how a screen is divided: it holds for
rows in any area. -/
theorem cursor_isInView (c : Course) (n : Nat) :
    let app := (c.state n).app
    (app.cursor.selected = none ↔ app.servers = []) ∧
      (∀ row, app.cursor.selected = some row → row < app.servers.length) ∧
      (∀ screen, c.happening n = .drawn screen → app.session.isComplete = true →
        (c.state n).view.content.route = .list →
        let drawn := (c.state (n + 1)).app
        let rows := (listAreas (screenAreas screen).content app.session.isAdmin).rows
        drawn.servers = app.servers ∧ drawn.cursor.rows = rows ∧
          (0 < rows.height → app.servers ≠ [] →
            app.cursor.ScrollsTo drawn.cursor rows.height app.servers.length)) ∧
      ∀ rows : Rect, 0 < rows.height → app.servers ≠ [] →
        app.cursor.ScrollsTo (app.cursor.arrange rows app.servers.length) rows.height
          app.servers.length := by
  have hin : (c.state n).app.cursor.IsIn (c.state n).app.servers.length := c.cursor_isIn n
  have hscrolls : ∀ rows : Rect, 0 < rows.height → (c.state n).app.servers ≠ [] →
      (c.state n).app.cursor.ScrollsTo
        ((c.state n).app.cursor.arrange rows (c.state n).app.servers.length) rows.height
        (c.state n).app.servers.length := fun rows hrows hne =>
    hin.scrollsTo hrows fun hlength => hne (List.length_eq_zero_iff.1 hlength)
  refine ⟨hin.selected.trans List.length_eq_zero_iff, hin.row, ?_, hscrolls⟩
  intro screen hdrawn hcomplete hlist
  have hstate : c.state (n + 1) = (c.state n).arrange screen := by
    simp only [state, stand, hdrawn, State.follow]
  obtain ⟨hservers, hcursor⟩ := State.arrange_listing screen hcomplete hlist
  dsimp only
  rw [hstate, hservers, hcursor]
  exact ⟨rfl, rfl, hscrolls _⟩

/-- The last of three servers is selected on a screen with room for one row. -/
def scrolling : Course :=
  ofList administrator
    [.arrival 0 (.fetched 1 (.ok [sample "a", sample "b", sample "c"])),
      .press .down, .press .down, .drawn ⟨0, 0, 78, 11⟩]

/-- Then the list is scrolled down by two rows. -/
theorem cursor_isInView_scrolled :
    (scrolling.state 3).app.cursor.offset = 0 ∧ (scrolling.state 4).app.cursor.offset = 2 ∧
      (scrolling.state 3).app.cursor.ScrollsTo (scrolling.state 4).app.cursor 1 3 := by
  obtain ⟨-, -, hdrawn, -⟩ := scrolling.cursor_isInView 3
  obtain ⟨-, -, hscrolls⟩ := hdrawn ⟨0, 0, 78, 11⟩ rfl (by decide +kernel) (by decide +kernel)
  have hrows : (listAreas (screenAreas ⟨0, 0, 78, 11⟩).content
      (scrolling.state 3).app.session.isAdmin).rows.height = 1 := by decide +kernel
  have hlength : (scrolling.state 3).app.servers.length = 3 := by decide +kernel
  rw [hrows, hlength] at hscrolls
  exact ⟨by decide +kernel, by decide +kernel,
    hscrolls Nat.one_pos (fun hnil => by simp [hnil] at hlength)⟩

end Course

end McpConsole.Console
