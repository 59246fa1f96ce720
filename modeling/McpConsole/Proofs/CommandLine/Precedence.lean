import McpConsole.CommandLine.Settings
import McpConsole.Proofs.Session.Missing

/-!
# Which value of a setting counts

The access token, the role and the user are each given, or else found or remembered. `IsFirst` says
which of two values counts: the first that is not missing. The program goes by whether a value is
given at all, and only then finds out that it is blank, so that a blank value takes the place of the
one behind it (`Shadows`). `settings_first_iff` says for each part of the session that the value that
counts is used just when it is not shadowed, and that nothing is used when it is.
-/

namespace McpConsole.CommandLine

open McpConsole.Session (IsMissing nonBlank_eq_none_iff)
open McpConsole.Text

/-- A value is the first of two that is not missing, or none if both are. -/
inductive IsFirst (given other : Option String) : Option String → Prop
  | given (h : ¬IsMissing given) : IsFirst given other given
  | other (hgiven : IsMissing given) (h : ¬IsMissing other) : IsFirst given other other
  | none (hgiven : IsMissing given) (hother : IsMissing other) : IsFirst given other none

/-- A blank value stands before one that is not missing. -/
def Shadows (given other : Option String) : Prop :=
  given ≠ none ∧ IsMissing given ∧ ¬IsMissing other

/-! ### Two values -/

theorem nonBlank_of_isMissing {value : Option String} (h : IsMissing value) :
    nonBlank value = none :=
  (nonBlank_eq_none_iff value).2 h

/-- What is not missing is kept as it is. -/
theorem nonBlank_of_not_isMissing {value : Option String} (h : ¬IsMissing value) :
    nonBlank value = value := by
  rw [← nonBlank_eq_none_iff, ← ne_eq, Option.ne_none_iff_exists'] at h
  obtain ⟨text, htext⟩ := h
  rw [htext, (Option.filter_eq_some_iff.1 htext).1]

/-- **There is one first value**: the first of what is kept. -/
theorem isFirst_iff {given other value : Option String} :
    IsFirst given other value ↔ value = (nonBlank given).or (nonBlank other) := by
  constructor
  · intro h
    cases h with
    | given h =>
      rw [nonBlank_of_not_isMissing h]
      cases given with
      | none => exact absurd (by nofun) h
      | some text => rfl
    | other hgiven h =>
      rw [nonBlank_of_isMissing hgiven, nonBlank_of_not_isMissing h, Option.none_or]
    | none hgiven hother =>
      rw [nonBlank_of_isMissing hgiven, nonBlank_of_isMissing hother, Option.none_or]
  · rintro rfl
    by_cases hgiven : IsMissing given
    · rw [nonBlank_of_isMissing hgiven, Option.none_or]
      by_cases hother : IsMissing other
      · rw [nonBlank_of_isMissing hother]
        exact .none hgiven hother
      · rw [nonBlank_of_not_isMissing hother]
        exact .other hgiven hother
    · rw [nonBlank_of_not_isMissing hgiven]
      cases given with
      | none => exact absurd (by nofun) hgiven
      | some text => exact .given hgiven

/-- What is kept of the value that is given, or else of the other one, is missing when both are
missing or the first one is in the way. -/
theorem kept_eq_none_iff {given other : Option String} :
    nonBlank (given.or other) = none ↔
      (IsMissing given ∧ IsMissing other) ∨ Shadows given other := by
  rw [nonBlank_eq_none_iff]
  cases given with
  | none =>
    have hnone : IsMissing none := by nofun
    simp [Shadows, hnone]
  | some text =>
    by_cases hother : IsMissing other <;> simp [Shadows, hother]

/-- What is kept of the value that is given, or else of the other one, is the first value just when
nothing is shadowed. -/
theorem isFirst_kept_iff {given other : Option String} :
    IsFirst given other (nonBlank (given.or other)) ↔ ¬Shadows given other := by
  rw [isFirst_iff]
  cases given with
  | none => simp [Shadows, nonBlank]
  | some text =>
    rw [Option.some_or]
    by_cases htext : IsMissing (some text)
    · rw [nonBlank_of_isMissing htext, Option.none_or, eq_comm, nonBlank_eq_none_iff]
      simp [Shadows, htext]
    · rw [nonBlank_of_not_isMissing htext, Option.some_or]
      simp [Shadows, htext]

/-! ### The session -/

/-- **Each part of the session is the first value that is not missing**, of what is given and what
is found or remembered behind it, just when no blank value is given before another one. Such a value
leaves the session without that part, as if both were missing. -/
theorem settings_first_iff (inv : Invocation) (profile : Profile)
    (discover : String → Option String) :
    let settings := resolveSettings inv profile discover
    let found := discover settings.baseUrl
    ((IsFirst inv.token found settings.session.credential ↔ ¬Shadows inv.token found) ∧
      (IsFirst inv.role profile.userRole settings.session.role ↔
        ¬Shadows inv.role profile.userRole) ∧
      (IsFirst inv.userId profile.userId settings.session.userId ↔
        ¬Shadows inv.userId profile.userId)) ∧
    (settings.session.credential = none ↔
      (IsMissing inv.token ∧ IsMissing found) ∨ Shadows inv.token found) ∧
    (settings.session.role = none ↔
      (IsMissing inv.role ∧ IsMissing profile.userRole) ∨ Shadows inv.role profile.userRole) ∧
    (settings.session.userId = none ↔
      (IsMissing inv.userId ∧ IsMissing profile.userId) ∨ Shadows inv.userId profile.userId) :=
  ⟨⟨isFirst_kept_iff, isFirst_kept_iff, isFirst_kept_iff⟩, kept_eq_none_iff, kept_eq_none_iff,
    kept_eq_none_iff⟩

/-- A variable of the environment that is set to nothing keeps an access token from being used that
is found elsewhere. -/
theorem credential_shadowed :
    readArgs [("MCPDASH_API_KEY", "")] ["mcpdash"] =
        .ok ⟨none, some "", none, none, none, false, none⟩ ∧
      (resolveSettings ⟨none, some "", none, none, none, false, none⟩ ⟨none, none, none⟩
        fun _ => some "d").session.credential = none ∧
      IsFirst (some "") (some "d") (some "d") := by
  refine ⟨by rfl, by decide, .other ?_ ?_⟩
  · rw [← nonBlank_eq_none_iff]
    decide
  · rw [← nonBlank_eq_none_iff]
    decide

end McpConsole.CommandLine
