import McpConsole.Session.Basic

/-!
# Missing values

A session counts a blank value as missing. It is complete when none of the values that it was made
of is missing.
-/

namespace McpConsole

namespace Session

/-- Whether a value counts as missing: there is none, or it holds nothing but blanks. -/
def IsMissing (value : Option String) : Prop :=
  ∀ text, value = some text → ∀ c ∈ text.toList, Text.isBlank c = true

theorem nonBlank_eq_none_iff (value : Option String) :
    Text.nonBlank value = none ↔ IsMissing value := by
  cases value with
  | none => simp [Text.nonBlank, IsMissing]
  | some text => simp [Text.nonBlank, IsMissing, Text.isBlankText, Option.filter]

theorem isComplete_eq_false_iff (s : Session) :
    s.isComplete = false ↔ s.credential = none ∨ s.role = none ∨ s.userId = none := by
  obtain ⟨credential, role, userId⟩ := s
  cases credential <;> cases role <;> cases userId <;> simp [isComplete, missing]

/-- **Blank values are as good as none** in a session that is made of them. -/
theorem isComplete_ofValues (credential role userId : Option String) :
    (ofValues credential role userId).isComplete = false ↔
      IsMissing credential ∨ IsMissing role ∨ IsMissing userId := by
  rw [isComplete_eq_false_iff]
  simp only [ofValues, nonBlank_eq_none_iff]

end Session

end McpConsole
