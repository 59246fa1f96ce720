import McpConsole.Proofs.Text.Blank
import McpConsole.Session.Role

/-!
# Roles by their labels

A role is read from its identifier or from the label that the console shows for it. The label of a
role that was read is read as the same role again, with one exception (`parse_label`): the label of
the organisation's administrator means nothing, so that only the identifier makes one.

`label_comesBack_iff` says that a role and its rights come back from the label exactly when the text
was not that identifier, and `label_loses_rights` has the rights lost.
-/

namespace McpConsole.Role

open McpConsole.Text

theorem parse_of_trimmed {text : String} (h : trimmed text = "org_admin") :
    parse text = .orgAdmin := by
  simp [parse, h]

/-- A role that no identifier and no label names has the trimmed text as its label. -/
theorem parse_cases (text : String) :
    parse text = .proxyAdmin ∨ parse text = .proxyAdminViewer ∨
      (parse text = .orgAdmin ∧ trimmed text = "org_admin") ∨ parse text = .internalUser ∨
      parse text = .internalUserViewer ∨ parse text = .other (trimmed text) := by
  unfold parse
  dsimp only
  split_ifs <;> simp_all

theorem parse_trimmed (text : String) : parse (trimmed text) = parse text := by
  simp only [parse, trimmed_trimmed]

/-- **What is read from a label**: the role that it was made for, or else a role without a name of
its own. -/
theorem parse_label (text : String) :
    parse (parse text).label =
      if trimmed text = "org_admin" then .other "Org Admin" else parse text := by
  split
  · rename_i horg
    rw [parse_of_trimmed horg]
    decide
  · rename_i horg
    rcases parse_cases text with h | h | ⟨-, h⟩ | h | h | h
    · rw [h]
      decide
    · rw [h]
      decide
    · exact absurd h horg
    · rw [h]
      decide
    · rw [h]
      decide
    · rw [h, label, parse_trimmed, h]

/-- **A role comes back from its label**, and so do its rights, exactly when it was not read from the
identifier of the organisation's administrator. The proxy's administrator is always told by both. -/
theorem label_comesBack_iff (text : String) :
    (parse (parse text).label = parse text ↔ trimmed text ≠ "org_admin") ∧
      ((parse (parse text).label).isAdmin = (parse text).isAdmin ↔ trimmed text ≠ "org_admin") ∧
      (parse (parse text).label).isProxyAdmin = (parse text).isProxyAdmin := by
  rw [parse_label]
  by_cases horg : trimmed text = "org_admin"
  · rw [if_pos horg, parse_of_trimmed horg]
    simp [horg, isAdmin, isProxyAdmin]
  · simp [horg]

/-- The organisation's administrator is no administrator any more once the label is read. -/
theorem label_loses_rights : parse (parse "org_admin").label ≠ parse "org_admin" ∧
    (parse "org_admin").isAdmin = true ∧ (parse (parse "org_admin").label).isAdmin = false := by
  decide

end McpConsole.Role
