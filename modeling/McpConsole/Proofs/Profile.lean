import McpConsole.Profile
import McpConsole.Proofs.Disk.Write
import McpConsole.Proofs.Json.Record

/-!
# A profile that was written is read again

A profile is written as a record of the values that it remembers, and read back as it was
(`ofText_text`). Whether it can be written depends on the disk and on the path alone
(`save_eq_ok_iff`). When it was, it is loaded again (`load_of_save`).
-/

namespace McpConsole.Profile

open McpConsole.Json

/-! ### The text -/

/-- The keys of a profile. -/
def keys : List String :=
  ["base_url", "user_role", "user_id"]

/-- The fields of a profile. -/
def fields (p : Profile) : List (String × Option String) :=
  [("base_url", p.baseUrl), ("user_role", p.userRole), ("user_id", p.userId)]

theorem member_eq (key : String) (value : Option String) :
    member key value = (present [(key, value)]).map fun field => (field.1, .ofOption field.2) := by
  cases value with
  | none => rfl
  | some text => rfl

theorem toValue_eq (p : Profile) : p.toValue = .record (present p.fields) := by
  simp only [toValue, member_eq, present, ← List.map_append, ← List.filter_append]
  rfl

theorem nodup_fields (p : Profile) : (p.fields.map Prod.fst).Nodup := by
  have hkeys : keys.Nodup := by decide
  exact hkeys

theorem read?_text (p : Profile) : read? p.text.toList = some (.record (present p.fields)) := by
  rw [text, toValue_eq, Value.prettyText, String.toList_ofList, read?_indented_record]

theorem ofNode?_record (p : Profile) : ofNode? (.record (present p.fields)) = some p := by
  have hfields : (Node.record (present p.fields)).fields? keys = some
      [p.baseUrl.map fun s => .string (some s), p.userRole.map fun s => .string (some s),
        p.userId.map fun s => .string (some s)] := by
    rw [fields?_present p.nodup_fields]
    simp [keys, fields, List.lookup_cons]
  rw [keys] at hfields
  rw [ofNode?, hfields]
  simp only [optionalString?_string, Option.bind_eq_bind, Option.bind_some]

/-- **A profile is what its text means.** -/
theorem ofText_text (p : Profile) : ofText p.text = p := by
  rw [ofText, read?_text, Option.bind_some, ofNode?_record, Option.getD_some]

/-- The text of a profile has no other keys. -/
theorem mem_keys_of_mem_present {p : Profile} {field : String × Option String}
    (h : field ∈ present p.fields) : field.1 ∈ keys :=
  List.mem_map_of_mem (List.mem_of_mem_filter h)

/-! ### The file -/

/-- **When a profile is written**, and what the disk is then. -/
theorem save_eq_ok_iff (p : Profile) (disk : Disk) (path : String) (after : Disk) :
    p.save disk path = .ok after ↔
      ∃ made place, disk.makeParents path = .ok made ∧ made.CanWrite path place ∧
        after = made.put place (.file p.text.toUTF8) := by
  cases hmade : disk.makeParents path with
  | error cause => simp [save, hmade, bind, Except.bind]
  | ok made =>
    have hsave : p.save disk path = made.write path p.text.toUTF8 := by
      rw [save, hmade]
      rfl
    rw [hsave, Disk.write_eq_ok_iff]
    simp

theorem readText_of_save {p : Profile} {disk after : Disk} {path : String}
    (h : p.save disk path = .ok after) : after.readText path = .ok p.text := by
  obtain ⟨made, place, -, hcan, rfl⟩ := (save_eq_ok_iff p disk path after).1 h
  exact Disk.readText_of_write (Disk.write_of_canWrite p.text.toUTF8 hcan)

/-- **A profile that was written is loaded again.** -/
theorem load_of_save {p : Profile} {disk after : Disk} {path : String}
    (h : p.save disk path = .ok after) : load after path = .ok p := by
  rw [load, readText_of_save h, ofRead, ofText_text]

end McpConsole.Profile
