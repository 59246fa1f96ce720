import McpConsole.Disk.Basic

/-!
# Writing and reading again

A file that was written is read as it was written (`readText_of_write`): a file is never put where a
folder is, so that every place on the way is found as before. What is written does not matter for
whether it can be (`write_eq_ok_iff`).
-/

namespace McpConsole.Disk

variable {disk : Disk} {place : Place}

/-- What was done to the end went well step by step. -/
theorem exists_of_bind {α β : Type} {first : Except DiskError α} {next : α → Except DiskError β}
    {b : β} (h : first >>= next = .ok b) : ∃ a, first = .ok a ∧ next a = .ok b := by
  cases first with
  | error cause => cases h
  | ok a => exact ⟨a, rfl, h⟩

/-! ### Places -/

theorem entry?_nil (disk : Disk) : disk.entry? [] = some .folder := rfl

theorem entry?_put (disk : Disk) (place : Place) (entry : Entry) (hne : place ≠ []) :
    Disk.entry? (disk.put place entry) place = some entry := by
  have hplace : place.isEmpty = false := by simpa using hne
  have hfilter : (disk.entries.filter fun old => old.1 != place).find?
      (fun old => old.1 == place) = none := by
    rw [List.find?_eq_none]
    intro old hold
    have hold := (List.mem_filter.1 hold).2
    simpa using hold
  simp [put, entry?, hplace, hfilter]

theorem entry?_put_of_ne (disk : Disk) {place other : Place} (entry : Entry) (h : other ≠ place) :
    Disk.entry? (disk.put place entry) other = disk.entry? other := by
  have hlast : (place == other) = false := by simpa using fun he => h he.symm
  have hold : ∀ old : Place × Entry,
      decide ((old.1 != place) = true ∧ (old.1 == other) = true) = (old.1 == other) := by
    intro old
    by_cases he : old.1 = other
    · simp [he, h]
    · simp [he]
  have hfind : (disk.put place entry).entries.find? (fun old => old.1 == other) =
      disk.entries.find? fun old => old.1 == other := by
    rw [put, List.find?_append, List.find?_filter, List.find?_cons, hlast]
    simp only [hold, List.find?_nil, Option.or_none]
  unfold entry?
  rw [hfind]

/-! ### Ways -/

/-- The present folder and all folders of a disk are there on another one. -/
structure Keeps (disk other : Disk) : Prop where
  here : other.here = disk.here
  folder : ∀ place, disk.entry? place = some .folder → other.entry? place = some .folder

namespace Keeps

variable {other : Disk}

theorem enter (h : disk.Keeps other) {here there : Place} {name : String}
    (henter : disk.enter here name = .ok there) : other.enter here name = .ok there := by
  unfold Disk.enter at henter ⊢
  split at henter
  · cases henter
  · cases henter
  · rename_i hfolder
    rw [h.folder here hfolder]
    exact henter

theorem foldlM_enter (h : disk.Keeps other) (names : List String) {here there : Place}
    (henter : names.foldlM disk.enter here = .ok there) :
    names.foldlM other.enter here = .ok there := by
  induction names generalizing here with
  | nil => exact henter
  | cons name names ih =>
    rw [List.foldlM_cons] at henter ⊢
    obtain ⟨next, hnext, hnames⟩ := exists_of_bind henter
    rw [h.enter hnext]
    exact ih hnames

/-- A way that could be gone leads to the same place. -/
theorem locatePath (h : disk.Keeps other) {path : String} {there : Place}
    (hpath : disk.locatePath path = .ok there) : other.locatePath path = .ok there := by
  unfold Disk.locatePath at hpath ⊢
  split at hpath
  · cases hpath
  · rename_i hne
    rw [if_neg hne, locate, h.here]
    exact h.foldlM_enter _ hpath

end Keeps

/-- Where no folder was, a file is in no way. -/
theorem keeps_put (content : ByteArray) (hplace : disk.entry? place ≠ some .folder) :
    disk.Keeps (disk.put place (.file content)) where
  here := rfl
  folder other hfolder := by
    have hne : other ≠ place := by
      rintro rfl
      exact hplace hfolder
    rw [entry?_put_of_ne disk _ hne, hfolder]

/-! ### Files -/

/-- A file can be written where no folder is and no folder is meant. -/
def CanWrite (disk : Disk) (path : String) (place : Place) : Prop :=
  disk.locatePath path = .ok place ∧ disk.entry? place ≠ some .folder ∧
    Path.meansFolder path = false

theorem write_of_canWrite {path : String} (content : ByteArray) (h : disk.CanWrite path place) :
    disk.write path content = .ok (disk.put place (.file content)) := by
  obtain ⟨hpath, hentry, hfile⟩ := h
  rw [write, hpath]
  simp only [bind, Except.bind, hfile]
  cases he : disk.entry? place with
  | none => rfl
  | some entry =>
    cases entry with
    | folder => exact absurd he hentry
    | file old => rfl

/-- **When a file is written**, and what the disk is then. -/
theorem write_eq_ok_iff (disk : Disk) (path : String) (content : ByteArray) (after : Disk) :
    disk.write path content = .ok after ↔
      ∃ place, disk.CanWrite path place ∧ after = disk.put place (.file content) := by
  constructor
  · intro h
    obtain ⟨place, hpath, hwrite⟩ := exists_of_bind h
    have hcan : disk.CanWrite path place := by
      refine ⟨hpath, ?_, ?_⟩
      · intro hfolder
        rw [hfolder] at hwrite
        cases hwrite
      · split at hwrite
        · cases hwrite
        · split at hwrite
          · cases hwrite
          · exact Bool.eq_false_iff.2 (by assumption)
        · split at hwrite
          · cases hwrite
          · exact Bool.eq_false_iff.2 (by assumption)
    exact ⟨place, hcan, Except.ok.inj (h.symm.trans (write_of_canWrite content hcan))⟩
  · rintro ⟨place, hcan, rfl⟩
    exact write_of_canWrite content hcan

theorem read_of_write {path : String} {content : ByteArray} {after : Disk}
    (h : disk.write path content = .ok after) : after.read path = .ok content := by
  obtain ⟨place, ⟨hpath, hentry, hfile⟩, rfl⟩ := (write_eq_ok_iff disk path content after).1 h
  have hne : place ≠ [] := by
    rintro rfl
    exact hentry (Disk.entry?_nil disk)
  rw [read, (keeps_put content hentry).locatePath hpath]
  simp only [bind, Except.bind, entry?_put disk place _ hne, hfile]
  rfl

theorem fromUTF8?_toUTF8 (text : String) : String.fromUTF8? text.toUTF8 = some text := by
  rw [String.fromUTF8?, String.toUTF8_eq_toByteArray, dif_pos text.isValidUTF8]
  rfl

/-- **A text that was written is read again.** -/
theorem readText_of_write {path text : String} {after : Disk}
    (h : disk.write path text.toUTF8 = .ok after) : after.readText path = .ok text := by
  rw [readText, read_of_write h]
  simp only [bind, Except.bind, fromUTF8?_toUTF8]

end McpConsole.Disk
